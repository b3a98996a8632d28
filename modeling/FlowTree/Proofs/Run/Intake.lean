import FlowTree.Proofs.Run.Calls
import FlowTree.Proofs.Template.Resolution

/-! # The request of a context

A context takes in one request, the first. No effect of a node writes the parameters, the request or the
flow, and `params` comes before any variable of that name. So a parameter is found behind it, whatever the
nodes assign. No block of the catalogue looks at the request that it is handed. A later request changes
nothing at all. -/

namespace FlowTree

/-- The text that a request gives a query parameter; of several the last one. -/
def Request.queryText? (request : Request) (k : String) : Option String :=
  Fields.get? request.query.reverse k

/-- The value that a flow declares for a query parameter: that of the last declaration, and the empty text if
    it has no default or null. -/
def Flow.declared? (flow : Flow) (k : String) : Option Json :=
  (flow.queryParams.reverse.find? fun p => p.key = k).map fun p =>
    match p.default with
    | none | some .null => .str ""
    | some value => value

/-! ### Parameters -/

theorem QueryParam.given_ne_null (j : Option Json) : given j ≠ some .null := by
  unfold given
  split <;> simp_all

theorem QueryParam.default_ne_null {j : Json} {p : QueryParam} (h : ofJson? j = some p) : p.default ≠ some .null := by
  unfold ofJson? at h
  split at h
  · split at h
    · cases h; exact given_ne_null _
    · cases h; exact given_ne_null _
    · cases h
  · cases h; simp
  · cases h; exact given_ne_null _
  · cases h

theorem Flow.default_ne_null {flow : Flow} {p : QueryParam} (hp : p ∈ flow.queryParams) : p.default ≠ some .null := by
  unfold queryParams at hp
  split at hp
  · obtain ⟨hread, -⟩ := List.mem_filter.mp hp
    obtain ⟨j, -, hj⟩ := List.mem_filterMap.mp hread
    exact QueryParam.default_ne_null hj
  · cases hp

/-- Of several declarations the last one counts. -/
theorem Flow.get?_defaults (flow : Flow) (k : String) : flow.defaults.get? k = flow.declared? k := by
  have hdefaults : flow.defaults =
      Fields.insertAll [] (flow.queryParams.map fun p => (p.key, p.default.getD (.str ""))) := by
    rw [defaults, Fields.insertAll, List.foldl_map]
  rw [hdefaults, Fields.get?_insertAll, ← List.map_reverse, Fields.get?_map, Fields.get?, Option.or_none, declared?]
  cases hfind : flow.queryParams.reverse.find? fun p => p.key = k with
  | none => rfl
  | some p =>
    have hne := default_ne_null (List.mem_reverse.mp (List.mem_of_find?_eq_some hfind))
    rw [Option.map_some, Option.map_some]
    split
    next h => rw [h, Option.getD_none]
    next h => exact absurd h hne
    next value _ h => rw [h, Option.getD_some]

/-- What the request gives stands above what the flow declares. -/
theorem Context.get?_paramsOf (flow : Flow) (request : Request) (k : String) :
    (paramsOf flow request).get? k = ((request.queryText? k).map .str).or (flow.declared? k) := by
  rw [paramsOf, Fields.get?_insertAll, ← List.map_reverse, Flow.get?_defaults]
  exact congrArg (·.or (flow.declared? k)) (Fields.get?_mapValues Json.str request.query.reverse k)

namespace Walk

variable {v : Services} {node : Node} {c d : Context} {output : Option Json} {flow : Flow} {request : Request}

/-! ### The context -/

/-- The context has taken in the request, and no other, for the flow. -/
structure TakenIn (flow : Flow) (request : Request) (c : Context) : Prop where
  params_eq : c.params = Context.paramsOf flow request
  get?_params : ∀ k, c.params.get? k = ((request.queryText? k).map .str).or (flow.declared? k)
  scope?_req : c.scope? "req" = some (.value request.toJson)
  scope?_flow : c.scope? "flow" = some (.value flow.json)
  resolve_query : ∀ a defaults k text, Path.IsPlain k → request.queryText? k = some text →
    Path.resolve a c defaults ("params." ++ k) = .str text
  resolve_declared : ∀ a defaults k value, Path.IsPlain k → request.queryText? k = none →
    flow.declared? k = some value → Path.resolve a c defaults ("params." ++ k) = value

/-- The flow and the request stand in the context, with the parameters that they make. -/
def Holds (flow : Flow) (request : Request) (c : Context) : Prop :=
  c.flow = flow ∧ c.request = some request ∧ c.params = Context.paramsOf flow request

theorem Holds.takenIn (h : Holds flow request c) : TakenIn flow request c := by
  obtain ⟨rfl, hrequest, hparams⟩ := h
  have hget : ∀ k, c.params.get? k = ((request.queryText? k).map .str).or (c.flow.declared? k) := by
    intro k
    rw [hparams, Context.get?_paramsOf]
  constructor
  case params_eq => exact hparams
  case get?_params => exact hget
  case scope?_req => simp [Context.scope?, Context.requestJson, hrequest]
  case scope?_flow => simp [Context.scope?]
  case resolve_query =>
    intro a defaults k text hplain htext
    exact Path.resolve_param hplain (by rw [hget, htext]; rfl)
  case resolve_declared =>
    intro a defaults k value hplain htext hvalue
    exact Path.resolve_param hplain (by rw [hget, htext, hvalue]; rfl)

theorem Effect.holds (h : Effect node c output d) (hc : Holds flow request c) : Holds flow request d := by
  cases h <;> exact hc

theorem holds_receive (h : c.isInitialized = false) (request : Request) :
    Holds c.flow request (c.receive request) := by
  rw [Context.receive, if_neg (by simp [h])]
  exact ⟨rfl, rfl, rfl⟩

/-! ### The blocks -/

theorem run_request {block : Block} (hb : (Registry.standard v).get? node.kind = some block) (request request' : Request)
    (s : Session) : block.run node request s = block.run node request' s := by
  rcases standard_cases hb with ⟨-, rfl⟩ | ⟨-, rfl⟩ | ⟨-, rfl⟩ | ⟨-, rfl⟩ | ⟨-, rfl⟩ | ⟨-, rfl⟩ | ⟨-, rfl⟩ |
    ⟨-, rfl⟩ | ⟨-, rfl⟩ | ⟨-, rfl⟩ | ⟨-, rfl⟩ | ⟨-, rfl⟩ | ⟨-, rfl⟩ | ⟨-, rfl⟩ <;>
    -- The request is gone from the opened blocks. They are not compared by running them.
    simp only [Block.condition, Block.decodeText, Block.encodeText, Block.sendError, Block.generateText,
      Block.manipulateImage, Block.manipulateText, Block.onText, Block.request, Block.respond, Block.sendEmail,
      Block.setVar, Block.start]

theorem visit_request (v : Services) (request request' : Request) (node : Node) (s : Session) :
    visit (.standard v) request node s = visit (.standard v) request' node s := by
  cases hb : (Registry.standard v).get? node.kind with
  | none => rw [visit_of_none hb, visit_of_none hb]
  | some block => rw [visit_of_some hb, visit_of_some hb, run_request hb request request']

theorem visits_congr {r : Registry} {request request' : Request}
    (h : ∀ node s, visit r request node s = visit r request' node s) (place : Place) (node : Node) (s : Session) :
    visits r request place node s = visits r request' place node s := by
  have hvisit : ∀ place node s, visitOf r request place node s = visitOf r request' place node s := by
    intro place node s
    rw [visitOf, visitOf, h]
  refine (visits_induction r request
    (P := fun place node s => visits r request place node s = visits r request' place node s)
    (Q := fun parent i children s =>
      visitsBelow r request parent i children s = visitsBelow r request' parent i children s)
    ?stop ?go ?nil ?take ?skip).1 place node s
  case stop =>
    intro place node s hc
    rw [visits_of_not_continues hc, visits_of_not_continues (hvisit .. ▸ hc), hvisit]
  case go =>
    intro place node s hc ih
    rw [visits_of_continues hc, visits_of_continues (hvisit .. ▸ hc), ih, hvisit]
  case nil =>
    intro parent i s
    rw [visitsBelow_nil, visitsBelow_nil]
  case take =>
    intro parent i child rest s hf ih ih'
    rw [visitsBelow_of_follows hf, visitsBelow_of_follows hf, ih', ih]
  case skip =>
    intro parent i child rest s hf ih
    rw [visitsBelow_of_not_follows hf, visitsBelow_of_not_follows hf, ih]

theorem runFlow_request (v : Services) (request request' : Request) (node : Option Node) {s : Session}
    (h : s.context.isInitialized = true) :
    runFlow (.standard v) request node s = runFlow (.standard v) request' node s := by
  have hreceive : ∀ request, s.modify (·.receive request) = s := fun request =>
    congrArg (fun c => { s with context := c }) (receive_of_initialized h request)
  unfold runFlow
  rw [hreceive, hreceive]
  cases node with
  | none => rfl
  | some node =>
    simp only [walk_eq_visits _ _ [], visits_congr (visit_request v request request')]

/-- Of the requests that come in one after the other on a context, the first counts alone. -/
structure FirstRequestCounts (v : Services) : Prop where
  takenIn : ∀ c call calls, c.isInitialized = false → ∀ u ∈ callVisits (.standard v) (call :: calls) c,
    TakenIn c.flow call.request u.before.context ∧ TakenIn c.flow call.request u.after.context
  runFlow_eq : ∀ s : Session, s.context.isInitialized = true → ∀ node request request',
    runFlow (.standard v) request node s = runFlow (.standard v) request' node s

theorem firstRequest_counts (v : Services) : FirstRequestCounts v where
  takenIn c call calls hc u hu := by
    obtain ⟨d, heffects⟩ := effects_callVisits (v := v) call calls c
    obtain ⟨-, hlog⟩ := heffects.keeps Effect.holds (holds_receive hc call.request)
    exact ⟨(hlog u hu).1.takenIn, (hlog u hu).2.takenIn⟩
  runFlow_eq _ h node request request' := runFlow_request v request request' node h

/-- A flow that declares a parameter twice. -/
def greeting : Flow :=
  .ofNode (.mk "greet" "start" [("queryParams", .arr [.arr [.str "name"], .arr [.str "name", .str "nobody"]])] [] none)

/-- A node that assigns to the names of the parameters and of one of them. -/
def shadowing : Node :=
  .mk "shadow" "setVar" [("name", .str "params"), ("value", .str "own")]
    [.mk "again" "setVar" [("name", .str "name"), ("value", .str "own")] [] none] none

def requestFor (name : String) : Request :=
  (Request.new "GET" "/").withQuery "name" name

/-- A call that names nobody, and then one for Bob. -/
def greetings : List Call :=
  [{ node := some greeting.root, request := .new "GET" "/", exchange := { peer := .unreachable } },
    { node := some shadowing, request := requestFor "Bob", exchange := { peer := .unreachable } }]

theorem greetings_name :
    ((callVisits (.standard .still) greetings (.new greeting)).length = 3 ∧
      ∀ u ∈ callVisits (.standard .still) greetings (.new greeting),
        Path.resolve Services.still.ambient u.after.context [] "params.name" = .str "nobody") ∧
    runFlow (.standard .still) (requestFor "Bob") (some shadowing)
        (begun { peer := .unreachable } greeting (requestFor "Ann")) =
      runFlow (.standard .still) (requestFor "Carol") (some shadowing)
        (begun { peer := .unreachable } greeting (requestFor "Ann")) := by
  have hcounts : FirstRequestCounts Services.still := firstRequest_counts Services.still
  have hplain : Path.IsPlain "name" := ⟨by decide, by decide, by decide, by decide⟩
  refine ⟨⟨by decide, fun u hu => ?_⟩, hcounts.runFlow_eq _ rfl _ _ _⟩
  exact (hcounts.takenIn _ _ _ rfl u hu).2.resolve_declared _ _ "name" _ hplain (by decide) rfl

end Walk
end FlowTree

import FlowTree.Proofs.Run.Results

/-! # The copies among the variables

When a request is taken in, the parameters, the request, the endpoint and the flow are copied among the
variables. The start renews the copy of the endpoint with the endpoint itself, and nothing else writes there
but a request that happens to have the name of a copy. Until then the copy agrees with what it is one of, and
a path may go through either, as long as no other value of those names comes in between. -/

namespace FlowTree.Walk

/-- The parts of the context that are copied among the variables. -/
def copiedRoots : List String :=
  ["params", "req", "endpoint", "flow"]

/-- The variable of the name is equal to the part of the context of that name. -/
def Copied (name : String) (c : Context) : Prop :=
  c.vars.get? name = (c.scope? name).map Scope.toJson

/-- A request has put out a result under the name of the copy; a start renews the copy of the endpoint. -/
def Replaced (name : String) (log : List Visit) : Prop :=
  ∃ earlier u later, log = earlier ++ u :: later ∧ PutsOut name u ∧
    (name = "endpoint" → ∀ w ∈ later, w.node.kind ≠ "start")

variable {v : Services} {node : Node} {c d : Context} {output : Option Json} {name : String} {u : Visit}
  {log : List Visit}

/-! ### The names of the copies -/

theorem mem_copiedRoots : name ∈ copiedRoots ↔ name = "params" ∨ name = "req" ∨ name = "endpoint" ∨ name = "flow" := by
  simp [copiedRoots]

theorem isPlain_of_copiedRoot (hname : name ∈ copiedRoots) : Path.IsPlain name := by
  rcases mem_copiedRoots.mp hname with rfl | rfl | rfl | rfl <;> decide

theorem exists_scope_of_copiedRoot (hname : name ∈ copiedRoots) (c : Context) : ∃ root, c.scope? name = some root := by
  rcases mem_copiedRoots.mp hname with rfl | rfl | rfl | rfl <;> exact ⟨_, rfl⟩

theorem not_helper_of_copiedRoot (hname : name ∈ copiedRoots) : Helper.ofName? name = none := by
  rcases mem_copiedRoots.mp hname with rfl | rfl | rfl | rfl <;> rfl

/-! ### One visit -/

theorem Effect.kept (h : Effect node c output d) : d.flow = c.flow ∧ d.request = c.request ∧ d.params = c.params := by
  cases h <;> exact ⟨rfl, rfl, rfl⟩

/-- Of the parts that are copied only the endpoint can change. -/
theorem Effect.scope?_eq (h : Effect node c output d) (hname : name ∈ copiedRoots)
    (hendpoint : name = "endpoint" → d.endpoint = c.endpoint) : d.scope? name = c.scope? name := by
  obtain ⟨hflow, hrequest, hparams⟩ := h.kept
  rcases mem_copiedRoots.mp hname with rfl | rfl | rfl | rfl
  · simp [Context.scope?, hparams]
  · simp [Context.scope?, Context.requestJson, hrequest]
  · simp [Context.scope?, hendpoint rfl]
  · simp [Context.scope?, hflow]

theorem copied_endpoint_iff : Copied "endpoint" c ↔ c.vars.get? "endpoint" = some c.endpoint := Iff.rfl

theorem copied_receive (hc : c.isInitialized = false) (hname : name ∈ copiedRoots) (request : Request) :
    Copied name (c.receive request) := by
  rw [Context.receive, if_neg (by simp [hc]), Copied]
  rcases mem_copiedRoots.mp hname with rfl | rfl | rfl | rfl <;>
    simp [Context.scope?, Context.requestJson, Fields.insertAll, Fields.get?_insert, Scope.toJson]

theorem Effect.copied (h : Effect node c output d) (hname : name ∈ copiedRoots)
    (hnot : ¬(node.kind = "request" ∧ resultKey node = name ∧ output.isSome = true)) (hc : Copied name c) :
    Copied name d := by
  rcases h.variables_cases with ⟨hvars, hendpoint, -⟩ | ⟨-, -, hvars⟩ | ⟨hk, hendpoint, result, hout, hvars⟩
  · rw [Copied, hvars, h.scope?_eq hname fun _ => hendpoint]
    exact hc
  · by_cases hn : name = "endpoint"
    · subst hn
      rw [copied_endpoint_iff, hvars, Fields.get?_insert_self]
    · rw [Copied, hvars, Fields.get?_insert_of_ne _ _ hn, h.scope?_eq hname fun heq => absurd heq hn]
      exact hc
  · have hkey : name ≠ resultKey node := fun heq => hnot ⟨hk, heq.symm, by rw [hout]; rfl⟩
    rw [Copied, hvars, Fields.get?_insert_of_ne _ _ hkey,
      Fields.get?_insert_of_ne _ _ (ne_append_body (isPlain_of_copiedRoot hname).dotless _), h.scope?_eq hname fun _ => hendpoint]
    exact hc

theorem copied_of_start (hk : node.kind = "start") (request : Request) (s : Session) :
    Copied "endpoint" (visit (.standard v) request node s).2.context := by
  have hget : (Registry.standard v).get? node.kind = some .start := by simp [Registry.standard, Fields.get?, hk]
  rw [visit_of_get? hget (by simp [hk]), copied_endpoint_iff]
  exact Fields.get?_insert_self ..

/-! ### Runs -/

theorem Replaced.concat (h : Replaced name log) (hu : name = "endpoint" → u.node.kind ≠ "start") :
    Replaced name (log ++ [u]) := by
  obtain ⟨earlier, w, later, rfl, hw, hlater⟩ := h
  refine ⟨earlier, w, later ++ [u], by simp, hw, fun hn x hx => ?_⟩
  rcases List.mem_append.mp hx with hx | hx
  · exact hlater hn x hx
  · rw [List.mem_singleton.mp hx]
    exact hu hn

theorem PutsOut.replaced (h : PutsOut name u) : Replaced name (log ++ [u]) :=
  ⟨log, u, [], rfl, h, by simp⟩

theorem not_replaced_of_start (hk : u.node.kind = "start") (log : List Visit) : ¬Replaced "endpoint" (log ++ [u]) := by
  rintro ⟨earlier, w, later, hlog, hputs, hlater⟩
  rcases List.eq_nil_or_concat' later with rfl | ⟨later, x, rfl⟩
  · obtain rfl : u = w := (List.concat_inj.mp (by simpa using hlog)).2
    have hrequest := hputs.1
    simp [hk] at hrequest
  · have hlog' : log ++ [u] = (earlier ++ w :: later) ++ [x] := by simpa using hlog
    obtain rfl : u = x := by simpa using (List.append_inj' hlog' rfl).2
    exact hlater rfl u (by simp) hk

/-- A copy that agrees goes on to agree until it is replaced. -/
theorem Effects.copied (h : Effects c log d) (hname : name ∈ copiedRoots) (hc : Copied name c)
    (hstart : ∀ u ∈ log, u.node.kind = "start" → Copied "endpoint" u.after.context) (hnot : ¬Replaced name log) :
    Copied name d := by
  -- The last visit comes first: it renews the copy, or else leaves it as the visits before it did.
  induction log using List.reverseRecOn generalizing d with
  | nil =>
    obtain rfl : d = c := h
    exact hc
  | append_singleton log u ih =>
    obtain ⟨_, hlog, ⟨rfl, heffect⟩, rfl⟩ := h.of_append
    by_cases hrenewed : name = "endpoint" ∧ u.node.kind = "start"
    · rw [hrenewed.1]
      exact hstart u (by simp) hrenewed.2
    · have hbefore := ih hlog (fun w hw => hstart w (List.mem_append_left _ hw))
        fun hreplaced => hnot (hreplaced.concat fun hn hk => hrenewed ⟨hn, hk⟩)
      exact heffect.copied hname (fun hputs => hnot (PutsOut.replaced hputs)) hbefore

/-! ### Paths through a copy -/

/-- Only the part of the context and its copy have the name, and only the variables have theirs. -/
structure NothingElse (name : String) (c : Context) (defaults : Fields Json) : Prop where
  unshadowed : ∀ n ∈ [name, "variables"], Unshadowed n c
  defaults : ∀ n ∈ [name, "variables"], defaults.get? n = none
  vars : c.vars.get? "variables" = none

section
variable {a : Ambient} {defaults : Fields Json} {root : Scope} {segs : List String} {value : Json} {path through : String}

theorem isPlain_variables : Path.IsPlain "variables" := by decide

theorem Copied.get?_vars (h : Copied name c) (hroot : c.scope? name = some root) :
    c.vars.get? name = some root.toJson := by
  rw [h, hroot, Option.map_some]

/-- What is found in the part of the context is found through its copy. -/
theorem Copied.resolve_of_resolves (h : Copied name c) (hname : name ∈ copiedRoots) (hroot : c.scope? name = some root)
    (hpath : Path.segments path = name :: segs) (hthrough : Path.segments through = "variables" :: name :: segs)
    (hresolves : Path.Resolves root.toJson segs) :
    Path.resolve a c defaults through = Path.resolve a c defaults path := by
  by_cases hempty : "" ∈ segs
  · have hout : Path.resolve a c defaults path = .str "" := Path.denotes_iff.mp (.empty_segment (by simp [hpath, hempty]))
    rw [hout]
    exact Path.denotes_iff.mp (.empty_segment (by simp [hthrough, hempty]))
  obtain ⟨value, hleads⟩ := hresolves
  have hne : "" ∉ name :: segs := by simpa [(isPlain_of_copiedRoot hname).ne_empty.symm] using hempty
  have hhead : (Path.rootValues c defaults name).head? = some root.toJson := by
    rw [Path.rootValues, hroot]
    rfl
  rw [Path.resolve_of_first_root hpath hne hhead hleads]
  have hleads' : Path.Leads (.obj c.vars) (name :: segs) value := .field (h.get?_vars hroot) hleads
  exact Path.resolve_of_first_root hthrough (by simpa using hne) rfl hleads'

theorem rootValues_of_nothingElse (h : Copied name c) (hroot : c.scope? name = some root)
    (hnothing : NothingElse name c defaults) : Path.rootValues c defaults name = [root.toJson, root.toJson] := by
  obtain ⟨hlocals, hresults, hparams⟩ := hnothing.unshadowed name (by simp)
  rw [Path.rootValues, hroot, hlocals, hresults, hparams, h.get?_vars hroot, hnothing.defaults name (by simp)]
  rfl

theorem rootValues_variables (hnothing : NothingElse name c defaults) :
    Path.rootValues c defaults "variables" = [.obj c.vars] := by
  obtain ⟨hlocals, hresults, hparams⟩ := hnothing.unshadowed "variables" (by simp)
  rw [Path.rootValues, hlocals, hresults, hparams, hnothing.vars, hnothing.defaults "variables" (by simp)]
  rfl

/-- What is not found in the part of the context is not found through its copy, and the same takes its place. -/
theorem Copied.denotes_through (h : Copied name c) (hname : name ∈ copiedRoots) (hroot : c.scope? name = some root)
    (hnothing : NothingElse name c defaults) (hnot : ¬Path.Resolves root.toJson segs)
    (hdenotes : Path.Denotes a c defaults (name :: segs) value) :
    Path.Denotes a c defaults ("variables" :: name :: segs) value := by
  have hroots := rootValues_of_nothingElse h hroot hnothing
  have hvariables := rootValues_variables hnothing
  have hstep : ∀ segs, Path.Resolves (.obj c.vars) (name :: segs) ↔ Path.Resolves root.toJson segs :=
    fun segs => Path.resolves_field (h.get?_vars hroot)
  have hnone : ∀ r ∈ Path.rootValues c defaults "variables", ¬Path.Resolves r (name :: segs) := by
    simpa [hvariables, hstep] using hnot
  have hnoHelper : Helper.ofName? "variables" = none := rfl
  have hsegments : "" ∉ name :: segs → "" ∉ "variables" :: name :: segs := by simp
  cases hdenotes with
  | empty_segment hempty => exact .empty_segment (List.mem_cons_of_mem _ hempty)
  | @root _ _ earlier later found value _ hvalues _ hleads =>
    have hfound : found ∈ [root.toJson, root.toJson] := by
      rw [← hroots, hvalues]
      exact List.mem_append_right _ List.mem_cons_self
    obtain rfl : found = root.toJson := by simpa using hfound
    exact absurd ⟨value, hleads⟩ hnot
  | helper _ _ hhelper => simp [not_helper_of_copiedRoot hname] at hhelper
  | @last _ last init _ hsegs _ _ hinit hvalue =>
    have hinit' : ∃ r ∈ Path.rootValues c defaults "variables", Path.Resolves r (name :: init) := by
      simpa [hroots, hvariables, hstep] using hinit
    have hlast : Path.Denotes a c defaults ("variables" :: ((name :: init) ++ [last])) value :=
      .last (hsegments hsegs) hnone hnoHelper hinit' hvalue
    exact hlast
  | nothing hsegs _ _ hlast =>
    refine .nothing (hsegments hsegs) hnone hnoHelper fun init last heq hinit => ?_
    cases init with
    | nil =>
      -- Then the path is the name alone, and that leads to the part of the context itself.
      obtain rfl : segs = [] := by simpa using congrArg List.tail heq
      exact absurd ⟨_, .here _⟩ hnot
    | cons n init =>
      obtain ⟨rfl, rfl⟩ := List.cons.inj heq
      refine hlast init last rfl ?_
      simpa [hroots, hvariables, hstep] using hinit

theorem segments_through (hname : name ∈ copiedRoots) (path : String) :
    Path.segments ("variables." ++ name ++ "." ++ path) = "variables" :: name :: Path.furtherSegments path := by
  have htext : "variables." ++ name ++ "." ++ path = "variables" ++ "." ++ (name ++ "." ++ path) := by
    rw [← String.toList_inj]
    simp
  rw [htext, Path.segments_dotted isPlain_variables, Path.furtherSegments_dotted (isPlain_of_copiedRoot hname)]

theorem segments_whole (hname : name ∈ copiedRoots) :
    Path.segments name = [name] ∧ Path.segments ("variables." ++ name) = ["variables", name] := by
  rcases mem_copiedRoots.mp hname with rfl | rfl | rfl | rfl <;> decide

end

/-- The path leads somewhere from the part of the context, or nothing else has a name on the way. -/
def GoesThrough (name : String) (c : Context) (defaults : Fields Json) (path : String) : Prop :=
  (∃ root, c.scope? name = some root ∧ Path.Resolves root.toJson (Path.furtherSegments path)) ∨
    NothingElse name c defaults

/-- The copy is as good as the part of the context: it agrees with it, and paths come to the same through either. -/
structure StandsIn (name : String) (c : Context) : Prop where
  copied : Copied name c
  whole : ∀ a defaults, Path.resolve a c defaults ("variables." ++ name) = Path.resolve a c defaults name
  resolve_eq : ∀ a defaults path, GoesThrough name c defaults path →
    Path.resolve a c defaults ("variables." ++ name ++ "." ++ path) = Path.resolve a c defaults (name ++ "." ++ path)
  fill_eq : ∀ a path, '}' ∉ path.toList → GoesThrough name c c.defaults path →
    Template.fill a c (Template.braced ("variables." ++ name ++ "." ++ path)) =
      Template.fill a c (Template.braced (name ++ "." ++ path))

theorem Copied.resolve_eq (h : Copied name c) (hname : name ∈ copiedRoots) {a : Ambient} {defaults : Fields Json}
    {path : String} (hgoes : GoesThrough name c defaults path) :
    Path.resolve a c defaults ("variables." ++ name ++ "." ++ path) = Path.resolve a c defaults (name ++ "." ++ path) := by
  obtain ⟨root, hroot⟩ := exists_scope_of_copiedRoot hname c
  have hpath := Path.segments_dotted (isPlain_of_copiedRoot hname) path
  have hthrough := segments_through hname path
  by_cases hresolves : Path.Resolves root.toJson (Path.furtherSegments path)
  · exact h.resolve_of_resolves hname hroot hpath hthrough hresolves
  · rcases hgoes with ⟨root', hroot', hresolves'⟩ | hnothing
    · obtain rfl := Option.some.inj (hroot.symm.trans hroot')
      exact absurd hresolves' hresolves
    · have hdenotes : Path.Denotes a c defaults (name :: Path.furtherSegments path)
          (Path.resolve a c defaults (name ++ "." ++ path)) := hpath ▸ Path.denotes_iff.mpr rfl
      exact Path.denotes_iff.mp (hthrough ▸ h.denotes_through hname hroot hnothing hresolves hdenotes)

theorem Copied.standsIn (h : Copied name c) (hname : name ∈ copiedRoots) : StandsIn name c := by
  constructor
  case copied => exact h
  case whole =>
    intro a defaults
    obtain ⟨root, hroot⟩ := exists_scope_of_copiedRoot hname c
    obtain ⟨hpath, hthrough⟩ := segments_whole hname
    exact h.resolve_of_resolves hname hroot hpath hthrough ⟨_, .here _⟩
  case resolve_eq => exact fun a defaults path hgoes => h.resolve_eq hname hgoes
  case fill_eq =>
    intro a path hclosing hgoes
    have hopen : '}' ∉ name.toList := by
      rcases mem_copiedRoots.mp hname with rfl | rfl | rfl | rfl <;> decide
    rw [Template.fill, Template.fill, Template.fillWith_braced (by simp) (by simp [hopen, hclosing]),
      Template.fillWith_braced (by simp) (by simp [hopen, hclosing]), h.resolve_eq hname hgoes]

/-- From the moment in which the request is taken in, the copies stand in for what they are copies of, each as
    long as no request has replaced it. -/
structure CopiesStand (first : Context) (log : List Visit) : Prop where
  first : ∀ name ∈ copiedRoots, StandsIn name first
  before : ∀ earlier u later, log = earlier ++ u :: later → ∀ name ∈ copiedRoots, ¬Replaced name earlier →
    StandsIn name u.before.context
  after : ∀ earlier u later, log = earlier ++ u :: later → ∀ name ∈ copiedRoots, ¬Replaced name (earlier ++ [u]) →
    StandsIn name u.after.context

theorem callVisits_copiesStand (v : Services) (call : Call) (calls : List Call) (hc : c.isInitialized = false) :
    CopiesStand (c.receive call.request) (callVisits (.standard v) (call :: calls) c) := by
  obtain ⟨d, heffects⟩ := effects_callVisits (v := v) call calls c
  have hstart : ∀ u ∈ callVisits (.standard v) (call :: calls) c, u.node.kind = "start" →
      Copied "endpoint" u.after.context := by
    intro u hu hk
    obtain ⟨request, heq⟩ := visitOf_of_mem_callVisits hu
    rw [heq]
    exact copied_of_start hk request u.before
  have hrun : ∀ log more e, callVisits (.standard v) (call :: calls) c = log ++ more →
      Effects (c.receive call.request) log e → ∀ name ∈ copiedRoots, ¬Replaced name log → StandsIn name e := by
    intro log more e hlog he name hname hnot
    have hfirst := copied_receive hc hname call.request
    refine (he.copied hname hfirst (fun u hu => hstart u ?_) hnot).standsIn hname
    rw [hlog]
    exact List.mem_append_left _ hu
  constructor
  case first => exact fun name hname => (copied_receive hc hname call.request).standsIn hname
  case before =>
    intro earlier u later hlog
    rw [hlog] at heffects
    exact hrun earlier (u :: later) _ hlog heffects.before
  case after =>
    intro earlier u later hlog
    rw [hlog] at heffects
    obtain ⟨_, hearlier, ⟨rfl, heffect⟩, -⟩ := heffects.of_append
    exact hrun (earlier ++ [u]) later _ (by simp [hlog]) (hearlier.append ⟨⟨rfl, heffect⟩, rfl⟩)

/-- A start with a slug. -/
def publishing (slug : String) (children : List Node) : Node :=
  .mk "publish" "start" [("slug", .str slug)] children none

/-- A request with the name of a copy, and below it a start. -/
def renewing : Node :=
  refused "ask" "a b" "endpoint" [publishing "orders" []]

theorem renewed_standsIn : ∃ u ∈ soleVisits renewing, StandsIn "endpoint" u.after.context ∧
    Template.fill Services.still.ambient u.after.context (Template.braced "variables.endpoint.slug") = "orders" := by
  obtain ⟨ask, publish, hlog⟩ := List.length_eq_two.mp (rfl : (soleVisits renewing).length = 2)
  have hkinds : (soleVisits renewing).map (·.node.kind) = ["request", "start"] := rfl
  have hfill : ∀ u ∈ (soleVisits renewing).drop 1,
      Template.fill Services.still.ambient u.after.context (Template.braced "variables.endpoint.slug") = "orders" := by
    decide
  rw [hlog] at hkinds hfill
  have hstart : publish.node.kind = "start" := by simpa using congrArg List.getLast? hkinds
  have hstands : CopiesStand _ (soleVisits renewing) := callVisits_copiesStand Services.still _ _ rfl
  refine ⟨publish, by simp [hlog], ?_, hfill publish (by simp)⟩
  exact hstands.after [ask] publish [] hlog "endpoint" (by decide) (not_replaced_of_start hstart [ask])

/-- A start, and below it a request with the name of a copy. -/
def replacing : Node :=
  publishing "orders" [refused "ask" "a b" "endpoint" []]

/-- A node that gives the name of a copy to a local. -/
def obscuring : Node :=
  .mk "name" "setVar" [("name", .str "endpoint"), ("value", .str "abc")] [] none

/-- The result of a request may take the place of a copy. And a path that leads nowhere from the endpoint may go
    on to a local, but not through the copy. -/
theorem copies_differ :
    (∃ u ∈ soleVisits replacing, u.after.context.isInitialized = true ∧ ¬Copied "endpoint" u.after.context ∧
      Template.fill Services.still.ambient u.after.context (Template.braced "endpoint.slug") = "orders" ∧
      Template.fill Services.still.ambient u.after.context (Template.braced "variables.endpoint.slug") = "") ∧
    ∃ u ∈ soleVisits obscuring, (∀ name ∈ copiedRoots, Copied name u.after.context) ∧
      Template.fill Services.still.ambient u.after.context (Template.braced "endpoint.length") = "3" ∧
      Template.fill Services.still.ambient u.after.context (Template.braced "variables.endpoint.length") = "" := by
  constructor
  · obtain ⟨publish, ask, hlog⟩ := List.length_eq_two.mp (rfl : (soleVisits replacing).length = 2)
    have hfacts : ∀ u ∈ (soleVisits replacing).drop 1, u.after.context.isInitialized = true ∧
        (((u.after.context.vars.get? "endpoint").bind (·.get? "slug")).isNone = true ∧
          (u.after.context.endpoint.get? "slug").isSome = true) ∧
        Template.fill Services.still.ambient u.after.context (Template.braced "endpoint.slug") = "orders" ∧
        Template.fill Services.still.ambient u.after.context (Template.braced "variables.endpoint.slug") = "" := by
      decide
    rw [hlog] at hfacts ⊢
    obtain ⟨hinitialized, ⟨hcopy, hendpoint⟩, hfills⟩ := hfacts ask (by simp)
    refine ⟨ask, by simp, hinitialized, fun hcopied => ?_, hfills⟩
    rw [copied_endpoint_iff.mp hcopied, Option.bind_some, Option.isNone_iff_eq_none] at hcopy
    simp [hcopy] at hendpoint
  · obtain ⟨u, hlog⟩ := List.length_eq_one_iff.mp (rfl : (soleVisits obscuring).length = 1)
    have hfills : ∀ u ∈ soleVisits obscuring,
        Template.fill Services.still.ambient u.after.context (Template.braced "endpoint.length") = "3" ∧
        Template.fill Services.still.ambient u.after.context (Template.braced "variables.endpoint.length") = "" := by
      decide
    have hcopies : ∀ name ∈ copiedRoots, (soleVisits obscuring).map (·.after.context.vars.get? name) =
        (soleVisits obscuring).map fun u => (u.after.context.scope? name).map Scope.toJson := by
      intro name hname
      rcases mem_copiedRoots.mp hname with rfl | rfl | rfl | rfl <;> rfl
    rw [hlog] at hfills hcopies ⊢
    exact ⟨u, by simp, fun name hname => by simpa [Copied] using hcopies name hname, hfills u (by simp)⟩

end FlowTree.Walk

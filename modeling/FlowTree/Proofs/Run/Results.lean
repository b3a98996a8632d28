import FlowTree.Proofs.Run.Failures
import FlowTree.Proofs.Run.Names

/-! # The results of requests

What a request puts out becomes a variable, under the name of the request, and its body another, under a name
with a dot. The start writes the endpoint, and no other node writes a variable. So a path that begins with a
name reaches into the result of the latest request of that name, unless what comes before the variables has
the name too. -/

namespace FlowTree.Walk

/-- The visited node is a request that put something out, and `k` is the name for it. -/
def PutsOut (k : String) (u : Visit) : Prop :=
  u.node.kind = "request" ∧ resultKey u.node = k ∧ u.outcome.output.isSome = true

instance (k : String) (u : Visit) : Decidable (PutsOut k u) :=
  inferInstanceAs (Decidable (u.node.kind = "request" ∧ resultKey u.node = k ∧ u.outcome.output.isSome = true))

variable {v : Services} {node : Node} {c d : Context} {output : Option Json} {k : String} {u : Visit} {log : List Visit}
  {calls : List Call}

/-! ### One visit -/

/-- A visit leaves the variables and the endpoint alone, publishes an endpoint in both places, or indexes the
    result of a request. -/
theorem Effect.variables_cases (h : Effect node c output d) :
    (d.vars = c.vars ∧ d.endpoint = c.endpoint ∧ (output = none ∨ node.kind ≠ "request")) ∨
    (node.kind = "start" ∧ output = none ∧ d.vars = c.vars.insert "endpoint" d.endpoint) ∨
    (node.kind = "request" ∧ d.endpoint = c.endpoint ∧ ∃ result, output = some result ∧
      d.vars = (c.vars.insert (resultKey node ++ ".body") ((result.get? "body").getD .null)).insert (resultKey node)
        result) := by
  cases h with
  | keep h => exact Or.inl ⟨rfl, rfl, h.imp_right And.right⟩
  | fail e h => exact Or.inl ⟨rfl, rfl, h.imp_right And.right⟩
  | decision => exact Or.inl ⟨rfl, rfl, Or.inl rfl⟩
  | publish hk => exact Or.inr (Or.inl ⟨hk, rfl, rfl⟩)
  | setLocal hk => exact Or.inl ⟨rfl, rfl, Or.inr (by simp [hk])⟩
  | assign hk => exact Or.inl ⟨rfl, rfl, Or.inr (ne_of_reference hk (by decide))⟩
  | failAssign hk => exact Or.inl ⟨rfl, rfl, Or.inr (ne_of_reference hk (by decide))⟩
  | index hk result => exact Or.inr (Or.inr ⟨hk, rfl, result, rfl, rfl⟩)
  | failIndex hk e result => exact Or.inr (Or.inr ⟨hk, rfl, result, rfl, rfl⟩)

theorem ne_append_body (hdot : '.' ∉ k.toList) (key : String) : k ≠ key ++ ".body" := by
  rintro rfl
  simp at hdot

/-- The value that a request has put out under the name. -/
def resultOf? (k : String) (u : Visit) : Option Json :=
  if PutsOut k u then u.outcome.output else none

theorem resultOf?_of_not (h : ¬PutsOut k u) : resultOf? k u = none := if_neg h

theorem resultOf?_eq (h : PutsOut k u) : resultOf? k u = u.outcome.output := if_pos h

/-- A name without a dot is not that of a body. But for the endpoint it is written by requests only. -/
theorem get?_vars_after (hdot : '.' ∉ k.toList) (hendpoint : k ≠ "endpoint")
    (h : Effect u.node u.before.context u.outcome.output u.after.context) :
    u.after.context.vars.get? k = (resultOf? k u).or (u.before.context.vars.get? k) := by
  rcases h.variables_cases with ⟨hvars, -, hno⟩ | ⟨-, hno, hvars⟩ | ⟨hk, -, result, hout, hvars⟩
  · have hnot : ¬PutsOut k u := by
      rintro ⟨hk, -, hsome⟩
      rcases hno with hno | hno
      · simp [hno] at hsome
      · exact hno hk
    rw [hvars, resultOf?_of_not hnot, Option.none_or]
  · have hnot : ¬PutsOut k u := fun ⟨_, _, hsome⟩ => by simp [hno] at hsome
    rw [hvars, Fields.get?_insert_of_ne _ _ hendpoint, resultOf?_of_not hnot, Option.none_or]
  · rw [hvars, Fields.get?_insert, Fields.get?_insert_of_ne _ _ (ne_append_body hdot _)]
    by_cases hkey : k = resultKey u.node
    · rw [if_pos hkey, resultOf?_eq ⟨hk, hkey.symm, by rw [hout]; rfl⟩, hout, Option.some_or]
    · rw [if_neg hkey, resultOf?_of_not fun hputs => hkey hputs.2.1.symm, Option.none_or]

theorem output_of_putsOut (hu : u ∈ callVisits (.standard v) calls c) (h : PutsOut k u) :
    ∃ status ok body, u.outcome.output = some (OutboundRequest.result status ok body) := by
  obtain ⟨request, heq⟩ := visitOf_of_mem_callVisits hu
  obtain ⟨hk, -, hsome⟩ := h
  have houtcome : u.outcome = (visit (.standard v) request u.node u.before).1 := congrArg Visit.outcome heq
  rw [visit_outboundRequest hk] at houtcome
  rw [houtcome] at hsome ⊢
  rcases request_cases v.ambient u.node request u.before with ⟨-, -, hrun⟩ | ⟨e, status, body, x, -, -, -, hrun⟩ |
    ⟨status, body, x, -, hrun⟩ <;> rw [hrun] at hsome ⊢
  · cases hsome
  · exact ⟨status, false, body, rfl⟩
  · exact ⟨status, true, body, rfl⟩

/-! ### Paths into a result -/

/-- Nothing that comes before the variables has the name. -/
structure Unshadowed (k : String) (c : Context) : Prop where
  locals : c.locals.get? k = none
  results : c.results.get? k = none
  params : c.params.get? k = none

/-- The paths that begin with the name reach into the result. -/
structure ReachesResult (a : Ambient) (c : Context) (defaults : Fields Json) (k : String) (status : Nat) (ok : Bool)
    (body : Json) : Prop where
  resolve_status : Path.resolve a c defaults (k ++ ".status") = .ofNat status
  resolve_ok : Path.resolve a c defaults (k ++ ".ok") = .bool ok
  resolve_body : Path.resolve a c defaults (k ++ ".body") = body
  /-- What a path leads to from the body, it leads to behind the name and `body`. -/
  resolve_below : ∀ path value, Text.trim path = path → "" ∉ Path.segments path →
    Path.Leads body (Path.segments path) value → Path.resolve a c defaults (k ++ ".body." ++ path) = value
  /-- However a path is written, its segments count. -/
  resolve_segments : ∀ path segs value, Path.segments path = k :: "body" :: segs → "" ∉ segs → Path.Leads body segs value →
    Path.resolve a c defaults path = value

theorem head?_rootValues_of_unshadowed {value : Json} (hroot : k ∉ Path.reservedRoots) (h : Unshadowed k c)
    (hvalue : c.vars.get? k = some value) (defaults : Fields Json) :
    (Path.rootValues c defaults k).head? = some value := by
  rw [Path.rootValues, Path.scope?_eq_none_iff.mpr hroot, h.locals, h.results, h.params, hvalue]
  rfl

theorem isPlain_body : Path.IsPlain "body" := by decide

theorem segments_below_body (hplain : Path.IsPlain k) {path : String} (htrim : Text.trim path = path) :
    Path.segments (k ++ ".body." ++ path) = k :: "body" :: Path.segments path := by
  have htext : k ++ ".body." ++ path = k ++ "." ++ ("body" ++ "." ++ path) := by
    rw [← String.toList_inj]
    simp
  rw [htext, Path.segments_dotted hplain, Path.furtherSegments_dotted isPlain_body,
    Path.furtherSegments_of_trimmed htrim]

theorem reachesResult_of_get? {a : Ambient} {defaults : Fields Json} {status : Nat} {ok : Bool} {body : Json}
    (hplain : Path.IsPlain k) (hroot : k ∉ Path.reservedRoots) (h : Unshadowed k c)
    (hvalue : c.vars.get? k = some (OutboundRequest.result status ok body)) :
    ReachesResult a c defaults k status ok body := by
  have hresolve : ∀ path segs value, Path.segments path = k :: segs → "" ∉ segs →
      Path.Leads (OutboundRequest.result status ok body) segs value → Path.resolve a c defaults path = value := by
    intro path segs value hsegs hne hleads
    exact Path.resolve_of_first_root hsegs (by simpa [hplain.ne_empty.symm] using hne)
      (head?_rootValues_of_unshadowed hroot h hvalue defaults) hleads
  have hfield : ∀ name value, Fields.get? [("status", .ofNat status), ("ok", .bool ok), ("body", body)] name =
      some value → name ≠ "" → Path.furtherSegments name = [name] →
      Path.resolve a c defaults (k ++ "." ++ name) = value := by
    intro name value hget hne hsegs
    refine hresolve _ [name] value ?_ (by simpa using hne.symm) (.field hget (.here value))
    rw [Path.segments_dotted hplain, hsegs]
  have hbody : ∀ path segs value, Path.segments path = k :: "body" :: segs → "" ∉ segs → Path.Leads body segs value →
      Path.resolve a c defaults path = value := by
    intro path segs value hsegs hne hleads
    exact hresolve path _ value hsegs (by simpa using hne) (.field rfl hleads)
  constructor
  case resolve_status => simpa [String.append_assoc] using hfield "status" _ rfl (by decide) (by decide)
  case resolve_ok => simpa [String.append_assoc] using hfield "ok" _ rfl (by decide) (by decide)
  case resolve_body => simpa [String.append_assoc] using hfield "body" _ rfl (by decide) (by decide)
  case resolve_below =>
    intro path value htrim hne hleads
    exact hbody _ _ value (segments_below_body hplain htrim) hne hleads
  case resolve_segments => exact hbody

/-! ### Runs -/

/-- At every visit the paths that begin with the name of a request reach into the latest result under that name,
    whatever was visited since. -/
def ResultsVisible (log : List Visit) : Prop :=
  ∀ earlier w later, log = earlier ++ w :: later → ∀ k u, IsLatest (PutsOut k) earlier u →
    ∃ status ok body, u.outcome.output = some (OutboundRequest.result status ok body) ∧
      (Path.IsPlain k → k ∉ Path.reservedRoots → Unshadowed k w.before.context →
        ∀ a defaults, ReachesResult a w.before.context defaults k status ok body)

theorem Effects.get?_vars {result : Json} (h : Effects c log d) (hdot : '.' ∉ k.toList) (hendpoint : k ≠ "endpoint")
    (hlatest : IsLatest (PutsOut k) log u) (hout : u.outcome.output = some result) :
    d.vars.get? k = some result := by
  have hresult : resultOf? k u = some result := by rw [resultOf?_eq hlatest.mem.2, hout]
  rw [h.get?_eq Context.vars fun w => get?_vars_after hdot hendpoint,
    hlatest.findSome?_eq (fun _ => resultOf?_of_not) hresult, Option.some_or]

theorem callVisits_resultsVisible (v : Services) (calls : List Call) (c : Context) :
    ResultsVisible (callVisits (.standard v) calls c) := by
  rintro earlier w later hlog k u hlatest
  have hu : u ∈ callVisits (.standard v) calls c := by
    rw [hlog]
    exact List.mem_append_left _ hlatest.mem.1
  obtain ⟨status, ok, body, hout⟩ := output_of_putsOut hu hlatest.mem.2
  refine ⟨status, ok, body, hout, fun hplain hroot hunshadowed a defaults => ?_⟩
  cases calls with
  | nil => simp [callVisits] at hlog
  | cons call calls =>
    obtain ⟨d, heffects⟩ := effects_callVisits (v := v) call calls c
    rw [hlog] at heffects
    have hendpoint : k ≠ "endpoint" := fun heq => hroot (heq ▸ by decide)
    exact reachesResult_of_get? hplain hroot hunshadowed
      (heffects.before.get?_vars hplain.dotless hendpoint hlatest hout)

theorem result_inj {status status' : Nat} {ok ok' : Bool} {body body' : Json} :
    OutboundRequest.result status ok body = OutboundRequest.result status' ok' body' ↔
      status = status' ∧ ok = ok' ∧ body = body' := by
  simp only [OutboundRequest.result, Json.ofNat, Json.obj.injEq, List.cons.injEq, Prod.mk.injEq, Json.num.injEq,
    Number.int.injEq, Int.natCast_inj, Json.bool.injEq, true_and, and_true]

/-- The visits of one call, for a tree on its own. -/
def soleVisits (root : Node) : List Visit :=
  callVisits (.standard .still)
    [{ node := some root, request := .new "GET" "/", exchange := { peer := .unreachable } }] (.new (.ofNode root))

/-- A request that cannot be made, since its method is none. -/
def refused (id method name : String) (children : List Node) : Node :=
  .mk id "request" [("url", .str "http://api.test/"), ("method", .str method), ("request_name", .str name)] children none

/-- Two requests of one name, before a node that does nothing. -/
def repeating : Node :=
  refused "one" "a b" " user " [refused "two" "b c" "user" [.mk "idle" "idle" [] [] none]]

theorem repeated_found_at_idle : ∃ w ∈ soleVisits repeating, w.node.id = "idle" ∧
    Path.resolve Services.still.ambient w.before.context [] "user.status" = .ofNat 500 ∧
    Path.resolve Services.still.ambient w.before.context [] "user.body.error" = .str "Unknown HTTP method: B C" := by
  obtain ⟨one, two, idle, hlog⟩ := List.length_eq_three.mp (rfl : (soleVisits repeating).length = 3)
  have hids : (soleVisits repeating).map (·.node.id) = ["one", "two", "idle"] := rfl
  have hputs : ∀ u ∈ (soleVisits repeating).take 2, PutsOut "user" u := by decide
  have hoverlooked : ∀ u ∈ soleVisits repeating, u.before.context.locals.get? "user" = none ∧
      u.before.context.results.get? "user" = none ∧ u.before.context.params.get? "user" = none := by decide
  have houtput : ((soleVisits repeating)[1]?).bind (·.outcome.output) =
      some (OutboundRequest.result 500 false (.obj [("error", .str "Unknown HTTP method: B C")])) := rfl
  rw [hlog] at hids hputs hoverlooked houtput
  have hidle : idle ∈ [one, two, idle] := by simp
  have hlatest : IsLatest (PutsOut "user") [one, two] two := ⟨[one], [], rfl, hputs two (by simp), by simp⟩
  obtain ⟨status, ok, body, hout, hreaches⟩ :=
    callVisits_resultsVisible Services.still _ _ [one, two] idle [] hlog "user" two hlatest
  obtain ⟨rfl, rfl, rfl⟩ := result_inj.mp (Option.some.inj (hout.symm.trans houtput))
  obtain ⟨hlocals, hresults, hparams⟩ := hoverlooked idle hidle
  have hreach := hreaches (by decide) (by decide) ⟨hlocals, hresults, hparams⟩ Services.still.ambient []
  refine ⟨idle, hlog ▸ hidle, ?_, hreach.resolve_status, ?_⟩
  · simpa using congrArg List.getLast? hids
  · exact hreach.resolve_below "error" _ (by decide) (by decide) (.field rfl (.here _))

end FlowTree.Walk

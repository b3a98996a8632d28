import FlowTree.Proofs.Run.Calls
import FlowTree.Proofs.Template.Resolution
import FlowTree.Proofs.Template.Spans

/-! # Named values

The locals and the results of a context are told by the visits so far: under a name stands the value that
the latest node to assign it has put out. A variable node assigns a local only, every other one a local and
a result. A template finds a local by its name alone. -/

namespace FlowTree.Walk

/-- The visited node produced a value, and `n` is the name that it has for it. -/
def Gives (n : String) (u : Visit) : Prop :=
  u.node.assigns? = some n ∧ u.outcome.output.isSome = true

/-- The visited node gave the name to a result, and not only to a local. -/
def GivesResult (n : String) (u : Visit) : Prop :=
  Gives n u ∧ u.node.kind ≠ "setVar"

/-- The last visit that has the property. -/
def IsLatest (p : Visit → Prop) (log : List Visit) (u : Visit) : Prop :=
  ∃ earlier later, log = earlier ++ u :: later ∧ p u ∧ ∀ w ∈ later, ¬p w

variable {v : Services} {node : Node} {c d : Context} {output : Option Json} {n : String} {u : Visit} {log : List Visit}
  {p : Visit → Prop}

/-! ### One visit -/

instance (n : String) (u : Visit) : Decidable (Gives n u) :=
  inferInstanceAs (Decidable (u.node.assigns? = some n ∧ u.outcome.output.isSome = true))

instance (n : String) (u : Visit) : Decidable (GivesResult n u) :=
  inferInstanceAs (Decidable (Gives n u ∧ u.node.kind ≠ "setVar"))

theorem LeavesNothing.not_assigns (h : LeavesNothing node output) (n : String) :
    ¬(node.assigns? = some n ∧ output.isSome = true) := by
  rintro ⟨hname, hsome⟩
  rcases h with rfl | ⟨hnone, -⟩
  · cases hsome
  · rw [hnone] at hname
    cases hname

/-- A node writes its value under its name, or leaves the named values alone. -/
theorem Effect.named (h : Effect node c output d) :
    (d.locals = c.locals ∧ d.results = c.results ∧ ∀ n, ¬(node.assigns? = some n ∧ output.isSome = true)) ∨
    ∃ name value, node.assigns? = some name ∧ output = some (.obj [(name, value)]) ∧
      d.locals = c.locals.insert name value ∧
      d.results = if node.kind = "setVar" then c.results else c.results.insert name value := by
  cases h with
  | keep h => exact Or.inl ⟨rfl, rfl, h.not_assigns⟩
  | fail e h => exact Or.inl ⟨rfl, rfl, h.not_assigns⟩
  | decision => exact Or.inl ⟨rfl, rfl, by simp⟩
  | publish => exact Or.inl ⟨rfl, rfl, by simp⟩
  | setLocal hk hname value => exact Or.inr ⟨_, value, hname, rfl, rfl, (if_pos hk).symm⟩
  | assign hk hname value => exact Or.inr ⟨_, value, hname, rfl, rfl, (if_neg (ne_of_reference hk (by decide))).symm⟩
  | failAssign hk hname e value => exact Or.inr ⟨_, value, hname, rfl, rfl, (if_neg (ne_of_reference hk (by decide))).symm⟩
  | index hk => exact Or.inl ⟨rfl, rfl, by simp [assigns?_of_request hk]⟩
  | failIndex hk => exact Or.inl ⟨rfl, rfl, by simp [assigns?_of_request hk]⟩

/-- The value that a visit with the property has put out under the name. -/
def valueOf? (n : String) (p : Visit → Prop) [DecidablePred p] (u : Visit) : Option Json :=
  if p u then u.outcome.output.bind (·.get? n) else none

theorem valueOf?_of_not [DecidablePred p] (h : ¬p u) : valueOf? n p u = none := if_neg h

theorem valueOf?_eq [DecidablePred p] {value : Json} (h : p u) (hout : u.outcome.output = some (.obj [(n, value)])) :
    valueOf? n p u = some value := by
  rw [valueOf?, if_pos h, hout]
  simp [Json.get?, Fields.get?]

theorem get?_locals_after (h : Effect u.node u.before.context u.outcome.output u.after.context) :
    u.after.context.locals.get? n = (valueOf? n (Gives n) u).or (u.before.context.locals.get? n) := by
  rcases h.named with ⟨hlocals, -, hnot⟩ | ⟨name, value, hname, hout, hlocals, -⟩
  · rw [hlocals, valueOf?_of_not (hnot n), Option.none_or]
  · rw [hlocals, Fields.get?_insert]
    by_cases hn : n = name
    · subst hn
      rw [if_pos rfl, valueOf?_eq ⟨hname, by rw [hout]; rfl⟩ hout, Option.some_or]
    · have hnot : ¬Gives n u := fun hgives => hn (Option.some.inj (hgives.1.symm.trans hname))
      rw [if_neg hn, valueOf?_of_not hnot, Option.none_or]

theorem get?_results_after (h : Effect u.node u.before.context u.outcome.output u.after.context) :
    u.after.context.results.get? n = (valueOf? n (GivesResult n) u).or (u.before.context.results.get? n) := by
  rcases h.named with ⟨-, hresults, hnot⟩ | ⟨name, value, hname, hout, -, hresults⟩
  · rw [hresults, valueOf?_of_not (fun hgives => hnot n hgives.1), Option.none_or]
  · rw [hresults]
    by_cases hk : u.node.kind = "setVar"
    · rw [if_pos hk, valueOf?_of_not (fun hgives => hgives.2 hk), Option.none_or]
    · rw [if_neg hk, Fields.get?_insert]
      by_cases hn : n = name
      · subst hn
        rw [if_pos rfl, valueOf?_eq ⟨⟨hname, by rw [hout]; rfl⟩, hk⟩ hout, Option.some_or]
      · have hnot : ¬GivesResult n u := fun hgives => hn (Option.some.inj (hgives.1.1.symm.trans hname))
        rw [if_neg hn, valueOf?_of_not hnot, Option.none_or]

theorem output_of_gives (h : Effect u.node u.before.context u.outcome.output u.after.context) (hgives : Gives n u) :
    ∃ value, u.outcome.output = some (.obj [(n, value)]) := by
  rcases h.named with ⟨-, -, hnot⟩ | ⟨name, value, hname, hout, -, -⟩
  · exact absurd hgives (hnot n)
  · obtain rfl := Option.some.inj (hgives.1.symm.trans hname)
    exact ⟨value, hout⟩

/-! ### Runs -/

/-- Where only visits with a property have a value to tell, a log tells that of the latest of them. -/
theorem IsLatest.findSome?_eq {value? : Visit → Option Json} {value : Json} (h : IsLatest p log u)
    (hnone : ∀ w, ¬p w → value? w = none) (hvalue : value? u = some value) :
    log.reverse.findSome? value? = some value := by
  obtain ⟨earlier, later, rfl, -, hlater⟩ := h
  have hlaterNone : later.reverse.findSome? value? = none :=
    List.findSome?_eq_none_iff.mpr fun w hw => hnone w (hlater w (List.mem_reverse.mp hw))
  rw [List.reverse_append, List.findSome?_append, List.reverse_cons, List.findSome?_append, hlaterNone,
    Option.none_or, List.findSome?_singleton, hvalue, Option.some_or]

theorem IsLatest.mem (h : IsLatest p log u) : u ∈ log ∧ p u := by
  obtain ⟨earlier, later, rfl, hp, -⟩ := h
  exact ⟨by simp, hp⟩

/-- A name has a value if and only if some visit gave it one; it is then the value of the last such visit. -/
structure TellsValues (n : String) (p : Visit → Prop) (log : List Visit) (fields : Fields Json) : Prop where
  exists_iff : (∃ value, fields.get? n = some value) ↔ ∃ u ∈ log, p u
  latest : ∀ u, IsLatest p log u → ∃ value, u.outcome.output = some (.obj [(n, value)]) ∧ fields.get? n = some value

theorem tellsValues_of_get?_eq [DecidablePred p] {fields : Fields Json}
    (hget : fields.get? n = log.reverse.findSome? (valueOf? n p))
    (hout : ∀ u ∈ log, p u → ∃ value, u.outcome.output = some (.obj [(n, value)])) : TellsValues n p log fields := by
  constructor
  · rw [hget]
    constructor
    · rintro ⟨value, hvalue⟩
      obtain ⟨u, hu, hsome⟩ := List.exists_of_findSome?_eq_some hvalue
      refine ⟨u, List.mem_reverse.mp hu, ?_⟩
      by_contra hp
      rw [valueOf?_of_not hp] at hsome
      cases hsome
    · rintro ⟨u, hu, hp⟩
      obtain ⟨value, hvalue⟩ := hout u hu hp
      refine Option.isSome_iff_exists.mp (List.findSome?_isSome_iff.mpr ⟨u, List.mem_reverse.mpr hu, ?_⟩)
      rw [valueOf?_eq hp hvalue, Option.isSome_some]
  · intro u hlatest
    obtain ⟨hu, hp⟩ := hlatest.mem
    obtain ⟨value, hvalue⟩ := hout u hu hp
    refine ⟨value, hvalue, ?_⟩
    rw [hget, hlatest.findSome?_eq (fun _ => valueOf?_of_not) (valueOf?_eq hp hvalue)]

/-- What the visits so far tell of the named values of a context. -/
structure NamesKept (log : List Visit) (c : Context) : Prop where
  locals : ∀ n, TellsValues n (Gives n) log c.locals
  results : ∀ n, TellsValues n (GivesResult n) log c.results
  results_subset : ∀ n ∈ c.results.keys, n ∈ c.locals.keys
  /-- A local whose name is no path of its own and no reserved one is found by its name alone. -/
  fill : ∀ a n value, c.locals.get? n = some value → (∀ ch ∈ ['.', '[', ']', '{', '}'], ch ∉ n.toList) →
    n ∉ Path.reservedRoots → Template.fill a c (Template.braced n) = value.render

theorem nonEmpty?_spec {key : String} (h : node.nonEmpty? key = some n) : n ≠ "" ∧ Text.trim n = n := by
  unfold Node.nonEmpty? at h
  by_cases hempty : (Text.trim (node.text key)).isEmpty = true
  · simp [hempty] at h
  · simp only [hempty] at h
    obtain rfl := Option.some.inj h
    exact ⟨fun heq => hempty (by rw [heq]; rfl), Text.trim_trim _⟩

/-- Names are not empty and have no blanks around them. -/
theorem assigns?_spec (h : node.assigns? = some n) : n ≠ "" ∧ Text.trim n = n := by
  unfold Node.assigns? at h
  split at h
  next => exact nonEmpty?_spec h
  next =>
    split at h
    next => exact nonEmpty?_spec h
    next => cases h

theorem fill_local {a : Ambient} {value : Json} (hplain : Path.IsPlain n) (hclosing : '}' ∉ n.toList)
    (hroot : n ∉ Path.reservedRoots) (h : c.locals.get? n = some value) :
    Template.fill a c (Template.braced n) = value.render := by
  rw [Template.fill, Template.fillWith_braced hplain.ne_empty hclosing, Path.resolve_local hplain hroot h]

/-- A name without characters that mean something in a template finds its local. -/
theorem fill_name {a : Ambient} {value : Json} (hname : n ≠ "" ∧ Text.trim n = n)
    (hchars : ∀ ch ∈ ['.', '[', ']', '{', '}'], ch ∉ n.toList) (hroot : n ∉ Path.reservedRoots)
    (h : c.locals.get? n = some value) : Template.fill a c (Template.braced n) = value.render := by
  have hplain : Path.IsPlain n := ⟨hname.1, hchars _ (by simp), ⟨hchars _ (by simp), hchars _ (by simp)⟩, hname.2⟩
  exact fill_local hplain (hchars _ (by simp)) hroot h

theorem Effects.namesKept (h : Effects c log d) (hlocals : c.locals = []) (hresults : c.results = []) :
    NamesKept log d := by
  have hgetLocals : ∀ n, d.locals.get? n = log.reverse.findSome? (valueOf? n (Gives n)) := by
    intro n
    rw [h.get?_eq Context.locals fun u => get?_locals_after, hlocals, Fields.get?, Option.or_none]
  have hgetResults : ∀ n, d.results.get? n = log.reverse.findSome? (valueOf? n (GivesResult n)) := by
    intro n
    rw [h.get?_eq Context.results fun u => get?_results_after, hresults, Fields.get?, Option.or_none]
  have hout : ∀ n, ∀ u ∈ log, Gives n u → ∃ value, u.outcome.output = some (.obj [(n, value)]) :=
    fun n u hu hgives => output_of_gives (h.forall_mem u hu) hgives
  have htells : ∀ n, TellsValues n (Gives n) log d.locals := fun n =>
    tellsValues_of_get?_eq (hgetLocals n) (hout n)
  have htells' : ∀ n, TellsValues n (GivesResult n) log d.results := fun n =>
    tellsValues_of_get?_eq (hgetResults n) fun u hu hgives => hout n u hu hgives.1
  constructor
  case locals => exact htells
  case results => exact htells'
  case results_subset =>
    intro n hn
    obtain ⟨u, hu, hgives⟩ := (htells' n).exists_iff.mp (Fields.mem_keys_iff.mp hn)
    exact Fields.mem_keys_iff.mpr ((htells n).exists_iff.mpr ⟨u, hu, hgives.1⟩)
  case fill =>
    intro a n value hvalue hchars hroot
    obtain ⟨u, -, hgives⟩ := (htells n).exists_iff.mp ⟨value, hvalue⟩
    exact fill_name (assigns?_spec hgives.1) hchars hroot hvalue

/-- At every visit the named values are told by the visits before it. -/
def NamesVisible (log : List Visit) : Prop :=
  ∀ earlier u later, log = earlier ++ u :: later → NamesKept earlier u.before.context

theorem callVisits_namesVisible (v : Services) (flow : Flow) (calls : List Call) :
    NamesVisible (callVisits (.standard v) calls (.new flow)) := by
  rintro earlier u later hlog
  cases calls with
  | nil => simp [callVisits] at hlog
  | cons call calls =>
    obtain ⟨d, heffects⟩ := effects_callVisits (v := v) call calls (.new flow)
    rw [hlog] at heffects
    exact heffects.before.namesKept rfl rfl

/-- Two nodes that assign one name, before a node that does nothing. -/
def overwriting : Node :=
  .mk "one" "setVar" [("name", .str "x"), ("value", .str "1")]
    [.mk "two" "setVar" [("name", .str " x "), ("value", .str "2")] [.mk "idle" "idle" [] [] none] none] none

def overwritingVisits : List Visit :=
  callVisits (.standard .still)
    [{ node := some overwriting, request := .new "GET" "/", exchange := { peer := .unreachable } }] (.new (.ofNode overwriting))

theorem overwritten_at_idle : ∃ u ∈ overwritingVisits, u.node.id = "idle" ∧
    Template.fill Services.still.ambient u.before.context (Template.braced "x") = "2" := by
  have hlog : overwritingVisits = [overwritingVisits[0], overwritingVisits[1]] ++ overwritingVisits[2] :: [] := rfl
  have hkept : NamesKept [overwritingVisits[0], overwritingVisits[1]] overwritingVisits[2].before.context :=
    callVisits_namesVisible Services.still (.ofNode overwriting) _ _ _ _ hlog
  have hlatest : IsLatest (Gives "x") [overwritingVisits[0], overwritingVisits[1]] overwritingVisits[1] :=
    ⟨[overwritingVisits[0]], [], rfl, ⟨rfl, rfl⟩, by simp⟩
  obtain ⟨value, hout, hget⟩ := (hkept.locals "x").latest _ hlatest
  obtain rfl : Json.str "2" = value := by
    have hcomputed : overwritingVisits[1].outcome.output = some (.obj [("x", .str "2")]) := rfl
    simpa using hcomputed.symm.trans hout
  refine ⟨overwritingVisits[2], List.getElem_mem _, rfl, ?_⟩
  exact hkept.fill _ "x" _ hget (by simp) (by decide)

end FlowTree.Walk

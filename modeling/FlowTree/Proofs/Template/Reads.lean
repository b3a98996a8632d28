import FlowTree.Proofs.Template.Resolution
import FlowTree.Proofs.Template.Spans

/-! # What templates read

A path reads of a context what stands under its first segment, and the variable of its last one. A template
reads what the paths of its spans read. So a write changes the text that a template comes to only if one of
its spans has a segment for it. -/

namespace FlowTree

namespace Path

variable {a : Ambient} {c d : Context} {defaults : Fields Json} {first last : String}

/-- The contexts have the same under the first and the last segment of a path. -/
structure SameUnder (first last : String) (c d : Context) : Prop where
  scope : d.scope? first = c.scope? first
  locals : d.locals.get? first = c.locals.get? first
  results : d.results.get? first = c.results.get? first
  params : d.params.get? first = c.params.get? first
  vars : d.vars.get? first = c.vars.get? first
  last : d.vars.get? last = c.vars.get? last

theorem SameUnder.roots (h : SameUnder first last c d) : roots d defaults first = Path.roots c defaults first := by
  simp only [Path.roots, List.filterMap_cons, List.filterMap_nil, h.scope, h.locals, h.results, h.params, h.vars]

theorem SameUnder.named? (h : SameUnder first last c d) : named? a d defaults last = Path.named? a c defaults last := by
  rw [Path.named?, Path.named?, h.last]

theorem resolve_of_sameUnder {path : String} (h : ∀ first ∈ (segments path).head?, ∀ last ∈ (segments path).getLast?,
    SameUnder first last c d) : resolve a d defaults path = resolve a c defaults path := by
  unfold resolve
  generalize segments path = segs at h
  dsimp only
  split
  · rfl
  · cases segs with
    | nil => rfl
    | cons first rest =>
      have hsame : SameUnder first (rest.getLast?.getD first) c d := h first rfl _ List.getLast?_cons
      dsimp only
      rw [resolveSegments, resolveSegments, hsame.roots]
      cases hrest : rest.getLast? with
      | none => rfl
      | some last =>
        rw [hrest, Option.getD_some] at hsame
        simp only [hsame.named?]

/-! ### Writes -/

theorem sameUnder_setLocal {name : String} (value : Json) (hname : name ≠ first) (hlocal : first ≠ "local") :
    SameUnder first last c (c.setLocal name value) where
  scope := by
    simp only [Context.scope?, hlocal, if_false]
    rfl
  locals := Fields.get?_insert_of_ne c.locals value hname.symm
  results := rfl
  params := rfl
  vars := rfl
  last := rfl

theorem sameUnder_assign {name : String} (value : Json) (hname : name ≠ first) (hlocal : first ≠ "local")
    (hresult : first ≠ "result") : SameUnder first last c (c.assign name value) where
  scope := by
    simp only [Context.scope?, hlocal, hresult, if_false]
    rfl
  locals := Fields.get?_insert_of_ne c.locals value hname.symm
  results := Fields.get?_insert_of_ne c.results value hname.symm
  params := rfl
  vars := rfl
  last := rfl

theorem sameUnder_setVariable {name : String} (value : Json) (hname : name ≠ first) (hlast : name ≠ last)
    (hvariables : first ≠ "variables") : SameUnder first last c (c.setVariable name value) where
  scope := by
    simp only [Context.scope?, hvariables, if_false]
    rfl
  locals := rfl
  results := rfl
  params := rfl
  vars := Fields.get?_insert_of_ne c.vars value hname.symm
  last := Fields.get?_insert_of_ne c.vars value hlast.symm

theorem sameUnder_recordError (e : ServiceError) (herror : first ≠ "error") :
    SameUnder first last c (c.recordError e) where
  scope := by
    simp only [Context.scope?, herror, if_false]
    rfl
  locals := rfl
  results := rfl
  params := rfl
  vars := rfl
  last := rfl

theorem sameUnder_recordDecision (decision : Bool) : SameUnder first last c (c.recordDecision decision) :=
  ⟨rfl, rfl, rfl, rfl, rfl, rfl⟩

end Path

namespace Template

/-! ### Spans -/

/-- The template has a span with this text in its braces. -/
def IsSpan (template path : List Char) : Prop :=
  ∃ before after, template = before ++ '{' :: path ++ '}' :: after ∧ IsClosed before ∧ path ≠ [] ∧ '}' ∉ path

/-- A span of what follows a text in which no span is open is one of both together. -/
theorem IsSpan.after {cs template path : List Char} (h : IsSpan template path) (hcs : IsClosed cs) :
    IsSpan (cs ++ template) path := by
  obtain ⟨before, after, rfl, hbefore, hpath⟩ := h
  refine ⟨cs ++ before, after, by simp, fun left right heq => ?_, hpath⟩
  rcases List.append_eq_append_iff.mp heq with ⟨rest, rfl, hbrace⟩ | ⟨rest, rfl, hbrace⟩
  · exact hbefore rest right hbrace
  · cases rest with
    | nil => exact hbefore [] right hbrace.symm
    | cons ch rest =>
      obtain ⟨rfl, rfl⟩ := List.cons.inj hbrace
      exact List.mem_append_left _ (hcs left rest rfl)

/-- A text is filled alike by what has the same values for its spans. -/
theorem fillFrom_congr {value value' : List Char → List Char} {pending : Option (List Char)} {cs : List Char}
    (hpending : ∀ p, pending = some p → '}' ∉ p)
    (h : ∀ path, IsSpan (opened pending ++ cs) path → value path = value' path) :
    fillFrom value pending cs = fillFrom value' pending cs := by
  fun_induction fillFrom value pending cs with
  | case1 => rfl
  | case2 p => rfl
  | case3 cs ih =>
    rw [fillFrom, if_pos rfl]
    exact ih (by simp) h
  | case4 ch cs hch ih =>
    rw [fillFrom, if_neg hch]
    refine congrArg (ch :: ·) (ih (by simp) fun path hpath => h path ?_)
    exact hpath.after (isClosed_of_not_mem (List.not_mem_cons_of_ne_of_not_mem (Ne.symm hch) List.not_mem_nil))
  | case5 p cs ih =>
    have hp : '}' ∉ p.reverse := by simpa using hpending p rfl
    have hclosed : IsClosed ('{' :: p.reverse ++ ['}']) := isClosed_append_singleton _
    have hrest : fillFrom value none cs = fillFrom value' none cs := by
      refine ih (by simp) fun path hpath => h path ?_
      simpa [opened] using hpath.after hclosed
    rw [fillFrom, if_pos rfl, hrest]
    cases p with
    | nil => rfl
    | cons ch p =>
      have hspan := h _ ⟨[], cs, by simp [opened], isClosed_of_not_mem List.not_mem_nil, by simp, hp⟩
      rw [List.isEmpty_cons, if_neg Bool.false_ne_true, if_neg Bool.false_ne_true, hspan]
  | case6 p ch cs hch ih =>
    rw [fillFrom, if_neg hch]
    refine ih ?_ fun path hpath => h path (by simpa [opened] using hpath)
    intro q hq
    cases hq
    exact List.not_mem_cons_of_ne_of_not_mem (Ne.symm hch) (hpending p rfl)

/-! ### Templates -/

/-- A span of the template has a path whose first and last segment are so. -/
def SomeSpan (template : String) (P : String → String → Prop) : Prop :=
  ∃ path first last, IsSpan template.toList path ∧ first ∈ (Path.segments (String.ofList path)).head? ∧
    last ∈ (Path.segments (String.ofList path)).getLast? ∧ P first last

theorem SomeSpan.imp {template : String} {P Q : String → String → Prop} (h : SomeSpan template P)
    (hPQ : ∀ first last, P first last → Q first last) : SomeSpan template Q := by
  obtain ⟨path, first, last, hpath, hfirst, hlast, hP⟩ := h
  exact ⟨path, first, last, hpath, hfirst, hlast, hPQ first last hP⟩

variable {a : Ambient} {c d : Context} {defaults : Fields Json} {template : String}

/-- If the text changes, the contexts are not the same under the segments of some span. -/
theorem someSpan_of_changed {P : String → String → Prop}
    (hkeeps : ∀ first last, ¬P first last → Path.SameUnder first last c d)
    (h : fillWith a d defaults template ≠ fillWith a c defaults template) : SomeSpan template P := by
  refine Classical.byContradiction fun hnone => h ?_
  rw [fillWith, fillWith, fillFrom_congr (fun p hp => by cases hp) fun path hpath => ?_]
  rw [Path.resolve_of_sameUnder fun first hfirst last hlast => hkeeps first last fun hP => ?_]
  exact hnone ⟨path, first, last, hpath, hfirst, hlast, hP⟩

section
variable {name : String} {value : Json}

theorem someSpan_of_setLocal
    (h : fillWith a (c.setLocal name value) defaults template ≠ fillWith a c defaults template) :
    SomeSpan template fun first _ => name = first ∨ first = "local" := by
  refine someSpan_of_changed (fun first last hnot => ?_) h
  obtain ⟨hname, hlocal⟩ := not_or.mp hnot
  exact Path.sameUnder_setLocal value hname hlocal

theorem someSpan_of_assign
    (h : fillWith a (c.assign name value) defaults template ≠ fillWith a c defaults template) :
    SomeSpan template fun first _ => name = first ∨ first = "local" ∨ first = "result" := by
  refine someSpan_of_changed (fun first last hnot => ?_) h
  obtain ⟨hname, hnot⟩ := not_or.mp hnot
  obtain ⟨hlocal, hresult⟩ := not_or.mp hnot
  exact Path.sameUnder_assign value hname hlocal hresult

theorem someSpan_of_setVariable
    (h : fillWith a (c.setVariable name value) defaults template ≠ fillWith a c defaults template) :
    SomeSpan template fun first last => name = first ∨ name = last ∨ first = "variables" := by
  refine someSpan_of_changed (fun first last hnot => ?_) h
  obtain ⟨hname, hnot⟩ := not_or.mp hnot
  obtain ⟨hlast, hvariables⟩ := not_or.mp hnot
  exact Path.sameUnder_setVariable value hname hlast hvariables

end

/-- The text of a template tells of an assignment or a failure only through spans that have a segment for it, and
    of a decision never. -/
structure ReadsOnly (a : Ambient) (c : Context) (defaults : Fields Json) (template : String) : Prop where
  setLocal : ∀ name value,
    fillWith a (c.setLocal name value) defaults template ≠ fillWith a c defaults template →
    SomeSpan template fun first _ => name = first ∨ first = "local"
  assign : ∀ name value, fillWith a (c.assign name value) defaults template ≠ fillWith a c defaults template →
    SomeSpan template fun first _ => name = first ∨ first = "local" ∨ first = "result"
  setVariable : ∀ name value,
    fillWith a (c.setVariable name value) defaults template ≠ fillWith a c defaults template →
    SomeSpan template fun first last => name = first ∨ name = last ∨ first = "variables"
  recordError : ∀ e, fillWith a (c.recordError e) defaults template ≠ fillWith a c defaults template →
    SomeSpan template fun first _ => first = "error"
  recordDecision : ∀ decision,
    fillWith a (c.recordDecision decision) defaults template = fillWith a c defaults template
  /-- So where no path begins or ends with a name, and none begins with the name of all locals, results or variables,
      nothing that is assigned to the name shows. -/
  unmentioned : ∀ name value,
    ¬SomeSpan template (fun first last => name = first ∨ name = last ∨ first ∈ ["local", "result", "variables"]) →
    fillWith a (c.setLocal name value) defaults template = fillWith a c defaults template ∧
    fillWith a (c.assign name value) defaults template = fillWith a c defaults template ∧
    fillWith a (c.setVariable name value) defaults template = fillWith a c defaults template

theorem fillWith_readsOnly (a : Ambient) (c : Context) (defaults : Fields Json) (template : String) :
    ReadsOnly a c defaults template := by
  constructor
  case setLocal => exact fun name value => someSpan_of_setLocal
  case assign => exact fun name value => someSpan_of_assign
  case setVariable => exact fun name value => someSpan_of_setVariable
  case recordError =>
    exact fun e => someSpan_of_changed fun first last herror => Path.sameUnder_recordError e herror
  case recordDecision =>
    intro decision
    refine Classical.byContradiction fun hchanged => ?_
    have hsame : ∀ first last, ¬False → Path.SameUnder first last c (c.recordDecision decision) :=
      fun _ _ _ => Path.sameUnder_recordDecision decision
    obtain ⟨-, -, -, -, -, -, hfalse⟩ := someSpan_of_changed hsame hchanged
    exact hfalse
  case unmentioned =>
    intro name value hnone
    refine ⟨Classical.byContradiction fun h => hnone ?_, Classical.byContradiction fun h => hnone ?_,
      Classical.byContradiction fun h => hnone ?_⟩
    · refine (someSpan_of_setLocal h).imp fun first last => ?_
      rintro (hname | rfl)
      · exact Or.inl hname
      · exact Or.inr (Or.inr (by simp))
    · refine (someSpan_of_assign h).imp fun first last => ?_
      rintro (hname | rfl | rfl)
      · exact Or.inl hname
      · exact Or.inr (Or.inr (by simp))
      · exact Or.inr (Or.inr (by simp))
    · refine (someSpan_of_setVariable h).imp fun first last => ?_
      rintro (hname | hlast | rfl)
      · exact Or.inl hname
      · exact Or.inr (Or.inl hlast)
      · exact Or.inr (Or.inr (by simp))

end Template

end FlowTree

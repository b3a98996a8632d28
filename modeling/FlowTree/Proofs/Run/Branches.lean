import FlowTree.Proofs.Run.Catalogue
import FlowTree.Proofs.Run.Turns

/-! # The branches of conditions

A condition reports the branch that its decision takes, and the rule that selects children asks the outcome
before the context. So what runs below an earlier child, and may decide anew, does not matter to the
later ones. -/

namespace FlowTree

/-! ### Labels -/

/-- The text that tells the branch of a node: its own label or, without one, the text `path` of its data. -/
def branchText? (node : Node) : Option String :=
  match node.branchLabel with
  | some label => some label
  | none => (node.get? "path").bind Json.string?

/-- The words that stand for a decision. -/
def branchWords (decision : Bool) : List String :=
  if decision then ["condition", "true", "then"] else ["else", "false"]

/-- The label of the node stands for the decision, blanks around it aside. -/
def StandsFor (node : Node) (decision : Bool) : Prop :=
  ∃ label ∈ branchText? node, Text.trim label ∈ branchWords decision

instance (node : Node) (decision : Bool) : Decidable (StandsFor node decision) :=
  inferInstanceAs (Decidable (∃ label ∈ branchText? node, Text.trim label ∈ branchWords decision))

theorem ofLabel?_eq_some_iff {label : String} {decision : Bool} :
    Branch.ofLabel? label = some (Branch.ofDecision decision) ↔ Text.trim label ∈ branchWords decision := by
  unfold Branch.ofLabel? Branch.ofDecision branchWords
  generalize Text.trim label = word
  by_cases htrue : word = "condition" ∨ word = "true" ∨ word = "then"
  · cases decision
    · rcases htrue with rfl | rfl | rfl <;> simp
    · simp [htrue]
  · by_cases hfalse : word = "else" ∨ word = "false"
    · cases decision
      · simp [htrue, hfalse]
      · rcases hfalse with rfl | rfl <;> simp
    · cases decision <;> simp [htrue, hfalse]

theorem branch?_eq_some_iff {node : Node} {decision : Bool} :
    node.branch? = some (Branch.ofDecision decision) ↔ StandsFor node decision := by
  unfold Node.branch? StandsFor branchText?
  cases node.branchLabel with
  | some label => simp [ofLabel?_eq_some_iff]
  | none =>
    cases (node.get? "path").bind Json.string? with
    | none => simp
    | some label => simp [ofLabel?_eq_some_iff]

/-- No label stands for both decisions. -/
theorem StandsFor.unique {node : Node} {decision other : Bool} (h : StandsFor node decision) (h' : StandsFor node other) :
    decision = other := by
  have heq := (branch?_eq_some_iff.mpr h).symm.trans (branch?_eq_some_iff.mpr h')
  cases decision <;> cases other <;> first | rfl | cases heq

theorem StandsFor.not_other {node : Node} {decision : Bool} (h : StandsFor node !decision) : ¬StandsFor node decision :=
  fun h' => by simpa using h.unique h'

/-! ### Decisions -/

namespace Condition

/-- The condition says nothing that can be decided. -/
inductive Undecided (a : Ambient) (node : Node) (c : Context) : Prop where
  | absent (hcomparison : node.nonEmpty? "comparison" = none) (hcondition : node.nonEmpty? "condition" = none)
  | unknown {text : String} (hcomparison : node.nonEmpty? "comparison" = some text)
      (htext : Comparison.ofText? text = none)
  | incomparable {text : String} {comparison : Comparison} {e : EvalError}
      (hcomparison : node.nonEmpty? "comparison" = some text) (htext : Comparison.ofText? text = some comparison)
      (hholds : comparison.holds (Template.fill a c (node.text "expression1"))
        (Template.fill a c (node.text "expression2")) = .error e)
  | malformed {text : String} {e : SyntaxError} (hcomparison : node.nonEmpty? "comparison" = none)
      (hcondition : node.nonEmpty? "condition" = some text) (hparse : Expr.parse (Template.fill a c text) = .error e)
  | undefined {text : String} {expr : Expr} {e : EvalError} (hcomparison : node.nonEmpty? "comparison" = none)
      (hcondition : node.nonEmpty? "condition" = some text) (hparse : Expr.parse (Template.fill a c text) = .ok expr)
      (heval : expr.eval = .error e)

/-- The condition decides so: by its comparison if it has one, else by the value of its expression. -/
inductive Decides (a : Ambient) (node : Node) (c : Context) : Bool → Prop where
  | compared {text : String} {comparison : Comparison} {answer : Bool}
      (hcomparison : node.nonEmpty? "comparison" = some text) (htext : Comparison.ofText? text = some comparison)
      (hholds : comparison.holds (Template.fill a c (node.text "expression1"))
        (Template.fill a c (node.text "expression2")) = .ok answer) : Decides a node c answer
  | evaluated {text : String} {expr : Expr} {value : Json} (hcomparison : node.nonEmpty? "comparison" = none)
      (hcondition : node.nonEmpty? "condition" = some text) (hparse : Expr.parse (Template.fill a c text) = .ok expr)
      (heval : expr.eval = .ok value) : Decides a node c value.isTruthy

variable {a : Ambient} {node : Node} {c : Context}

theorem decides_or_undecided : (∃ answer, Decides a node c answer) ∨ Undecided a node c := by
  cases hcomparison : node.nonEmpty? "comparison" with
  | some text =>
    cases htext : Comparison.ofText? text with
    | none => exact Or.inr (.unknown hcomparison htext)
    | some comparison =>
      cases hholds : comparison.holds (Template.fill a c (node.text "expression1"))
          (Template.fill a c (node.text "expression2")) with
      | error e => exact Or.inr (.incomparable hcomparison htext hholds)
      | ok answer => exact Or.inl ⟨answer, .compared hcomparison htext hholds⟩
  | none =>
    cases hcondition : node.nonEmpty? "condition" with
    | none => exact Or.inr (.absent hcomparison hcondition)
    | some text =>
      cases hparse : Expr.parse (Template.fill a c text) with
      | error e => exact Or.inr (.malformed hcomparison hcondition hparse)
      | ok expr =>
        cases heval : expr.eval with
        | error e => exact Or.inr (.undefined hcomparison hcondition hparse heval)
        | ok value => exact Or.inl ⟨_, .evaluated hcomparison hcondition hparse heval⟩

theorem Decides.decide?_eq {answer : Bool} (h : Decides a node c answer) : decide? a node c = some answer := by
  cases h with
  | compared hcomparison htext hholds => simp [decide?, hcomparison, htext, hholds, Except.toOption]
  | evaluated hcomparison hcondition hparse heval =>
    simp [decide?, hcomparison, hcondition, Expr.value?, Expr.evalText, hparse, heval, Except.toOption]

theorem Undecided.decide?_eq (h : Undecided a node c) : decide? a node c = none := by
  cases h with
  | absent hcomparison hcondition => simp [decide?, hcomparison, hcondition]
  | unknown hcomparison htext => simp [decide?, hcomparison, htext]
  | incomparable hcomparison htext hholds => simp [decide?, hcomparison, htext, hholds, Except.toOption]
  | malformed hcomparison hcondition hparse =>
    simp [decide?, hcomparison, hcondition, Expr.value?, Expr.evalText, hparse, Except.toOption]
  | undefined hcomparison hcondition hparse heval =>
    simp [decide?, hcomparison, hcondition, Expr.value?, Expr.evalText, hparse, heval, Except.toOption]

/-- What cannot be decided is false. -/
theorem decision_of_undecided (h : Undecided a node c) : decision a node c = false := by
  rw [decision, h.decide?_eq, Option.getD_none]

theorem decision_eq_true_iff : decision a node c = true ↔ Decides a node c true := by
  rw [decision]
  constructor
  · intro h
    rcases decides_or_undecided with ⟨answer, hdecides⟩ | hundecided
    · rw [hdecides.decide?_eq, Option.getD_some] at h
      exact h ▸ hdecides
    · rw [hundecided.decide?_eq, Option.getD_none] at h
      cases h
  · intro h
    rw [h.decide?_eq, Option.getD_some]

end Condition

namespace Walk

variable {v : Services} {request : Request} {root : Node} {s : Session} {u : Visit}

theorem condition_done (hu : DoneByBlock (.standard v) request u) (hk : u.node.kind = "condition") :
    u.outcome = { branch := some (Branch.ofDecision (Condition.decision v.ambient u.node u.before.context)) } ∧
      u.after = u.before.modify (·.recordDecision (Condition.decision v.ambient u.node u.before.context)) := by
  have hget : (Registry.standard v).get? u.node.kind = some (.condition v.ambient) := by
    simp [Registry.standard, Fields.get?, hk]
  rw [DoneByBlock, hget] at hu
  obtain ⟨houtcome, hafter⟩ := hu
  rw [indexed_of_ne (by simp [hk])] at hafter
  exact ⟨houtcome, hafter⟩

/-- Whatever the context, the rule selects the children whose label stands for the decision. -/
theorem selected_iff_standsFor {parent child : Node} {outcome : Outcome} {decision : Bool} (c : Context)
    (h : outcome.branch = some (Branch.ofDecision decision)) :
    Selected (.standard v) parent outcome child c ↔ StandsFor child decision := by
  rw [Selected, bind_route_standard, ← branch?_eq_some_iff]
  simp [h]

/-- What a run that makes the visits `log` does after the visit of a condition. -/
structure KeepsToBranch (a : Ambient) (log : List Visit) (u : Visit) (decision : Bool) : Prop where
  recorded : u.after.context.lastDecision = some decision
  /-- The children that are visited are those whose label stands for the decision, in declared order. -/
  visited_children : (childVisits log u).map (fun w => (w.place, w.node)) = childrenWith u (StandsFor · decision)
  others : ∀ i child, u.node.children[i]? = some child → ¬StandsFor child decision → ¬VisitedAt log (u.place ++ [i])
  other_branch : ∀ i child, u.node.children[i]? = some child → StandsFor child (!decision) →
    ¬VisitedAt log (u.place ++ [i])
  decision_iff : decision = true ↔ Condition.Decides a u.node u.before.context true
  undecided : Condition.Undecided a u.node u.before.context → decision = false

theorem condition_keepsToBranch (hu : u ∈ visited (.standard v) request root s) (hk : u.node.kind = "condition") :
    KeepsToBranch v.ambient (visited (.standard v) request root s) u
      (Condition.decision v.ambient u.node u.before.context) := by
  obtain ⟨houtcome, hafter⟩ := condition_done ((threaded_visited root s).doneByBlock u hu) hk
  have hturn : ∀ i child, u.node.children[i]? = some child →
      (VisitedAt (visited (.standard v) request root s) (u.place ++ [i]) ↔
        StandsFor child (Condition.decision v.ambient u.node u.before.context)) := by
    intro i child hi
    rw [visitedAt_iff_selected hu hi, selected_iff_standsFor _ (by rw [houtcome]), houtcome]
    simp [Outcome.continues]
  constructor
  case recorded =>
    rw [hafter]
    rfl
  case visited_children => exact childVisits_eq hu _ hturn
  case others => exact fun i child hi hnot hvisited => hnot ((hturn i child hi).mp hvisited)
  case other_branch => exact fun i child hi hother hvisited => hother.not_other ((hturn i child hi).mp hvisited)
  case decision_iff => exact Condition.decision_eq_true_iff
  case undecided => exact Condition.decision_of_undecided

/-- A condition that is not configured. Its first child decides anew, and for the other branch; that does not
    keep the third child from its turn. -/
def forked : Node :=
  .mk "fork" "condition" []
    [.mk "again" "condition" [("condition", .str "1 < 2")] [] (some "else"),
      .mk "then" "setVar" [] [] (some "then"),
      .mk "path" "setVar" [("path", .str " false ")] [] none,
      .mk "untagged" "setVar" [] [] none]
    none

def forkedSession : Session :=
  begun { peer := .unreachable } (.ofNode forked) (.new "GET" "/")

theorem forked_children :
    (childVisits (visited (.standard .still) (.new "GET" "/") forked forkedSession)
      (visitOf (.standard .still) (.new "GET" "/") [] forked forkedSession)).map (·.place) = [[0], [2]] := by
  have hkeeps : KeepsToBranch _ (visited (.standard .still) (.new "GET" "/") forked forkedSession) _ _ :=
    condition_keepsToBranch (visitOf_mem_visits [] forked forkedSession) rfl
  have hfalse := hkeeps.undecided (.absent (by decide) (by decide))
  have hplaces := congrArg (List.map Prod.fst) hkeeps.visited_children
  rw [hfalse, List.map_map] at hplaces
  exact hplaces.trans (by decide)

end Walk
end FlowTree

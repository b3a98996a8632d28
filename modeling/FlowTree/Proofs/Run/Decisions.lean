import FlowTree.Proofs.Run.Branches

/-! # Conditions that name no branch

Where no block decides for them, the children of a condition are measured against the last decision of the
context, each at its own turn. What runs below an earlier child may have recorded another decision by then.
So the children of both branches can run in one visit, but only if the decision was changed between them. -/

namespace FlowTree.Walk

/-- Conditions have no block, or one that neither names a branch nor chooses among the children. -/
def LeavesToDecision (r : Registry) : Prop :=
  ∀ block, r.get? "condition" = some block →
    (∀ node request s, (block.run node request s).1.branch = none) ∧ ∀ child c, block.route child c = none

/-- There is a decision, and the label of the child stands for it. -/
def Takes (decision : Option Bool) (child : Node) : Prop :=
  ∃ d ∈ decision, StandsFor child d

instance (decision : Option Bool) : DecidablePred (Takes decision) := fun child =>
  inferInstanceAs (Decidable (∃ d ∈ decision, StandsFor child d))

/-- The visit leaves the last decision as it was. -/
def KeepsDecision (u : Visit) : Prop :=
  u.after.context.lastDecision = u.before.context.lastDecision

variable {r : Registry} {request : Request} {root node : Node} {s t : Session} {u : Visit} {log : List Visit}
  {p : Place} {i j : Nat}

/-! ### Between two turns -/

/-- If nothing between the turns of two children decides anew, both have the same last decision. -/
theorem lastDecision_eq_of_keeps (h : Threaded r request s log t) (hsorted : log.Pairwise (·.place < ·.place))
    (hij : i ≤ j) (hkeeps : ∀ w ∈ log, (∃ k y, w.place = p ++ k :: y ∧ i ≤ k ∧ k < j) → KeepsDecision w) :
    (sessionAt s log (p ++ [i])).context.lastDecision = (sessionAt s log (p ++ [j])).context.lastDecision := by
  refine sessionAt_eq_of_keeps (f := fun t => t.context.lastDecision) h hsorted (fun x hx => ?_)
    fun w hw hnot hlt => hkeeps w hw (below_child_of_between hnot hlt)
  rcases Nat.eq_or_lt_of_le hij with rfl | hij
  · exact hx
  · exact List.lt_trans hx (lt_of_index_lt p hij [] [])

/-! ### Conditions -/

theorem selected_iff_takes {outcome : Outcome} {child : Node} {c : Context} (hr : LeavesToDecision r)
    (hk : node.kind = "condition") (hbranch : outcome.branch = none) :
    Selected r node outcome child c ↔ Takes c.lastDecision child := by
  have hroute : ((r.get? node.kind).bind fun block => block.route child c) = none := by
    rw [hk]
    cases hb : r.get? "condition" with
    | none => rfl
    | some block => exact (hr block hb).2 child c
  rw [Selected, hroute]
  simp only [hbranch, hk, Takes, Option.mem_def, ← branch?_eq_some_iff]
  simp

theorem branch_of_leavesToDecision (hr : LeavesToDecision r) (hu : DoneByBlock r request u)
    (hk : u.node.kind = "condition") : u.outcome.branch = none := by
  unfold DoneByBlock at hu
  rw [hk] at hu
  cases hb : r.get? "condition" with
  | none =>
    rw [hb] at hu
    rw [hu.1]
    rfl
  | some block =>
    rw [hb] at hu
    rw [hu.1]
    exact (hr block hb).1 ..

/-- What a run that makes the visits `log` from the session `s` does after the visit of a condition. -/
structure FollowsDecisions (s : Session) (log : List Visit) (u : Visit) : Prop where
  /-- Each child is measured against the decision that stands at its turn. -/
  visited_iff : ∀ i child, u.node.children[i]? = some child → (VisitedAt log (u.place ++ [i]) ↔
    u.outcome.continues = true ∧ Takes (sessionAt s log (u.place ++ [i])).context.lastDecision child)
  /-- If all visits below leave the decision alone, it is that of the condition itself for all children. -/
  one_decision : u.outcome.continues = true →
    (∀ w ∈ log, (∃ k y, w.place = u.place ++ k :: y) → KeepsDecision w) →
    (childVisits log u).map (fun w => (w.place, w.node)) = childrenWith u (Takes u.after.context.lastDecision)
  /-- Children of both branches are visited only if a visit below the first of them or between them decides anew. -/
  decided_anew : ∀ i j first second decision, i < j → u.node.children[i]? = some first →
    u.node.children[j]? = some second → StandsFor first decision → StandsFor second (!decision) →
    VisitedAt log (u.place ++ [i]) → VisitedAt log (u.place ++ [j]) →
    ∃ w ∈ log, (∃ k y, w.place = u.place ++ k :: y ∧ i ≤ k ∧ k < j) ∧ ¬KeepsDecision w

theorem condition_followsDecisions (hr : LeavesToDecision r) (hu : u ∈ visited r request root s)
    (hk : u.node.kind = "condition") : FollowsDecisions s (visited r request root s) u := by
  have hthread : Threaded r request s (visited r request root s) _ := threaded_visited root s
  have hsorted : (visited r request root s).Pairwise (·.place < ·.place) := pairwise_visits.1 [] root s
  have hbranch := branch_of_leavesToDecision hr (hthread.doneByBlock u hu) hk
  have hturn : ∀ i child, u.node.children[i]? = some child → (VisitedAt (visited r request root s) (u.place ++ [i]) ↔
      u.outcome.continues = true ∧
        Takes (sessionAt s (visited r request root s) (u.place ++ [i])).context.lastDecision child) := by
    intro i child hi
    rw [visitedAt_iff_selected hu hi, selected_iff_takes hr hk hbranch]
  constructor
  case visited_iff => exact hturn
  case one_decision =>
    intro hcontinues hkeeps
    refine childVisits_eq hu _ fun i child hi => ?_
    -- The first child has its turn right after the condition, and from there to the others nothing decides.
    have hdecision := lastDecision_eq_of_keeps hthread hsorted (Nat.zero_le i) fun w hw ⟨k, y, hplace, _⟩ =>
      hkeeps w hw ⟨k, y, hplace⟩
    rw [hturn i child hi, ← hdecision, sessionAt_first hthread hsorted hu]
    simp [hcontinues]
  case decided_anew =>
    intro i j first second decision hij hi hj hfirst hsecond hvisited hvisited'
    refine Classical.byContradiction fun hnot => ?_
    have hdecision := lastDecision_eq_of_keeps (p := u.place) hthread hsorted (Nat.le_of_lt hij) fun w hw hplace =>
      Classical.byContradiction fun hchanges => hnot ⟨w, hw, hplace, hchanges⟩
    obtain ⟨d, hd, hstands⟩ := ((hturn i first hi).mp hvisited).2
    obtain ⟨d', hd', hstands'⟩ := ((hturn j second hj).mp hvisited').2
    obtain rfl : d = d' := Option.some.inj (hd.symm.trans (hdecision.trans hd'))
    obtain rfl := hstands.unique hfirst
    exact hsecond.not_other hstands'

/-- A block that records the decision that its node gives. -/
def deciding : Block where
  run node _ s :=
    match node.get? "decision" with
    | some (.bool decision) => (.none, s.modify (·.recordDecision decision))
    | _ => (.none, s)

/-- Below a decision for the first branch a condition with both, the first of which decides for the second. -/
def wavering : Node :=
  .mk "root" "decide" [("decision", .bool true)]
    [.mk "fork" "condition" []
      [.mk "yes" "decide" [("decision", .bool false)] [] (some "condition"), .mk "no" "decide" [] [] (some "else")] none]
    none

def waveringVisits : List Visit :=
  visited [("decide", deciding)] (.new "GET" "/") wavering
    (begun { peer := .unreachable } (.ofNode wavering) (.new "GET" "/"))

/-- Both branches of the condition run, since the first child decides anew. -/
theorem wavering_decided_anew : VisitedAt waveringVisits [0, 0] ∧ VisitedAt waveringVisits [0, 1] ∧
    ∃ w ∈ waveringVisits, (∃ k y, w.place = [0] ++ k :: y ∧ 0 ≤ k ∧ k < 1) ∧ ¬KeepsDecision w := by
  have hyes : VisitedAt waveringVisits [0, 0] := ⟨waveringVisits[2], List.getElem_mem _, rfl⟩
  have hno : VisitedAt waveringVisits [0, 1] := ⟨waveringVisits[3], List.getElem_mem _, rfl⟩
  have hfork : waveringVisits[1] ∈ waveringVisits := List.getElem_mem _
  have hleaves : LeavesToDecision [("decide", deciding)] := by simp [LeavesToDecision, Fields.get?]
  have hfollows : FollowsDecisions _ waveringVisits waveringVisits[1] := condition_followsDecisions hleaves hfork rfl
  exact ⟨hyes, hno, hfollows.decided_anew 0 1 _ _ true (by decide) rfl rfl (by decide) (by decide) hyes hno⟩

end FlowTree.Walk

import FlowTree.Proofs.Run.Places

/-! # Whose turn it is

A child gets its turn after all that comes before it in document order, and is then selected or passed
over, in the context as it stands. So whether a place is visited is told by the visits before it. -/

namespace FlowTree.Walk

/-- One of the visits is at the place. -/
def VisitedAt (log : List Visit) (place : Place) : Prop :=
  ∃ v ∈ log, v.place = place

/-- The session at the turn of a place: what the last visit before it left behind. -/
def sessionAt (s : Session) (log : List Visit) (place : Place) : Session :=
  ((log.filter fun v => v.place < place).getLast?.map (·.after)).getD s

/-- The rule that selects a child. The block of its parent may decide; else the child belongs to the branch
    of the outcome, or to that of the last decision if the outcome has none and the parent is a
    condition. Below other parents every child is selected. -/
def Selected (r : Registry) (parent : Node) (outcome : Outcome) (child : Node) (c : Context) : Prop :=
  match (r.get? parent.kind).bind fun block => block.route child c with
  | some answer => answer = true
  | none =>
    (∃ branch, outcome.branch = some branch ∧ child.branch? = some branch) ∨
    (outcome.branch = none ∧ parent.kind = "condition" ∧
      ∃ decision, c.lastDecision = some decision ∧ child.branch? = some (Branch.ofDecision decision)) ∨
    (outcome.branch = none ∧ parent.kind ≠ "condition")

theorem follows_iff {r : Registry} {parent child : Node} {outcome : Outcome} {c : Context} :
    follows r parent outcome child c = true ↔ Selected r parent outcome child c := by
  unfold follows Selected
  rcases (r.get? parent.kind).bind fun block => block.route child c with _ | answer
  · rcases outcome.branch with _ | branch
    · by_cases hk : parent.kind = "condition"
      · rcases c.lastDecision with _ | decision
        · simp [hk]
        · rcases child.branch? with _ | branch <;> simp [hk, Branch.isTaken]
      · simp [hk]
    · simp
  · rfl

variable {r : Registry} {request : Request} {s t : Session} {log more : List Visit} {place : Place}

/-! ### Visits before and after a place -/

theorem Threaded.last (h : Threaded r request s log t) : (log.getLast?.map (·.after)).getD s = t := by
  induction log generalizing s with
  | nil => exact h.symm
  | cons v log ih =>
    obtain ⟨-, h⟩ := h
    rw [← ih h]
    cases log with
    | nil => rfl
    | cons w log => simp [List.getLast?_eq_some_getLast]

theorem visitedAt_append_of_before (h : ∀ v ∈ log, v.place < place) :
    VisitedAt (log ++ more) place ↔ VisitedAt more place := by
  constructor
  · rintro ⟨v, hv, hp⟩
    rcases List.mem_append.mp hv with hv | hv
    · exact absurd (h v hv) (hp ▸ List.lt_irrefl _)
    · exact ⟨v, hv, hp⟩
  · rintro ⟨v, hv, hp⟩
    exact ⟨v, List.mem_append_right _ hv, hp⟩

theorem not_visitedAt_of_after (h : ∀ v ∈ log, place < v.place) : ¬VisitedAt log place := fun ⟨v, hv, hp⟩ =>
  List.lt_irrefl _ (hp ▸ h v hv)

theorem visitedAt_append_of_after (h : ∀ v ∈ more, place < v.place) :
    VisitedAt (log ++ more) place ↔ VisitedAt log place := by
  constructor
  · rintro ⟨v, hv, hp⟩
    rcases List.mem_append.mp hv with hv | hv
    · exact ⟨v, hv, hp⟩
    · exact absurd ⟨v, hv, hp⟩ (not_visitedAt_of_after h)
  · rintro ⟨v, hv, hp⟩
    exact ⟨v, List.mem_append_left _ hv, hp⟩

theorem filter_eq_self_of_before (h : ∀ v ∈ log, v.place < place) : (log.filter fun v => v.place < place) = log :=
  List.filter_eq_self.mpr fun v hv => decide_eq_true (h v hv)

theorem sessionAt_of_not_before (h : ∀ v ∈ log, ¬v.place < place) : sessionAt s log place = s := by
  have hnil : (log.filter fun v => v.place < place) = [] :=
    List.filter_eq_nil_iff.mpr fun v hv => by simpa using h v hv
  rw [sessionAt, hnil]
  rfl

theorem sessionAt_append_of_after (h : ∀ v ∈ more, place < v.place) :
    sessionAt s (log ++ more) place = sessionAt s log place := by
  have hnil : (more.filter fun v => v.place < place) = [] :=
    List.filter_eq_nil_iff.mpr fun v hv => by simpa using List.lt_asymm (h v hv)
  rw [sessionAt, List.filter_append, hnil, List.append_nil]
  rfl

theorem sessionAt_append_of_before (ht : Threaded r request s log t) (h : ∀ v ∈ log, v.place < place) :
    sessionAt s (log ++ more) place = sessionAt t more place := by
  rw [sessionAt, List.filter_append, filter_eq_self_of_before h, sessionAt, List.getLast?_append]
  cases (more.filter fun v => v.place < place).getLast? with
  | none => exact ht.last
  | some v => rfl

theorem sessionAt_cons_of_before {u : Visit} (h : Threaded r request s (u :: log) t) (hu : u.place < place) :
    sessionAt s (u :: log) place = sessionAt u.after log place := by
  have hone : Threaded r request s [u] u.after := ⟨h.1, rfl⟩
  exact sessionAt_append_of_before hone (by simpa using hu)

/-- What all visits between two turns keep is the same at both. -/
theorem sessionAt_eq_of_keeps {α : Type} {f : Session → α} {p q : Place} (h : Threaded r request s log t)
    (hsorted : log.Pairwise (·.place < ·.place)) (hpq : ∀ x : Place, x < p → x < q)
    (hkeeps : ∀ w ∈ log, ¬w.place < p → w.place < q → f w.after = f w.before) :
    f (sessionAt s log p) = f (sessionAt s log q) := by
  induction log generalizing s with
  | nil => rfl
  | cons u log ih =>
    obtain ⟨hlater, hsorted⟩ := List.pairwise_cons.mp hsorted
    have ih := ih h.2 hsorted fun w hw => hkeeps w (List.mem_cons_of_mem _ hw)
    by_cases hup : u.place < p
    · rw [sessionAt_cons_of_before h hup, sessionAt_cons_of_before h (hpq _ hup)]
      exact ih
    -- From here on no visit is before the turn of `p`, so the session there is the one in which these visits begin.
    have hnot : ∀ w ∈ log, ¬w.place < p := fun w hw hwp => hup (List.lt_trans (hlater w hw) hwp)
    rw [sessionAt_of_not_before fun w hw => by
      rcases List.mem_cons.mp hw with rfl | hw
      · exact hup
      · exact hnot w hw]
    by_cases huq : u.place < q
    · rw [sessionAt_of_not_before hnot] at ih
      have hbefore : u.before = s := by rw [h.1]; rfl
      rw [sessionAt_cons_of_before h huq, ← ih, hkeeps u List.mem_cons_self hup huq, hbefore]
    · rw [sessionAt_of_not_before fun w hw => by
        rcases List.mem_cons.mp hw with rfl | hw
        · exact huq
        · exact fun hwq => huq (List.lt_trans (hlater w hw) hwq)]

/-- A first child has its turn right after the visit of its parent. -/
theorem sessionAt_first {u : Visit} (h : Threaded r request s log t) (hsorted : log.Pairwise (·.place < ·.place))
    (hu : u ∈ log) :
    sessionAt s log (u.place ++ [0]) = u.after := by
  induction log generalizing s with
  | nil => cases hu
  | cons w log ih =>
    obtain ⟨hlater, hsorted⟩ := List.pairwise_cons.mp hsorted
    rcases List.mem_cons.mp hu with rfl | hu
    · rw [sessionAt_cons_of_before h (lt_append_cons _ _ _), sessionAt_of_not_before fun x hx hlt => ?_]
      obtain ⟨k, y, -, hk⟩ := below_child_of_before (hlater x hx) hlt
      exact absurd hk (Nat.not_lt_zero k)
    · have hw : w.place < u.place ++ [0] := List.lt_trans (hlater u hu) (lt_append_cons _ _ _)
      rw [sessionAt_cons_of_before h hw]
      exact ih h.2 hsorted hu

/-! ### The turns of children -/

/-- A child of the visited node is visited if and only if the node lets its children follow and the rule
    selects the child at its turn. -/
def Turns (r : Registry) (s : Session) (log : List Visit) (v : Visit) : Prop :=
  ∀ i child, v.node.children[i]? = some child → (VisitedAt log (v.place ++ [i]) ↔
    v.outcome.continues = true ∧
      follows r v.node v.outcome child (sessionAt s log (v.place ++ [i])).context = true)

/-- The same of a row of siblings, the first of which is child number `i` of a parent that lets its children
    follow. -/
def Row (r : Registry) (s : Session) (log : List Visit) (parent : Visit) (i : Nat) (children : List Node) : Prop :=
  ∀ j child, children[j]? = some child → (VisitedAt log (parent.place ++ [i + j]) ↔
    follows r parent.node parent.outcome child (sessionAt s log (parent.place ++ [i + j])).context = true)

variable {v parent : Visit} {i : Nat} {child : Node} {rest : List Node}

theorem Turns.append_right (h : Turns r t more v) (ht : Threaded r request s log t)
    (hlog : ∀ u ∈ log, ∀ i, u.place < v.place ++ [i]) : Turns r s (log ++ more) v := fun i child hi => by
  have hbefore : ∀ u ∈ log, u.place < v.place ++ [i] := fun u hu => hlog u hu i
  rw [visitedAt_append_of_before hbefore, sessionAt_append_of_before ht hbefore]
  exact h i child hi

theorem Turns.append_left (h : Turns r s log v) (hmore : ∀ u ∈ more, ∀ i, v.place ++ [i] < u.place) :
    Turns r s (log ++ more) v := fun i child hi => by
  have hafter : ∀ u ∈ more, v.place ++ [i] < u.place := fun u hu => hmore u hu i
  rw [visitedAt_append_of_after hafter, sessionAt_append_of_after hafter]
  exact h i child hi

theorem Row.append_right (h : Row r t more parent i rest) (ht : Threaded r request s log t)
    (hlog : ∀ u ∈ log, ∀ j, u.place < parent.place ++ [i + j]) : Row r s (log ++ more) parent i rest :=
  fun j child hj => by
    have hbefore : ∀ u ∈ log, u.place < parent.place ++ [i + j] := fun u hu => hlog u hu j
    rw [visitedAt_append_of_before hbefore, sessionAt_append_of_before ht hbefore]
    exact h j child hj

theorem Row.cons (hfirst : VisitedAt log (parent.place ++ [i]) ↔
      follows r parent.node parent.outcome child (sessionAt s log (parent.place ++ [i])).context = true)
    (hrest : Row r s log parent (i + 1) rest) : Row r s log parent i (child :: rest) := by
  intro j c hj
  cases j with
  | zero =>
    obtain rfl : child = c := by simpa using hj
    exact hfirst
  | succ j =>
    have hindex : i + (j + 1) = i + 1 + j := by omega
    rw [hindex]
    exact hrest j c (by simpa using hj)

theorem Row.turns (h : Row r v.after log v 0 v.node.children) (hc : v.outcome.continues = true) :
    Turns r v.after log v := by
  intro i child hi
  have hturn := h i child hi
  rw [Nat.zero_add] at hturn
  rw [hturn, hc]
  simp

theorem visitOf_mem_visits (place : Place) (node : Node) (s : Session) :
    visitOf r request place node s ∈ (visits r request place node s).1 := by
  cases h : (visitOf r request place node s).outcome.continues
  · rw [visits_of_not_continues h]
    exact List.mem_singleton_self _
  · rw [visits_of_continues h]
    exact List.mem_cons_self

theorem visitedAt_root (place : Place) (node : Node) (s : Session) :
    VisitedAt (visits r request place node s).1 place :=
  ⟨_, visitOf_mem_visits place node s, rfl⟩

theorem place_of_mem_visits {node : Node} (hv : v ∈ (visits r request place node s).1) :
    ∃ p, v.place = place ++ p := by
  obtain ⟨p, hp, -⟩ := visits_below.1 _ _ _ v hv
  exact ⟨p, hp⟩

theorem place_of_mem_visitsBelow (hv : v ∈ (visitsBelow r request parent i rest s).1) :
    ∃ j p, v.place = parent.place ++ (i + j) :: p :=
  (visits_below.2 _ _ _ _ v hv).place_eq

/-- The visits below a child come before the turns of its later siblings. -/
theorem lt_turn_of_mem_visits (hv : v ∈ (visits r request (parent.place ++ [i]) child s).1) {j : Nat} (hj : i < j)
    (q : Place) : v.place < parent.place ++ j :: q := by
  obtain ⟨p, hp⟩ := place_of_mem_visits hv
  rw [hp, List.append_assoc]
  exact lt_of_index_lt parent.place hj p q

theorem turn_lt_of_mem_visitsBelow (hv : v ∈ (visitsBelow r request parent i rest s).1) {j : Nat} (hj : j < i)
    (q : Place) : parent.place ++ j :: q < v.place := by
  obtain ⟨k, p, hp⟩ := place_of_mem_visitsBelow hv
  rw [hp]
  exact lt_of_index_lt parent.place (by omega) q p

theorem turns_visits :
    (∀ place node s, ∀ v ∈ (visits r request place node s).1, Turns r s (visits r request place node s).1 v) ∧
    ∀ parent i children s, Row r s (visitsBelow r request parent i children s).1 parent i children ∧
      ∀ v ∈ (visitsBelow r request parent i children s).1, Turns r s (visitsBelow r request parent i children s).1 v := by
  refine visits_induction r request ?stop ?go ?nil ?take ?skip
  case stop =>
    intro place node s h v hv i child hi
    rw [visits_of_not_continues h] at hv ⊢
    obtain rfl := List.mem_singleton.mp hv
    simp [VisitedAt, h]
  case go =>
    intro place node s h ih v hv
    rw [visits_of_continues h] at hv ⊢
    have hthread : Threaded r request s _ _ := threaded_singleton place node s
    have hnode : node = (visitOf r request place node s).node := rfl
    generalize visitOf r request place node s = here at *
    subst hnode
    rcases List.mem_cons.mp hv with rfl | hv
    · refine Turns.append_right (ih.1.turns h) hthread fun u hu i => ?_
      obtain rfl := List.mem_singleton.mp hu
      exact lt_append_cons _ i []
    · refine Turns.append_right (ih.2 v hv) hthread fun u hu i => ?_
      obtain rfl := List.mem_singleton.mp hu
      obtain ⟨j, p, hp⟩ := place_of_mem_visitsBelow hv
      rw [hp, List.append_assoc, List.cons_append]
      exact lt_append_cons _ _ _
  case nil =>
    intro parent i s
    simp [Row]
  case take =>
    intro parent i child rest s h ih ih'
    rw [visitsBelow_of_follows h]
    have hthread : Threaded r request s _ _ := threaded_visits (parent.place ++ [i]) child s
    -- The turn of the child itself is before all of these visits, so the session is still `s` there.
    refine ⟨Row.cons ?_ (ih'.1.append_right hthread fun u hu j => lt_turn_of_mem_visits hu (by omega) []), ?_⟩
    · have hroot : VisitedAt (visits r request _ child s).1 _ := visitedAt_root (parent.place ++ [i]) child s
      rw [visitedAt_append_of_after fun u hu => turn_lt_of_mem_visitsBelow hu (Nat.lt_succ_self i) [],
        sessionAt_of_not_before]
      · simp [hroot, h]
      · intro u hu
        rcases List.mem_append.mp hu with hu | hu
        · obtain ⟨p, hp⟩ := place_of_mem_visits hu
          rw [hp]
          exact not_append_lt _ _
        · exact List.lt_asymm (turn_lt_of_mem_visitsBelow hu (Nat.lt_succ_self i) [])
    · intro v hv
      rcases List.mem_append.mp hv with hv | hv
      · refine (ih v hv).append_left fun u hu k => ?_
        obtain ⟨p, hp⟩ := place_of_mem_visits hv
        rw [hp, List.append_assoc, List.append_assoc]
        exact turn_lt_of_mem_visitsBelow hu (Nat.lt_succ_self i) _
      · refine (ih'.2 v hv).append_right hthread fun u hu k => ?_
        obtain ⟨j, p, hp⟩ := place_of_mem_visitsBelow hv
        rw [hp, List.append_assoc, List.cons_append]
        exact lt_turn_of_mem_visits hu (by omega) _
  case skip =>
    intro parent i child rest s h ih
    rw [visitsBelow_of_not_follows h]
    -- A child that is passed over leaves no visit; the later siblings' turns are those of the rest of the row.
    refine ⟨Row.cons ?_ ih.1, ih.2⟩
    have hafter : ∀ u ∈ (visitsBelow r request parent (i + 1) rest s).1, parent.place ++ [i] < u.place :=
      fun u hu => turn_lt_of_mem_visitsBelow hu (Nat.lt_succ_self i) []
    rw [sessionAt_of_not_before fun u hu => List.lt_asymm (hafter u hu)]
    simp [h, not_visitedAt_of_after hafter]

/-! ### Whose turn it is in a whole run -/

/-- Only the children of visited nodes are visited. -/
theorem parent_visited :
    (∀ place node s, ∀ v ∈ (visits r request place node s).1, v.place = place ∨
      ∃ u ∈ (visits r request place node s).1, ∃ i, v.place = u.place ++ [i]) ∧
    ∀ parent i children s, ∀ v ∈ (visitsBelow r request parent i children s).1, (∃ j, v.place = parent.place ++ [j]) ∨
      ∃ u ∈ (visitsBelow r request parent i children s).1, ∃ j, v.place = u.place ++ [j] := by
  refine visits_induction r request ?stop ?go ?nil ?take ?skip
  case stop =>
    intro place node s h v hv
    rw [visits_of_not_continues h] at hv
    exact Or.inl (by rw [List.mem_singleton.mp hv]; rfl)
  case go =>
    intro place node s h ih v hv
    rw [visits_of_continues h] at hv ⊢
    rcases List.mem_cons.mp hv with rfl | hv
    · exact Or.inl rfl
    · rcases ih v hv with ⟨j, hj⟩ | ⟨u, hu, j, hj⟩
      · exact Or.inr ⟨_, List.mem_cons_self, j, hj⟩
      · exact Or.inr ⟨u, List.mem_cons_of_mem _ hu, j, hj⟩
  case nil =>
    intro parent i s v hv
    rw [visitsBelow_nil] at hv
    cases hv
  case take =>
    intro parent i child rest s h ih ih' v hv
    rw [visitsBelow_of_follows h] at hv ⊢
    rcases List.mem_append.mp hv with hv | hv
    · rcases ih v hv with hp | ⟨u, hu, j, hj⟩
      · exact Or.inl ⟨i, hp⟩
      · exact Or.inr ⟨u, List.mem_append_left _ hu, j, hj⟩
    · rcases ih' v hv with hp | ⟨u, hu, j, hj⟩
      · exact Or.inl hp
      · exact Or.inr ⟨u, List.mem_append_right _ hu, j, hj⟩
  case skip =>
    intro parent i child rest s h ih v hv
    rw [visitsBelow_of_not_follows h] at hv ⊢
    exact ih v hv

variable {root node : Node} {q : Place}

theorem visitedAt_parent (h : VisitedAt (visited r request root s) (q ++ [i])) :
    VisitedAt (visited r request root s) q := by
  obtain ⟨v, hv, hp⟩ := h
  rcases parent_visited.1 [] root s v hv with hnil | ⟨u, hu, j, hj⟩
  · exact absurd (hp.symm.trans hnil) (by simp)
  · exact ⟨u, hu, (List.append_inj' (hj.symm.trans hp) rfl).1⟩

theorem visitedAt_iff_selected (hv : v ∈ visited r request root s) (hchild : v.node.children[i]? = some child) :
    VisitedAt (visited r request root s) (v.place ++ [i]) ↔ v.outcome.continues = true ∧
      Selected r v.node v.outcome child (sessionAt s (visited r request root s) (v.place ++ [i])).context := by
  rw [← follows_iff]
  exact turns_visits.1 [] root s v hv i child hchild

/-- A child is visited if and only if its parent is, the parent lets its children follow, and the rule
    selects the child in the context at its turn. -/
theorem visitedAt_child_iff (hnode : root.at? q = some node) (hchild : node.children[i]? = some child) :
    VisitedAt (visited r request root s) (q ++ [i]) ↔ ∃ v ∈ visited r request root s, v.place = q ∧
      v.outcome.continues = true ∧
      Selected r node v.outcome child (sessionAt s (visited r request root s) (q ++ [i])).context := by
  constructor
  · intro h
    obtain ⟨v, hv, rfl⟩ := visitedAt_parent h
    obtain rfl : v.node = node := Option.some.inj ((at?_of_mem_visited hv).symm.trans hnode)
    exact ⟨v, hv, rfl, (visitedAt_iff_selected hv hchild).mp h⟩
  · rintro ⟨v, hv, rfl, hselected⟩
    obtain rfl : v.node = node := Option.some.inj ((at?_of_mem_visited hv).symm.trans hnode)
    exact (visitedAt_iff_selected hv hchild).mpr hselected

/-! ### The children that are visited -/

/-- The visits of the children of a visited node, in the order of the run. -/
def childVisits (log : List Visit) (v : Visit) : List Visit :=
  log.filter fun w => w.place ≠ [] ∧ w.place.dropLast = v.place

theorem mem_childVisits {w : Visit} : w ∈ childVisits log v ↔ w ∈ log ∧ ∃ i, w.place = v.place ++ [i] := by
  simp only [childVisits, List.mem_filter, decide_eq_true_eq]
  refine and_congr_right fun _ => ⟨fun ⟨hne, hlast⟩ => ?_, fun ⟨i, hi⟩ => ?_⟩
  · exact ⟨w.place.getLast hne, by rw [← hlast, List.dropLast_concat_getLast]⟩
  · simp [hi]

theorem child_of_visited (hv : v ∈ visited r request root s) {w : Visit} (hw : w ∈ visited r request root s)
    (hi : w.place = v.place ++ [i]) : v.node.children[i]? = some w.node := by
  have hat := at?_of_mem_visited hw
  rw [hi, Node.at?_append, at?_of_mem_visited hv, Option.bind_some, Node.at?_cons] at hat
  simpa using hat

/-- The children of a visited node that have a property, each with its place, in the order of the node. -/
def childrenWith (v : Visit) (p : Node → Prop) [DecidablePred p] : List (Place × Node) :=
  (v.node.children.zipIdx.filter fun c => p c.1).map fun c => (v.place ++ [c.2], c.1)

theorem mem_childrenWith {p : Node → Prop} [DecidablePred p] {q : Place} : (q, node) ∈ childrenWith v p ↔
    ∃ i, q = v.place ++ [i] ∧ v.node.children[i]? = some node ∧ p node := by
  simp only [childrenWith, List.mem_map, List.mem_filter, decide_eq_true_eq, Prod.mk.injEq, Prod.exists]
  constructor
  · rintro ⟨c, i, ⟨hmem, hp⟩, rfl, rfl⟩
    exact ⟨i, rfl, List.mem_zipIdx_iff_getElem?.mp hmem, hp⟩
  · rintro ⟨i, rfl, hi, hp⟩
    exact ⟨node, i, ⟨List.mem_zipIdx_iff_getElem?.mpr hi, hp⟩, rfl, rfl⟩

theorem pairwise_zipIdx {α : Type} (l : List α) (k : Nat) : (l.zipIdx k).Pairwise (·.2 < ·.2) := by
  induction l generalizing k with
  | nil => exact List.Pairwise.nil
  | cons a l ih =>
    refine List.pairwise_cons.mpr ⟨fun c hc => ?_, ih (k + 1)⟩
    exact List.le_snd_of_mem_zipIdx hc

theorem pairwise_childrenWith (v : Visit) (p : Node → Prop) [DecidablePred p] : (childrenWith v p).Pairwise (·.1 < ·.1) := by
  refine List.pairwise_map.mpr (((pairwise_zipIdx v.node.children 0).filter _).imp fun h => ?_)
  exact lt_of_index_lt v.place h [] []

theorem eq_of_ordered {l m : List (Place × Node)} (hl : l.Pairwise (·.1 < ·.1)) (hm : m.Pairwise (·.1 < ·.1))
    (h : ∀ x, x ∈ l ↔ x ∈ m) : l = m := by
  have nodup : ∀ {l : List (Place × Node)}, l.Pairwise (·.1 < ·.1) → l.Nodup := fun hl =>
    hl.imp fun {x y} hlt heq => by
      rw [heq] at hlt
      exact List.lt_irrefl _ hlt
  refine List.Perm.eq_of_pairwise (fun x y _ _ hxy hyx => ?_) hl hm
    ((List.perm_ext_iff_of_nodup (nodup hl) (nodup hm)).mpr h)
  exact absurd hyx (List.lt_asymm hxy)

/-- Where the children that are visited are those with a property, they are visited in the order of the
    node. -/
theorem childVisits_eq (hv : v ∈ visited r request root s) (p : Node → Prop) [DecidablePred p]
    (h : ∀ i child, v.node.children[i]? = some child → (VisitedAt (visited r request root s) (v.place ++ [i]) ↔ p child)) :
    (childVisits (visited r request root s) v).map (fun w => (w.place, w.node)) = childrenWith v p := by
  have hordered : (childVisits (visited r request root s) v).Pairwise (·.place < ·.place) :=
    (pairwise_visits.1 [] root s).filter _
  refine eq_of_ordered (List.pairwise_map.mpr hordered) (pairwise_childrenWith v p) fun ⟨q, node⟩ => ?_
  rw [mem_childrenWith]
  simp only [List.mem_map, mem_childVisits, Prod.mk.injEq]
  constructor
  · rintro ⟨w, ⟨hw, i, hi⟩, rfl, rfl⟩
    have hchild := child_of_visited hv hw hi
    exact ⟨i, hi, hchild, (h i w.node hchild).mp ⟨w, hw, hi⟩⟩
  · rintro ⟨i, rfl, hchild, hp⟩
    obtain ⟨w, hw, hi⟩ := (h i node hchild).mpr hp
    have hnode : w.node = node := Option.some.inj ((child_of_visited hv hw hi).symm.trans hchild)
    exact ⟨w, ⟨hw, i, hi⟩, hi, hnode⟩

end FlowTree.Walk

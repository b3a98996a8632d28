import FlowTree.Proofs.Run.Visits

/-! # Where a run goes

The visits of a run are visits of nodes of the tree, in document order. So no node is visited twice. -/

namespace FlowTree

/-- The node at a place of the tree. -/
def Node.at? : Node → Place → Option Node
  | node, [] => some node
  | node, i :: place => node.children[i]?.bind (·.at? place)

@[simp] theorem Node.at?_nil (node : Node) : node.at? [] = some node := by rw [at?]

theorem Node.at?_cons (node : Node) (i : Nat) (place : Place) :
    node.at? (i :: place) = node.children[i]?.bind (·.at? place) := by rw [at?]

theorem Node.at?_append (node : Node) (place more : Place) :
    node.at? (place ++ more) = (node.at? place).bind (·.at? more) := by
  induction place generalizing node with
  | nil => simp
  | cons i place ih =>
    simp only [List.cons_append, at?_cons]
    cases node.children[i]? with
    | none => rfl
    | some child => exact ih child

namespace Walk

/-! ### Document order -/

theorem append_lt_append_iff {place p q : Place} : place ++ p < place ++ q ↔ p < q := by
  induction place with
  | nil => rfl
  | cons i place ih => simp [ih]

/-- A node comes before what is below it. -/
theorem lt_append_cons (place : Place) (i : Nat) (p : Place) : place < place ++ i :: p := by
  have h : place ++ [] < place ++ i :: p := append_lt_append_iff.mpr (List.nil_lt_cons ..)
  rwa [List.append_nil] at h

theorem not_append_lt (place p : Place) : ¬place ++ p < place := by
  intro h
  have h' : place ++ p < place ++ [] := by rwa [List.append_nil]
  exact List.not_lt_nil _ (append_lt_append_iff.mp h')

/-- A node and what is below it come before its later siblings and what is below these. -/
theorem lt_of_index_lt (place : Place) {i j : Nat} (h : i < j) (p q : Place) : place ++ i :: p < place ++ j :: q :=
  append_lt_append_iff.mpr (List.cons_lt_cons_iff.mpr (Or.inl h))

/-- What comes after a place is below it, or comes after all that is. -/
theorem below_or_after {p x : Place} (h : p < x) : (∃ k y, x = p ++ k :: y) ∨ ∀ y, p ++ y < x := by
  induction p generalizing x with
  | nil =>
    cases x with
    | nil => exact absurd h (List.lt_irrefl _)
    | cons k y => exact Or.inl ⟨k, y, rfl⟩
  | cons a p ih =>
    cases x with
    | nil => exact absurd h (List.not_lt_nil _)
    | cons b x =>
      rcases List.cons_lt_cons_iff.mp h with hab | ⟨rfl, hpx⟩
      · exact Or.inr fun y => List.cons_lt_cons_iff.mpr (Or.inl hab)
      · rcases ih hpx with ⟨k, y, rfl⟩ | hafter
        · exact Or.inl ⟨k, y, rfl⟩
        · exact Or.inr fun y => List.cons_lt_cons_iff.mpr (Or.inr ⟨rfl, hafter y⟩)

/-- Before the turn of a child there is, below its parent, only what is below earlier children. -/
theorem below_child_of_before {p x : Place} {j : Nat} (h : p < x) (hj : x < p ++ [j]) : ∃ k y, x = p ++ k :: y ∧ k < j := by
  rcases below_or_after h with ⟨k, y, rfl⟩ | hafter
  · rw [append_lt_append_iff, List.cons_lt_cons_iff] at hj
    rcases hj with hkj | ⟨-, hy⟩
    · exact ⟨k, y, rfl, hkj⟩
    · exact absurd hy (List.not_lt_nil _)
  · exact absurd (List.lt_trans hj (hafter [j])) (List.lt_irrefl _)

/-- Between the turns of two children there is only what is below the first or below a child between them. -/
theorem below_child_of_between {p x : Place} {i j : Nat} (hi : ¬x < p ++ [i]) (hj : x < p ++ [j]) :
    ∃ k y, x = p ++ k :: y ∧ i ≤ k ∧ k < j := by
  have hpx : p < x := Decidable.by_contra fun h =>
    hi (List.lt_of_le_of_lt (List.not_lt.mp h) (lt_append_cons p i []))
  obtain ⟨k, y, rfl, hk⟩ := below_child_of_before hpx hj
  rw [append_lt_append_iff, List.cons_lt_cons_iff] at hi
  exact ⟨k, y, rfl, by omega, hk⟩

variable {r : Registry} {request : Request}

/-! ### Visits are inside the tree -/

/-- The visit is one of the node at its place below `place`. -/
def Below (place : Place) (node : Node) (v : Visit) : Prop :=
  ∃ p, v.place = place ++ p ∧ node.at? p = some v.node

/-- The visit is one in the tree of a child of the node at `place`; `children` are those from `i` on. -/
def BelowChild (place : Place) (i : Nat) (children : List Node) (v : Visit) : Prop :=
  ∃ j child, children[j]? = some child ∧ Below (place ++ [i + j]) child v

theorem BelowChild.place_eq {place : Place} {i : Nat} {children : List Node} {v : Visit}
    (h : BelowChild place i children v) : ∃ j p, v.place = place ++ (i + j) :: p := by
  obtain ⟨j, child, -, p, hp, -⟩ := h
  exact ⟨j, p, by rw [hp, List.append_assoc, List.singleton_append]⟩

theorem BelowChild.cons {place : Place} {i : Nat} {child : Node} {rest : List Node} {v : Visit}
    (h : BelowChild place (i + 1) rest v) : BelowChild place i (child :: rest) v := by
  obtain ⟨j, child', hj, hv⟩ := h
  refine ⟨j + 1, child', by simpa using hj, ?_⟩
  have hindex : i + (j + 1) = i + 1 + j := by omega
  rwa [hindex]

theorem visits_below :
    (∀ place node s, ∀ v ∈ (visits r request place node s).1, Below place node v) ∧
    ∀ parent i children s, ∀ v ∈ (visitsBelow r request parent i children s).1,
      BelowChild parent.place i children v := by
  have here : ∀ place node s, Below place node (visitOf r request place node s) := fun place node s =>
    ⟨[], by simp [visitOf], by simp [visitOf]⟩
  refine visits_induction r request ?stop ?go ?nil ?take ?skip
  case stop =>
    intro place node s h v hv
    rw [visits_of_not_continues h] at hv
    obtain rfl := List.mem_singleton.mp hv
    exact here place node s
  case go =>
    intro place node s h ih v hv
    rw [visits_of_continues h] at hv
    rcases List.mem_cons.mp hv with rfl | hv
    · exact here place node s
    · obtain ⟨j, child, hj, p, hp, hat⟩ := ih v hv
      refine ⟨j :: p, ?_, ?_⟩
      · simpa [visitOf] using hp
      · simp [Node.at?_cons, hj, hat]
  case nil =>
    intro parent i s v hv
    rw [visitsBelow_nil] at hv
    cases hv
  case take =>
    intro parent i child rest s h ih ih' v hv
    rw [visitsBelow_of_follows h] at hv
    rcases List.mem_append.mp hv with hv | hv
    · exact ⟨0, child, rfl, ih v hv⟩
    · exact (ih' v hv).cons
  case skip =>
    intro parent i child rest s h ih v hv
    rw [visitsBelow_of_not_follows h] at hv
    exact (ih v hv).cons

/-- A visit in a run through a tree is one of the node at its place. -/
theorem at?_of_mem_visited {root : Node} {s : Session} {v : Visit} (hv : v ∈ visited r request root s) :
    root.at? v.place = some v.node := by
  obtain ⟨p, hp, hat⟩ := visits_below.1 [] root s v hv
  rw [hp]
  exact hat

/-! ### Visits are in document order -/

theorem pairwise_visits :
    (∀ place node s, (visits r request place node s).1.Pairwise (·.place < ·.place)) ∧
    ∀ parent i children s, (visitsBelow r request parent i children s).1.Pairwise (·.place < ·.place) := by
  refine visits_induction r request ?stop ?go ?nil ?take ?skip
  case stop =>
    intro place node s h
    rw [visits_of_not_continues h]
    exact List.pairwise_singleton ..
  case go =>
    intro place node s h ih
    rw [visits_of_continues h]
    refine List.pairwise_cons.mpr ⟨fun v hv => ?_, ih⟩
    obtain ⟨j, p, hp⟩ := (visits_below.2 _ _ _ _ v hv).place_eq
    rw [hp]
    exact lt_append_cons place (0 + j) p
  case nil =>
    intro parent i s
    rw [visitsBelow_nil]
    exact List.Pairwise.nil
  case take =>
    intro parent i child rest s h ih ih'
    rw [visitsBelow_of_follows h]
    refine List.pairwise_append.mpr ⟨ih, ih', fun v hv w hw => ?_⟩
    obtain ⟨p, hp, -⟩ := visits_below.1 _ _ _ v hv
    obtain ⟨j, q, hq⟩ := (visits_below.2 _ _ _ _ w hw).place_eq
    rw [hp, hq, List.append_assoc]
    exact lt_of_index_lt parent.place (by omega) p q
  case skip =>
    intro parent i child rest s h ih
    rw [visitsBelow_of_not_follows h]
    exact ih

/-- No place is visited twice. -/
theorem nodup_places {log : List Visit} (h : log.Pairwise (·.place < ·.place)) : (log.map (·.place)).Nodup := by
  refine List.pairwise_map.mpr (h.imp fun {v w} hlt heq => ?_)
  rw [heq] at hlt
  exact List.lt_irrefl _ hlt

end Walk
end FlowTree

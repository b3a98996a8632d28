import FlowTree.Proofs.Flow.Shape
import FlowTree.Proofs.Json.Nesting

/-! # How high a tree is

A node takes up an array or an object, and its children one more array inside of it, whichever form the nodes above
and below have. So JSON that is nested `n` deep describes trees of at most `(n + 1) / 2` nodes one below the other.
A text is nested at most 127 deep, so a flow that is loaded from text has at most 64 of them. -/

namespace FlowTree

variable {fields : List (String × Json)} {items : List Json} {j : Json} {n : Node} {ns : List Node} {depth k : Nat}

/-! ### The JSON of a tree -/

namespace Json

theorem nesting_le_of_get? {name : String} (h : Fields.get? fields name = some j) : j.nesting ≤ nestingIn fields :=
  nestingIn_le_iff.mp (Nat.le_refl _) (name, j) (Fields.mem_of_get? h)

theorem nesting_le_of_getElem? {i : Nat} (h : items[i]? = some j) : j.nesting ≤ nestingAll items :=
  nestingAll_le_iff.mp (Nat.le_refl _) j (List.mem_of_getElem? h)

end Json

mutual

/-- A tree is at most half as high as its JSON is nested deep, rounded up. -/
theorem Describes.two_mul_height_le {j : Json} {n : Node} : Describes j n → 2 * n.height ≤ j.nesting + 1
  | .object _ _ _ hchildren _ => by
    have hbelow := hchildren.two_mul_height_le fun _ => Json.nesting_le_of_get?
    rw [Node.height, Json.nesting]
    omega
  | .array _ _ _ _ hchildren _ => by
    have hbelow := hchildren.two_mul_height_le fun _ => Json.nesting_le_of_getElem?
    rw [Node.height, Json.nesting]
    omega

theorem GivesChildren.two_mul_height_le {value : Option Json} {children : List Node} {depth : Nat} :
    GivesChildren value children → (∀ j, value = some j → j.nesting ≤ depth) → 2 * Node.heightAll children ≤ depth
  | .missing, _ => Nat.zero_le _
  | .null, _ => Nat.zero_le _
  | .list hitems, hvalue => Nat.le_trans hitems.two_mul_height_le (hvalue _ rfl)

theorem DescribesAll.two_mul_height_le {items : List Json} {nodes : List Node} :
    DescribesAll items nodes → 2 * Node.heightAll nodes ≤ Json.nestingAll items + 1
  | .nil => Nat.zero_le _
  | .cons hnode hnodes => by
    have hfirst := hnode.two_mul_height_le
    have hrest := hnodes.two_mul_height_le
    rw [Node.heightAll, Json.nestingAll]
    omega

end

theorem Flow.parse_eq_ok {source : String} {flow : Flow} (h : Flow.parse source = .ok flow) :
    ∃ j, Json.read source = .ok j ∧ Describes j flow.root := by
  rw [Flow.parse] at h
  split at h
  · cases h
  next j hread =>
    split at h
    next hflow =>
      cases h
      exact ⟨j, hread, (Flow.ofJson?_eq_some_iff.mp hflow).1⟩
    · cases h

theorem Flow.height_le_of_parse {source : String} {flow : Flow} (h : Flow.parse source = .ok flow) :
    flow.root.height ≤ 64 := by
  obtain ⟨j, hread, hroot⟩ := Flow.parse_eq_ok h
  have hnesting : j.nesting ≤ 127 := Json.nesting_of_read hread
  have hheight := hroot.two_mul_height_le
  omega

/-! ### Counting -/

namespace Node

mutual

/-- The number of nodes, counted with calls that are nested at most `depth` deep, the call for the whole tree among
    them. There is no result if that is not enough. -/
def countWithin : (depth : Nat) → Node → Option Nat
  | 0, _ => none
  | depth + 1, mk _ _ _ children _ => (countAllWithin depth children).map (1 + ·)
termination_by structural _ n => n

def countAllWithin : (depth : Nat) → List Node → Option Nat
  | _, [] => some 0
  | depth, n :: ns => do return (← countWithin depth n) + (← countAllWithin depth ns)
termination_by structural _ ns => ns

end

theorem heightAll_le_iff : heightAll ns ≤ depth ↔ ∀ n ∈ ns, n.height ≤ depth := by
  induction ns with
  | nil => simp [heightAll]
  | cons n ns ih => rw [heightAll, Nat.max_le, ih, List.forall_mem_cons]

/-- Counting is nested as deep as the tree is high. -/
theorem countWithin_eq_some_iff : n.countWithin depth = some k ↔ n.height ≤ depth ∧ n.count = k := by
  refine (height.mutual_induct
    (motive_1 := fun n => ∀ depth k, n.countWithin depth = some k ↔ n.height ≤ depth ∧ n.count = k)
    (motive_2 := fun ns => ∀ depth k, countAllWithin depth ns = some k ↔ heightAll ns ≤ depth ∧ countAll ns = k)
    ?node ?nil ?cons).1 n depth k
  case node =>
    intro _ _ _ children _ ih depth k
    cases depth with
    | zero => simp [countWithin, height]
    | succ depth =>
      simp only [countWithin, Option.map_eq_some_iff, ih, height, count, Nat.add_comm 1, Nat.succ_le_succ_iff]
      constructor
      · rintro ⟨_, ⟨hheight, rfl⟩, rfl⟩
        exact ⟨hheight, rfl⟩
      · rintro ⟨hheight, rfl⟩
        exact ⟨_, ⟨hheight, rfl⟩, rfl⟩
  case nil =>
    intro depth k
    simp [countAllWithin, heightAll, countAll]
  case cons =>
    intro n ns ih ihs depth k
    simp only [countAllWithin, Option.bind_eq_bind, Option.bind_eq_some_iff, Option.pure_def, Option.some.injEq, ih,
      ihs, heightAll, countAll, Nat.max_le]
    constructor
    · rintro ⟨_, ⟨hn, rfl⟩, _, ⟨hns, rfl⟩, rfl⟩
      exact ⟨⟨hn, hns⟩, rfl⟩
    · rintro ⟨⟨hn, hns⟩, rfl⟩
      exact ⟨_, ⟨hn, rfl⟩, _, ⟨hns, rfl⟩, rfl⟩

end Node

end FlowTree

import FlowTree.Proofs.Flow.Height
import FlowTree.Proofs.Run.Places

/-! # How deep a run goes

The walk calls itself once more for every step down to the node that it visits, so its calls are nested no deeper
than the tree is high, whatever the blocks do. A flow that is loaded from text has at most 64 nodes one below the
other; neither its walk nor its count is nested deeper than that. -/

namespace FlowTree

/-- The way down to a node is shorter than the tree is high. -/
theorem Node.length_lt_height {root node : Node} {place : Place} (h : root.at? place = some node) :
    place.length < root.height := by
  induction place generalizing root with
  | nil =>
    obtain ⟨id, kind, data, children, label⟩ := root
    rw [height, List.length_nil]
    omega
  | cons i place ih =>
    obtain ⟨id, kind, data, children, label⟩ := root
    rw [at?_cons, Option.bind_eq_some_iff] at h
    obtain ⟨child, hchild, hnode⟩ := h
    have hplace : place.length < child.height := ih hnode
    have hheight : child.height ≤ heightAll children :=
      heightAll_le_iff.mp (Nat.le_refl _) child (List.mem_of_getElem? hchild)
    rw [height, List.length_cons]
    omega

namespace Walk

mutual

/-- The walk with calls to itself that are nested at most `depth` deep, the call for the whole tree among them.
    There is no result if that is not enough. -/
def walkWithin (r : Registry) (request : Request) :
    (depth : Nat) → Node → Session → Option (List Json × Session)
  | 0, _, _ => none
  | depth + 1, .mk id kind data children label, s =>
    let node := Node.mk id kind data children label
    let (outcome, s) := visit r request node s
    if outcome.continues then do
      let (outputs, s) ← walkChildrenWithin r request depth node outcome children s
      return (outcome.output.toList ++ outputs, s)
    else some (outcome.output.toList, s)
termination_by structural _ node => node

def walkChildrenWithin (r : Registry) (request : Request) (depth : Nat) (parent : Node) (outcome : Outcome) :
    List Node → Session → Option (List Json × Session)
  | [], s => some ([], s)
  | child :: rest, s =>
    if follows r parent outcome child s.context then do
      let (outputs, s) ← walkWithin r request depth child s
      let (more, s) ← walkChildrenWithin r request depth parent outcome rest s
      return (outputs ++ more, s)
    else walkChildrenWithin r request depth parent outcome rest s
termination_by structural children => children

end

section
variable {r : Registry} {request : Request} {node child parent : Node} {outcome : Outcome} {rest : List Node}
  {s : Session} {depth : Nat} {x : List Json × Session}

theorem walkWithin_zero : walkWithin r request 0 node s = none := by
  cases node
  rw [walkWithin]

theorem walkWithin_of_not_continues (h : (visit r request node s).1.continues = false) :
    walkWithin r request (depth + 1) node s = some (walk r request node s) := by
  rw [walk_eq_mk, if_neg (by simp [h])]
  cases node
  simp only [walkWithin, h]
  rfl

theorem walkWithin_of_continues (h : (visit r request node s).1.continues = true) :
    walkWithin r request (depth + 1) node s = some x ↔ ∃ values t,
      walkChildrenWithin r request depth node (visit r request node s).1 node.children (visit r request node s).2 =
        some (values, t) ∧ ((visit r request node s).1.output.toList ++ values, t) = x := by
  cases node
  simp only [walkWithin, h, if_true, Option.bind_eq_bind, Option.bind_eq_some_iff, Prod.exists, Option.pure_def,
    Option.some.injEq, Node.children]

theorem walkChildrenWithin_of_follows (h : follows r parent outcome child s.context = true) :
    walkChildrenWithin r request depth parent outcome (child :: rest) s = some x ↔ ∃ values t,
      walkWithin r request depth child s = some (values, t) ∧ ∃ more u,
        walkChildrenWithin r request depth parent outcome rest t = some (more, u) ∧ (values ++ more, u) = x := by
  simp only [walkChildrenWithin, h, if_true, Option.bind_eq_bind, Option.bind_eq_some_iff, Prod.exists,
    Option.pure_def, Option.some.injEq]

end

/-- Every visit is less than `limit` steps down from the root. -/
def Above (limit : Nat) (log : List Visit) : Prop :=
  ∀ v ∈ log, v.place.length < limit

theorem above_cons {limit : Nat} {v : Visit} {log : List Visit} :
    Above limit (v :: log) ↔ v.place.length < limit ∧ Above limit log :=
  List.forall_mem_cons

theorem above_append {limit : Nat} {log more : List Visit} :
    Above limit (log ++ more) ↔ Above limit log ∧ Above limit more :=
  List.forall_mem_append

/-- The walk fits in a depth if and only if all its visits are above it, and then it is the walk. -/
theorem walkWithin_visits (r : Registry) (request : Request) :
    (∀ place node s, ∀ depth x, walkWithin r request depth node s = some x ↔
      Above (place.length + depth) (visits r request place node s).1 ∧ walk r request node s = x) ∧
    ∀ parent i children s, ∀ depth x,
      walkChildrenWithin r request depth parent.node parent.outcome children s = some x ↔
        Above (parent.place.length + 1 + depth) (visitsBelow r request parent i children s).1 ∧
          walkChildren r request parent.node parent.outcome children s = x := by
  refine visits_induction r request ?stop ?go ?nil ?take ?skip
  case stop =>
    intro place node s h depth x
    rw [visits_of_not_continues h]
    cases depth with
    | zero => simp [walkWithin_zero, Above, visitOf]
    | succ depth =>
      rw [walkWithin_of_not_continues h, Option.some.injEq]
      simp [Above, visitOf]
  case go =>
    intro place node s h ih depth x
    rw [visits_of_continues h]
    cases depth with
    | zero => simp [walkWithin_zero, Above, visitOf]
    | succ depth =>
      have hlimit : place.length + (depth + 1) = place.length + 1 + depth := by omega
      have hhere : place.length < place.length + 1 + depth := by omega
      rw [walkWithin_of_continues h, walk_eq_mk, if_pos (show (visit r request node s).1.continues = true from h),
        above_cons, hlimit]
      constructor
      · rintro ⟨values, t, hvalues, rfl⟩
        obtain ⟨hbelow, hwalk⟩ := (ih depth (values, t)).mp hvalues
        simp only [visitOf] at hwalk
        exact ⟨⟨hhere, hbelow⟩, by rw [hwalk]⟩
      · rintro ⟨⟨-, hbelow⟩, rfl⟩
        exact ⟨_, _, (ih depth _).mpr ⟨hbelow, rfl⟩, rfl⟩
  case nil =>
    intro parent i s depth x
    simp [walkChildrenWithin, walkChildren, Above]
  case take =>
    intro parent i child rest s h ih ih' depth x
    have hlength : (parent.place ++ [i]).length = parent.place.length + 1 := by simp
    have hafter : (visits r request (parent.place ++ [i]) child s).2 = (walk r request child s).2 := by
      rw [walk_eq_visits r request (parent.place ++ [i])]
    rw [hlength] at ih
    rw [hafter] at ih'
    rw [visitsBelow_of_follows h, walkChildrenWithin_of_follows h, walkChildren, if_pos h, above_append, hafter]
    constructor
    · rintro ⟨values, t, hvalues, more, u, hmore, rfl⟩
      obtain ⟨hhere, hwalk⟩ := (ih depth (values, t)).mp hvalues
      rw [hwalk] at ih' ⊢
      dsimp only at ih' ⊢
      obtain ⟨hlater, hmore⟩ := (ih' depth (more, u)).mp hmore
      exact ⟨⟨hhere, hlater⟩, by rw [hmore]⟩
    · rintro ⟨⟨hhere, hlater⟩, rfl⟩
      exact ⟨_, _, (ih depth _).mpr ⟨hhere, rfl⟩, _, _, (ih' depth _).mpr ⟨hlater, rfl⟩, rfl⟩
  case skip =>
    intro parent i child rest s h ih depth x
    rw [visitsBelow_of_not_follows h, walkChildrenWithin, if_neg (by simp [h]), walkChildren, if_neg (by simp [h])]
    exact ih depth x

/-- A walk through a tree fits in a depth if and only if no visit is that many steps down. -/
theorem walkWithin_eq_some_iff {r : Registry} {request : Request} {root : Node} {s : Session} {depth : Nat}
    {x : List Json × Session} : walkWithin r request depth root s = some x ↔
      Above depth (visited r request root s) ∧ walk r request root s = x := by
  have hroot := (walkWithin_visits r request).1 [] root s depth x
  rwa [List.length_nil, Nat.zero_add] at hroot

/-- The tree is at most `depth` nodes high, and neither counting its nodes nor running it is nested deeper. -/
structure FitsIn (depth : Nat) (root : Node) : Prop where
  height_le : root.height ≤ depth
  count : root.countWithin depth = some root.count
  walk : ∀ r request s, walkWithin r request depth root s = some (walk r request root s)

theorem fitsIn_of_height_le {depth : Nat} {root : Node} (h : root.height ≤ depth) : FitsIn depth root where
  height_le := h
  count := Node.countWithin_eq_some_iff.mpr ⟨h, rfl⟩
  walk r request s := by
    refine walkWithin_eq_some_iff.mpr ⟨fun v hv => ?_, rfl⟩
    exact Nat.lt_of_lt_of_le (Node.length_lt_height (at?_of_mem_visited hv)) h

theorem fitsIn_of_parse {source : String} {flow : Flow} (h : Flow.parse source = .ok flow) : FitsIn 64 flow.root :=
  fitsIn_of_height_le (Flow.height_le_of_parse h)

/-- The JSON of `2 * n + 2` nodes one below the other, objects and arrays in turn. -/
def alternating : Nat → List Char
  | 0 => "\x7b\"children\":[[]]\x7d".toList
  | n + 1 => "\x7b\"children\":[[\"\",\"\",null,[".toList ++ alternating n ++ "]]]\x7d".toList

/-- A text with 64 nodes one below the other is loaded. -/
theorem fitsIn_alternating : ∃ flow, Flow.parse (String.ofList (alternating 31)) = .ok flow ∧ flow.root.height = 64 ∧
    FitsIn 64 flow.root := by
  have hheight : ((Flow.parse (String.ofList (alternating 31))).toOption.map fun flow => flow.root.height) = some 64 := by
    rw [Flow.parse, Json.read, String.toList_ofList]
    decide +kernel
  cases hparse : Flow.parse (String.ofList (alternating 31)) with
  | error e =>
    rw [hparse] at hheight
    cases hheight
  | ok flow =>
    rw [hparse] at hheight
    exact ⟨flow, rfl, Option.some.inj hheight, fitsIn_of_parse hparse⟩

end Walk
end FlowTree

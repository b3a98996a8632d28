import FlowTree.Run.Walk

/-! # The visits of a run

A run is told by its visits: which node was visited at which place of the tree, with the session before
and after it. `visits` follows the walk and notes them; outputs and final session are those of the walk.
The visits are threaded: each begins with the session that the one before it left behind. -/

namespace FlowTree

/-- The place of a node in a tree: the way down to it, as the number of the child at each step. Places are
    in document order as lists: a node comes before what is below it, and that before its later siblings. -/
abbrev Place := List Nat

/-- One visit of a node. -/
structure Visit where
  place : Place
  node : Node
  before : Session
  outcome : Outcome
  after : Session

namespace Walk

/-- The visit of a node in a session. -/
def visitOf (r : Registry) (request : Request) (place : Place) (node : Node) (s : Session) : Visit :=
  ⟨place, node, s, (visit r request node s).1, (visit r request node s).2⟩

mutual

/-- The visits in the tree of a node, and the session after them. -/
def visits (r : Registry) (request : Request) (place : Place) : Node → Session → List Visit × Session
  | .mk id kind data children label, s =>
    let here := visitOf r request place (.mk id kind data children label) s
    if here.outcome.continues then
      let (below, t) := visitsBelow r request here 0 children here.after
      (here :: below, t)
    else ([here], here.after)
termination_by structural node => node

/-- The visits in the trees of the children of `parent`, the first of which is its child number `i`. -/
def visitsBelow (r : Registry) (request : Request) (parent : Visit) (i : Nat) :
    List Node → Session → List Visit × Session
  | [], s => ([], s)
  | child :: rest, s =>
    if follows r parent.node parent.outcome child s.context then
      let (here, t) := visits r request (parent.place ++ [i]) child s
      let (more, t) := visitsBelow r request parent (i + 1) rest t
      (here ++ more, t)
    else visitsBelow r request parent (i + 1) rest s
termination_by structural children => children

end

/-- The visits of a run through a tree. -/
def visited (r : Registry) (request : Request) (root : Node) (s : Session) : List Visit :=
  (visits r request [] root s).1

/-- The values that visits add to the outputs of a run. -/
def outputs (log : List Visit) : List Json :=
  log.filterMap (·.outcome.output)

section
variable {r : Registry} {request : Request} {place : Place} {node child : Node} {parent : Visit} {i : Nat}
  {rest : List Node} {s : Session}

theorem visits_of_continues (h : (visitOf r request place node s).outcome.continues = true) :
    visits r request place node s =
      (visitOf r request place node s ::
        (visitsBelow r request (visitOf r request place node s) 0 node.children (visitOf r request place node s).after).1,
       (visitsBelow r request (visitOf r request place node s) 0 node.children
        (visitOf r request place node s).after).2) := by
  cases node
  rw [visits, if_pos h]
  rfl

theorem visits_of_not_continues (h : (visitOf r request place node s).outcome.continues = false) :
    visits r request place node s = ([visitOf r request place node s], (visitOf r request place node s).after) := by
  cases node
  rw [visits, if_neg (by simp [h])]

@[simp] theorem visitsBelow_nil : visitsBelow r request parent i [] s = ([], s) := by rw [visitsBelow]

theorem visitsBelow_of_follows (h : follows r parent.node parent.outcome child s.context = true) :
    visitsBelow r request parent i (child :: rest) s =
      ((visits r request (parent.place ++ [i]) child s).1 ++
        (visitsBelow r request parent (i + 1) rest (visits r request (parent.place ++ [i]) child s).2).1,
       (visitsBelow r request parent (i + 1) rest (visits r request (parent.place ++ [i]) child s).2).2) := by
  rw [visitsBelow, if_pos h]

theorem visitsBelow_of_not_follows (h : follows r parent.node parent.outcome child s.context = false) :
    visitsBelow r request parent i (child :: rest) s = visitsBelow r request parent (i + 1) rest s := by
  rw [visitsBelow, if_neg (by simp [h])]

end

/-- What holds of a tree and of a row of siblings by the way in which a run goes through them. -/
theorem visits_induction (r : Registry) (request : Request) {P : Place → Node → Session → Prop}
    {Q : Visit → Nat → List Node → Session → Prop}
    (stop : ∀ place node s, (visitOf r request place node s).outcome.continues = false → P place node s)
    (go : ∀ place node s, (visitOf r request place node s).outcome.continues = true →
      Q (visitOf r request place node s) 0 node.children (visitOf r request place node s).after → P place node s)
    (nil : ∀ parent i s, Q parent i [] s)
    (take : ∀ parent i child rest s, follows r parent.node parent.outcome child s.context = true →
      P (parent.place ++ [i]) child s → Q parent (i + 1) rest (visits r request (parent.place ++ [i]) child s).2 →
      Q parent i (child :: rest) s)
    (skip : ∀ parent i child rest s, follows r parent.node parent.outcome child s.context = false →
      Q parent (i + 1) rest s → Q parent i (child :: rest) s) :
    (∀ place node s, P place node s) ∧ ∀ parent i children s, Q parent i children s := by
  refine visits.mutual_induct r request P Q ?_ ?_ nil ?_ ?_
  · intro place id kind data children label s here hc below t _ ih
    exact go place _ s hc ih
  · intro place id kind data children label s here hc
    exact stop place _ s (by simpa using hc)
  · intro parent i child rest s hf here t ht _ _ _ ih ih'
    exact take parent i child rest s hf ih (by rw [ht]; exact ih')
  · intro parent i child rest s hf ih
    exact skip parent i child rest s (by simpa using hf) ih

/-! ### The walk -/

theorem walk_eq_mk (r : Registry) (request : Request) (node : Node) (s : Session) :
    walk r request node s =
      if (visit r request node s).1.continues then
        ((visit r request node s).1.output.toList ++
          (walkChildren r request node (visit r request node s).1 node.children (visit r request node s).2).1,
         (walkChildren r request node (visit r request node s).1 node.children (visit r request node s).2).2)
      else ((visit r request node s).1.output.toList, (visit r request node s).2) := by
  cases node
  rw [walk]
  rfl

theorem outputs_cons (v : Visit) (log : List Visit) : outputs (v :: log) = v.outcome.output.toList ++ outputs log := by
  unfold outputs
  cases h : v.outcome.output <;> simp [h]

theorem outputs_append (log more : List Visit) : outputs (log ++ more) = outputs log ++ outputs more :=
  List.filterMap_append

/-- The walk outputs what its visits output, and ends in the session after them. -/
theorem walk_eq_visits (r : Registry) (request : Request) (place : Place) (node : Node) (s : Session) :
    walk r request node s = (outputs (visits r request place node s).1, (visits r request place node s).2) := by
  refine (visits_induction r request
    (P := fun place node s =>
      walk r request node s = (outputs (visits r request place node s).1, (visits r request place node s).2))
    (Q := fun parent i children s => walkChildren r request parent.node parent.outcome children s =
      (outputs (visitsBelow r request parent i children s).1, (visitsBelow r request parent i children s).2))
    ?stop ?go ?nil ?take ?skip).1 place node s
  case stop =>
    intro place node s h
    rw [visits_of_not_continues h, walk_eq_mk, if_neg (by simpa [visitOf] using h), outputs_cons]
    simp [outputs, visitOf]
  case go =>
    intro place node s h ih
    rw [visits_of_continues h, walk_eq_mk, if_pos (by simpa [visitOf] using h), outputs_cons]
    simp only [visitOf] at ih ⊢
    rw [ih]
  case nil =>
    intro parent i s
    rw [visitsBelow_nil, walkChildren]
    rfl
  case take =>
    intro parent i child rest s h ih ih'
    rw [visitsBelow_of_follows h, walkChildren, if_pos h, ih]
    simp only [ih', outputs_append]
  case skip =>
    intro parent i child rest s h ih
    rw [visitsBelow_of_not_follows h, walkChildren, if_neg (by simp [h]), ih]

/-! ### One visit -/

/-- The session with the result of the node among its variables, if it is the result of a request. -/
def indexed (node : Node) (outcome : Outcome) (s : Session) : Session :=
  match outcome.output with
  | some output => if node.kind = "request" then s.modify (·.indexResult node output) else s
  | none => s

theorem visit_of_none {r : Registry} {node : Node} (h : r.get? node.kind = none) (request : Request) (s : Session) :
    visit r request node s = (.none, s) := by
  rw [visit, h]

theorem visit_of_some {r : Registry} {node : Node} {block : Block} (h : r.get? node.kind = some block)
    (request : Request) (s : Session) : visit r request node s =
      ((block.run node request s).1, indexed node (block.run node request s).1 (block.run node request s).2) := by
  rcases hrun : block.run node request s with ⟨outcome, t⟩
  simp only [visit, h, hrun, indexed]
  cases outcome.output with
  | none => rfl
  | some output => by_cases hk : node.kind = "request" <;> simp [hk]

/-- What a visit does is told by the block of its node. Without a block it does nothing. -/
def DoneByBlock (r : Registry) (request : Request) (v : Visit) : Prop :=
  match r.get? v.node.kind with
  | none => v.outcome = .none ∧ v.after = v.before
  | some block => v.outcome = (block.run v.node request v.before).1 ∧
      v.after = indexed v.node v.outcome (block.run v.node request v.before).2

theorem doneByBlock_visitOf {r : Registry} {request : Request} (place : Place) (node : Node) (s : Session) :
    DoneByBlock r request (visitOf r request place node s) := by
  unfold DoneByBlock visitOf
  simp only
  split
  next h => simp [visit_of_none h]
  next block h => simp [visit_of_some h]

/-! ### The order of sessions -/

/-- The visits begin with the session `s`, each with what the one before it left behind, and leave `t`. -/
def Threaded (r : Registry) (request : Request) : Session → List Visit → Session → Prop
  | s, [], t => t = s
  | s, v :: log, t => v = visitOf r request v.place v.node s ∧ Threaded r request v.after log t

section
variable {r : Registry} {request : Request} {s t u : Session} {log more : List Visit}

theorem Threaded.append (h : Threaded r request s log t) (h' : Threaded r request t more u) :
    Threaded r request s (log ++ more) u := by
  induction log generalizing s with
  | nil =>
    obtain rfl : t = s := h
    exact h'
  | cons v log ih => exact ⟨h.1, ih h.2⟩

/-- What holds of every single visit holds of the visits of a run. -/
theorem Threaded.forall_mem (h : Threaded r request s log t) {P : Visit → Prop}
    (one : ∀ place node s, P (visitOf r request place node s)) : ∀ v ∈ log, P v := by
  induction log generalizing s with
  | nil =>
    intro v hv
    cases hv
  | cons u log ih =>
    intro v hv
    rcases List.mem_cons.mp hv with rfl | hv
    · rw [h.1]
      exact one ..
    · exact ih h.2 v hv

theorem Threaded.doneByBlock (h : Threaded r request s log t) : ∀ v ∈ log, DoneByBlock r request v :=
  h.forall_mem doneByBlock_visitOf

/-- The first visit begins with the session `s`, each other one with what the one before it left behind, and
    the last leaves `t`. -/
def Handed : Session → List Visit → Session → Prop
  | s, [], t => t = s
  | s, v :: log, t => v.before = s ∧ Handed v.after log t

theorem Threaded.handed (h : Threaded r request s log t) : Handed s log t := by
  induction log generalizing s with
  | nil => exact h
  | cons v log ih => exact ⟨by rw [h.1]; rfl, ih h.2⟩

theorem Threaded.of_append (h : Threaded r request s (log ++ more) u) :
    ∃ t, Threaded r request s log t ∧ Threaded r request t more u := by
  induction log generalizing s with
  | nil => exact ⟨s, rfl, h⟩
  | cons v log ih =>
    obtain ⟨hv, h⟩ := h
    obtain ⟨t, ht, hmore⟩ := ih h
    exact ⟨t, ⟨hv, ht⟩, hmore⟩

theorem threaded_singleton (place : Place) (node : Node) (s : Session) :
    Threaded r request s [visitOf r request place node s] (visitOf r request place node s).after :=
  ⟨rfl, rfl⟩

theorem threaded_visits (place : Place) (node : Node) (s : Session) :
    Threaded r request s (visits r request place node s).1 (visits r request place node s).2 := by
  refine (visits_induction r request
    (P := fun place node s => Threaded r request s (visits r request place node s).1 (visits r request place node s).2)
    (Q := fun parent i children s => Threaded r request s (visitsBelow r request parent i children s).1
      (visitsBelow r request parent i children s).2)
    ?stop ?go ?nil ?take ?skip).1 place node s
  case stop =>
    intro place node s h
    rw [visits_of_not_continues h]
    exact threaded_singleton place node s
  case go =>
    intro place node s h ih
    rw [visits_of_continues h]
    exact ⟨rfl, ih⟩
  case nil =>
    intro parent i s
    rw [visitsBelow_nil]
    rfl
  case take =>
    intro parent i child rest s h ih ih'
    rw [visitsBelow_of_follows h]
    exact ih.append ih'
  case skip =>
    intro parent i child rest s h ih
    rw [visitsBelow_of_not_follows h]
    exact ih

theorem threaded_visited (root : Node) (s : Session) :
    Threaded r request s (visited r request root s) (walk r request root s).2 := by
  rw [walk_eq_visits r request [] root s]
  exact threaded_visits [] root s

end

/-! ### Runs of a flow -/

/-- The session in which the walk of a flow begins. -/
def begun (exchange : Http.Exchange) (flow : Flow) (request : Request) : Session :=
  { context := (Context.new flow).receive request, exchange }

/-- The visits of a run of a flow. -/
def executed (r : Registry) (exchange : Http.Exchange) (flow : Flow) (request : Request) : List Visit :=
  visited r request flow.root (begun exchange flow request)

theorem execute_eq_walk (r : Registry) (exchange : Http.Exchange) (flow : Flow) (request : Request) :
    execute r exchange flow request =
      ⟨(walk r request flow.root (begun exchange flow request)).1,
       (walk r request flow.root (begun exchange flow request)).2⟩ := rfl

theorem outputs_execute (r : Registry) (exchange : Http.Exchange) (flow : Flow) (request : Request) :
    (execute r exchange flow request).outputs = outputs (executed r exchange flow request) := by
  rw [execute_eq_walk, walk_eq_visits r request []]
  rfl

theorem threaded_executed (r : Registry) (exchange : Http.Exchange) (flow : Flow) (request : Request) :
    Threaded r request (begun exchange flow request) (executed r exchange flow request)
      (execute r exchange flow request).session :=
  threaded_visited flow.root (begun exchange flow request)

end Walk
end FlowTree

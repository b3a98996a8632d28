import FlowTree.Proofs.Run.Turns

/-! # A machine that runs one node a step

The stack of the machine holds the nodes whose turn is to come. A step takes the first of them that is
selected in the session as it stands, runs it, and puts its children on top. The walk is a run of this
machine: it visits the same nodes, in the same sessions, and ends in the same session. -/

namespace FlowTree.Walk

/-- A node whose turn is to come. The root has no parent; of the others the visit of the parent is kept. -/
structure Turn where
  place : Place
  node : Node
  parent : Option Visit

/-- The turn is used: it is that of the root, or the rule selects the child. -/
def Turn.isTaken (r : Registry) (c : Context) (turn : Turn) : Bool :=
  match turn.parent with
  | none => true
  | some v => follows r v.node v.outcome turn.node c

/-- The turns of the children of a visited node, the first of which is child number `i`. -/
def turnsFrom (v : Visit) (i : Nat) : List Node → List Turn
  | [] => []
  | child :: rest => ⟨v.place ++ [i], child, some v⟩ :: turnsFrom v (i + 1) rest

/-- The turns that a visit gives. -/
def turns (v : Visit) : List Turn :=
  if v.outcome.continues then turnsFrom v 0 v.node.children else []

structure Machine where
  stack : List Turn
  session : Session
  log : List Visit

namespace Machine

/-- The machine before a run. -/
def start (root : Node) (s : Session) : Machine :=
  ⟨[⟨[], root, none⟩], s, []⟩

/-- Runs one node, if there is one left that is selected. -/
def step? (r : Registry) (request : Request) (m : Machine) : Option Machine :=
  match m.stack.dropWhile fun turn => !turn.isTaken r m.session.context with
  | [] => none
  | turn :: rest =>
    let v := visitOf r request turn.place turn.node m.session
    some ⟨turns v ++ rest, v.after, m.log ++ [v]⟩

/-- The machine halts after `n` steps, in the session `t` and with the visits `log`. -/
inductive Halts (r : Registry) (request : Request) : Machine → Nat → Session → List Visit → Prop where
  | done {m : Machine} (h : step? r request m = none) : Halts r request m 0 m.session m.log
  | step {m m' : Machine} {n : Nat} {t : Session} {log : List Visit} (h : step? r request m = some m')
      (rest : Halts r request m' n t log) : Halts r request m (n + 1) t log

end Machine

open Machine

variable {r : Registry} {request : Request} {s t : Session} {log : List Visit} {n : Nat} {turn : Turn}
  {rest : List Turn}

/-! ### Steps -/

theorem step?_of_taken (h : turn.isTaken r s.context = true) :
    step? r request ⟨turn :: rest, s, log⟩ =
      some ⟨turns (visitOf r request turn.place turn.node s) ++ rest, (visitOf r request turn.place turn.node s).after,
        log ++ [visitOf r request turn.place turn.node s]⟩ := by
  simp only [step?, List.dropWhile_cons, h]
  rfl

theorem step?_of_not_taken (h : turn.isTaken r s.context = false) :
    step? r request ⟨turn :: rest, s, log⟩ = step? r request ⟨rest, s, log⟩ := by
  simp only [step?, List.dropWhile_cons, h]
  rfl

theorem halts_nil (s : Session) (log : List Visit) : Halts r request ⟨[], s, log⟩ 0 s log :=
  .done (m := ⟨[], s, log⟩) rfl

theorem Machine.Halts.of_step?_eq {m m' : Machine} (hstep : step? r request m = step? r request m')
    (hsession : m.session = m'.session) (hlog : m.log = m'.log) (h : Halts r request m' n t log) :
    Halts r request m n t log := by
  cases h with
  | done h =>
    rw [← hsession, ← hlog]
    exact .done (hstep.trans h)
  | step h rest => exact .step (hstep.trans h) rest

/-- A turn that is passed over does not count. -/
theorem Machine.Halts.pass {final : List Visit} (h : turn.isTaken r s.context = false)
    (hrest : Halts r request ⟨rest, s, log⟩ n t final) : Halts r request ⟨turn :: rest, s, log⟩ n t final :=
  hrest.of_step?_eq (step?_of_not_taken h) rfl rfl

/-- The machine halts in one way only. -/
theorem Machine.Halts.unique {m : Machine} {n' : Nat} {t' : Session} {log' : List Visit} (h : Halts r request m n t log)
    (h' : Halts r request m n' t' log') : n' = n ∧ t' = t ∧ log' = log := by
  induction h generalizing n' with
  | done hnone =>
    cases h' with
    | done => exact ⟨rfl, rfl, rfl⟩
    | step hsome => rw [hnone] at hsome; cases hsome
  | step hsome _ ih =>
    cases h' with
    | done hnone => rw [hnone] at hsome; cases hsome
    | step hsome' hrest =>
      obtain rfl := Option.some.inj (hsome.symm.trans hsome')
      obtain ⟨rfl, rfl, rfl⟩ := ih hrest
      exact ⟨rfl, rfl, rfl⟩

/-! ### The walk is a run of the machine -/

/-- From a turn that is taken, the machine makes the visits in the tree of its node, and goes on with the
    turns below it on the stack. From a row of siblings it makes the visits in their trees. -/
theorem halts_of_visits :
    (∀ place node s, ∀ (parent : Option Visit) (rest : List Turn) (log : List Visit) (n : Nat) (t : Session)
      (final : List Visit), (Turn.mk place node parent).isTaken r s.context = true →
      Halts r request ⟨rest, (visits r request place node s).2, log ++ (visits r request place node s).1⟩ n t final →
      Halts r request ⟨⟨place, node, parent⟩ :: rest, s, log⟩ ((visits r request place node s).1.length + n) t final) ∧
    ∀ parent i children s, ∀ (rest : List Turn) (log : List Visit) (n : Nat) (t : Session) (final : List Visit),
      Halts r request ⟨rest, (visitsBelow r request parent i children s).2,
        log ++ (visitsBelow r request parent i children s).1⟩ n t final →
      Halts r request ⟨turnsFrom parent i children ++ rest, s, log⟩
        ((visitsBelow r request parent i children s).1.length + n) t final := by
  refine visits_induction r request ?stop ?go ?nil ?take ?skip
  case stop =>
    intro place node s h parent rest log n t final htaken hrest
    rw [visits_of_not_continues h] at hrest ⊢
    rw [List.length_singleton, Nat.add_comm]
    refine .step (step?_of_taken htaken) ?_
    rw [turns, h]
    exact hrest
  case go =>
    intro place node s h ih parent rest log n t final htaken hrest
    rw [visits_of_continues h] at hrest ⊢
    have hcount : ∀ k, k + 1 + n = k + n + 1 := by omega
    rw [List.length_cons, hcount]
    refine .step (step?_of_taken htaken) ?_
    rw [turns, if_pos h]
    exact ih rest _ n t final (by simpa using hrest)
  case nil =>
    intro parent i s rest log n t final hrest
    rw [visitsBelow_nil] at hrest ⊢
    simpa [turnsFrom] using hrest
  case take =>
    intro parent i child rest s h ih ih' stack log n t final hrest
    rw [visitsBelow_of_follows h] at hrest ⊢
    rw [List.length_append, Nat.add_assoc]
    refine ih (some parent) _ log _ t final h (ih' stack _ n t final ?_)
    rw [List.append_assoc]
    exact hrest
  case skip =>
    intro parent i child rest s h ih stack log n t final hrest
    rw [visitsBelow_of_not_follows h] at hrest ⊢
    rw [turnsFrom, List.cons_append]
    refine Halts.pass ?_ (ih stack log n t final hrest)
    exact h

/-- From its start the machine makes the visits of the walk, one a step, and halts. -/
theorem halts_start_iff {root : Node} {m : Nat} : Halts r request (start root s) m t log ↔
    m = (visited r request root s).length ∧ t = (walk r request root s).2 ∧ log = visited r request root s := by
  have hrun : Halts r request (start root s) (visited r request root s).length (walk r request root s).2
      (visited r request root s) := by
    rw [walk_eq_visits r request [] root s]
    exact halts_of_visits.1 [] root s none [] [] 0 _ _ rfl (halts_nil _ _)
  constructor
  · exact fun h => hrun.unique h
  · rintro ⟨rfl, rfl, rfl⟩
    exact hrun

/-! ### What a run does -/

/-- The visits `log` are those of a run through the tree of `root` that begins in the session `s`, outputs
    `values` and ends in the session `t`. -/
structure Accounts (r : Registry) (request : Request) (root : Node) (s : Session) (log : List Visit)
    (values : List Json) (t : Session) : Prop where
  /-- The machine makes these visits, one a step, and ends in the same session. -/
  machine : ∀ m u l, Halts r request (start root s) m u l ↔ m = log.length ∧ u = t ∧ l = log
  outputs : values = log.filterMap (·.outcome.output)
  inside : ∀ v ∈ log, root.at? v.place = some v.node
  ordered : log.Pairwise (·.place < ·.place)
  once : (log.map (·.place)).Nodup
  /-- The first visit begins with `s`, each other one with what the one before it left behind. -/
  handed : Handed s log t
  doneByBlock : ∀ v ∈ log, DoneByBlock r request v
  root_visited : VisitedAt log []
  child_visited : ∀ q node i child, root.at? q = some node → node.children[i]? = some child →
    (VisitedAt log (q ++ [i]) ↔ ∃ v ∈ log, v.place = q ∧ v.outcome.continues = true ∧
      Selected r node v.outcome child (sessionAt s log (q ++ [i])).context)

/-- Whatever the blocks do, the walk is told by its visits. -/
theorem walk_accounts (r : Registry) (request : Request) (root : Node) (s : Session) :
    Accounts r request root s (visited r request root s) (walk r request root s).1 (walk r request root s).2 := by
  have hthread : Threaded r request s (visited r request root s) (walk r request root s).2 := threaded_visited root s
  have hordered : (visited r request root s).Pairwise (·.place < ·.place) := pairwise_visits.1 [] root s
  exact {
    machine := fun m u l => halts_start_iff
    outputs := by rw [walk_eq_visits r request [] root s]; rfl
    inside := fun v hv => at?_of_mem_visited hv
    ordered := hordered
    once := nodup_places hordered
    handed := hthread.handed
    doneByBlock := hthread.doneByBlock
    root_visited := visitedAt_root [] root s
    child_visited := fun q node i child hnode hchild => visitedAt_child_iff hnode hchild }

end FlowTree.Walk

import FlowTree.Proofs.Run.Effects

/-! # Calls on one context

Trees may be run one after the other on one context. The first call takes in its request, and no later one
does, since no effect of a node clears it. -/

namespace FlowTree.Walk

/-- A call: the tree that is run, if there is one, with the request, the response and the exchange that it is
    given. -/
structure Call where
  node : Option Node
  request : Request
  response : Option Response := none
  exchange : Http.Exchange

namespace Call

/-- The session of a call on a context, before the request is taken in. -/
def session (call : Call) (c : Context) : Session :=
  ⟨c, call.response, call.exchange⟩

/-- The visits of a call on a context. -/
def visits (r : Registry) (call : Call) (c : Context) : List Visit :=
  match call.node with
  | some node => visited r call.request node ((call.session c).modify (·.receive call.request))
  | none => []

/-- What a call leaves of a context. -/
def context (r : Registry) (call : Call) (c : Context) : Context :=
  (runFlow r call.request call.node (call.session c)).2.context

end Call

/-- The visits of calls made one after the other on a context. -/
def callVisits (r : Registry) : List Call → Context → List Visit
  | [], _ => []
  | call :: calls, c => call.visits r c ++ callVisits r calls (call.context r c)

/-- A run of a flow is one call on a fresh context. -/
theorem callVisits_execute (r : Registry) (exchange : Http.Exchange) (flow : Flow) (request : Request) :
    callVisits r [{ node := some flow.root, request, exchange }] (.new flow) = executed r exchange flow request := by
  rw [callVisits, callVisits, List.append_nil]
  rfl

/-- Each visit is one of its node in the session before it, with the request of its call. -/
theorem visitOf_of_mem_callVisits {r : Registry} {calls : List Call} {c : Context} {u : Visit}
    (hu : u ∈ callVisits r calls c) : ∃ request, u = visitOf r request u.place u.node u.before := by
  induction calls generalizing c with
  | nil => cases hu
  | cons call calls ih =>
    rcases List.mem_append.mp hu with hu | hu
    · unfold Call.visits at hu
      split at hu
      next node hnode =>
        refine ⟨call.request, ?_⟩
        exact (threaded_visited node _).forall_mem (P := fun u => u = visitOf r call.request u.place u.node u.before)
          (fun _ _ _ => rfl) u hu
      next => cases hu
    · exact ih hu

variable {v : Services} {call : Call} {calls : List Call} {c : Context}

theorem receive_of_initialized (h : c.isInitialized = true) (request : Request) : c.receive request = c := if_pos h

theorem isInitialized_receive (c : Context) (request : Request) : (c.receive request).isInitialized = true := by
  cases h : c.isInitialized with
  | true => rw [receive_of_initialized h, h]
  | false =>
    rw [Context.receive, if_neg (by simp [h])]
    rfl

theorem Effect.isInitialized {node : Node} {output : Option Json} {d : Context} (h : Effect node c output d)
    (hc : c.isInitialized = true) : d.isInitialized = true := by
  cases h <;> exact hc

theorem Call.effects (call : Call) (c : Context) :
    Effects (c.receive call.request) (call.visits (.standard v) c) (call.context (.standard v) c) := by
  unfold Call.visits Call.context runFlow
  cases call.node with
  | none => rfl
  | some node => exact (threaded_visited node ((call.session c).modify (·.receive call.request))).effects

theorem effects_of_initialized (h : c.isInitialized = true) (calls : List Call) :
    ∃ d, Effects c (callVisits (.standard v) calls c) d := by
  induction calls generalizing c with
  | nil => exact ⟨c, rfl⟩
  | cons call calls ih =>
    have hcall := call.effects (v := v) c
    rw [receive_of_initialized h] at hcall
    obtain ⟨d, hd⟩ := ih (hcall.keeps Effect.isInitialized h).1
    exact ⟨d, hcall.append hd⟩

/-- From the moment in which the first request is taken in, the context changes by effects of nodes only. -/
theorem effects_callVisits (call : Call) (calls : List Call) (c : Context) :
    ∃ d, Effects (c.receive call.request) (callVisits (.standard v) (call :: calls) c) d := by
  have hcall := call.effects (v := v) c
  obtain ⟨d, hd⟩ := effects_of_initialized (hcall.keeps Effect.isInitialized (isInitialized_receive ..)).1 calls
  exact ⟨d, hcall.append hd⟩

/-- A session in which nothing has happened. -/
def idleSession : Session :=
  { context := .new default, exchange := { peer := .unreachable } }

end FlowTree.Walk

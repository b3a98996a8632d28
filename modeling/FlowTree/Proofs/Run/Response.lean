import FlowTree.Proofs.Run.Catalogue

/-! # The response of a run

A run under the catalogue has a response if and only if it visited a node that answers. The response is
that of the first such node: `Session.send` writes an empty place only, and no block clears it. -/

namespace FlowTree.Walk

variable {v : Services} {request : Request} {s t : Session} {log : List Visit}

/-- The first visit of a node that answers. -/
def firstAnswer? (log : List Visit) : Option Visit :=
  log.find? fun u => Answers u.node

/-- The response that a visit of a node that answers sends, or would send. -/
def responseOf (a : Ambient) (u : Visit) : Response :=
  ⟨(answerOf a u.node u.before.context).1, .json (answerOf a u.node u.before.context).2⟩

/-! ### One visit -/

theorem answer_response (s : Session) (status : Nat) (envelope : Json) :
    (s.answer status envelope).2.response = s.response.or (some ⟨status, .json envelope⟩) := by
  simp only [Session.answer, Session.send]
  cases h : s.response with
  | none => rfl
  | some response => simpa using h

theorem answer_sent (s : Session) (status : Nat) (envelope : Json) :
    (s.answer status envelope).1.sent = s.response.isNone := by
  simp only [Session.answer, Session.send]
  cases s.response <;> rfl

theorem answer_output (s : Session) (status : Nat) (envelope : Json) :
    (s.answer status envelope).1.output = some envelope := rfl

theorem answer_continues (s : Session) (status : Nat) (envelope : Json) :
    (s.answer status envelope).1.continues = true := rfl

/-- What a visit does to the response. -/
structure Answered (a : Ambient) (u : Visit) : Prop where
  response : u.after.response = u.before.response.or (if Answers u.node then some (responseOf a u) else none)
  sent : u.outcome.sent = (decide (Answers u.node) && u.before.response.isNone)
  output : Answers u.node → u.outcome.output = some (answerOf a u.node u.before.context).2
  continues : Answers u.node → u.outcome.continues = true

theorem answered_visitOf (place : Place) (node : Node) (s : Session) :
    Answered v.ambient (visitOf (.standard v) request place node s) := by
  by_cases h : Answers node
  · have hvisit := visit_of_answers (v := v) h request s
    constructor <;> simp only [visitOf, hvisit, h, if_true, decide_true, Bool.true_and, forall_const]
    · exact answer_response ..
    · exact answer_sent ..
    · exact answer_output ..
    · exact answer_continues ..
  · obtain ⟨hresponse, hsent⟩ := visit_of_not_answers (v := v) h request s
    constructor <;> simp [visitOf, h, hresponse, hsent]

theorem Threaded.answered (h : Threaded (.standard v) request s log t) : ∀ u ∈ log, Answered v.ambient u :=
  h.forall_mem answered_visitOf

/-! ### A whole run -/

/-- After a run the response is what it was before, or else that of the first node that answers. -/
theorem Threaded.response (h : Threaded (.standard v) request s log t) :
    t.response = s.response.or ((firstAnswer? log).map (responseOf v.ambient)) := by
  induction log generalizing s with
  | nil =>
    obtain rfl : t = s := h
    simp [firstAnswer?]
  | cons w log ih =>
    have hw : Answered v.ambient w := h.answered w List.mem_cons_self
    have hbefore : w.before = s := h.handed.1
    rw [ih h.2, hw.response, hbefore, Option.or_assoc]
    by_cases ha : Answers w.node <;> simp [firstAnswer?, ha]

/-- Only the first node that answers sends the response, and only if none was sent before the run. -/
theorem Threaded.sent (h : Threaded (.standard v) request s log t) :
    (log.filter fun u => u.outcome.sent) = if s.response.isNone then (firstAnswer? log).toList else [] := by
  induction log generalizing s with
  | nil => simp [firstAnswer?]
  | cons w log ih =>
    have hw : Answered v.ambient w := h.answered w List.mem_cons_self
    have hbefore : w.before = s := h.handed.1
    have hrest := ih h.2
    rw [hw.response, hbefore] at hrest
    rw [List.filter_cons, hw.sent, hbefore, hrest]
    cases hs : s.response <;> by_cases ha : Answers w.node <;> simp [firstAnswer?, ha]

/-- Once there is a response, no visit changes it. -/
theorem Threaded.response_kept (h : Threaded (.standard v) request s log t) {response : Response}
    (hs : s.response = some response) : t.response = some response ∧
      ∀ u ∈ log, u.before.response = some response ∧ u.after.response = some response := by
  refine ⟨by rw [h.response, hs, Option.some_or], fun u hu => ?_⟩
  obtain ⟨before, after, rfl⟩ := List.append_of_mem hu
  obtain ⟨m, hbefore, hafter⟩ := h.of_append
  have hm : m.response = some response := by rw [hbefore.response, hs, Option.some_or]
  have hu' : u.before = m := hafter.handed.1
  refine ⟨by rw [hu', hm], ?_⟩
  rw [(h.answered u hu).response, hu', hm, Option.some_or]

/-- The response of a run that visits `log`. -/
structure RespondsOnce (a : Ambient) (log : List Visit) (run : Run) : Prop where
  responds_iff : run.session.response.isSome = true ↔ ∃ u ∈ log, Answers u.node
  response_eq : run.session.response = (firstAnswer? log).map (responseOf a)
  /-- The outputs of the run are those of its visits, and a node that answers outputs its envelope. -/
  outputs_eq : run.outputs = log.filterMap (·.outcome.output)
  envelope_output : ∀ u ∈ log, Answers u.node → u.outcome.output = some (answerOf a u.node u.before.context).2
  /-- The visits that tell of sending are the first that answers, and no other. -/
  sent_eq : (log.filter fun u => u.outcome.sent) = (firstAnswer? log).toList
  /-- The run goes on after a node that answers, but what follows keeps the response. -/
  goes_on : ∀ u ∈ log, Answers u.node → u.outcome.continues = true
  kept : ∀ before u after, log = before ++ u :: after → Answers u.node →
    u.after.response = run.session.response ∧
      ∀ w ∈ after, w.before.response = run.session.response ∧ w.after.response = run.session.response

theorem execute_respondsOnce (v : Services) (exchange : Http.Exchange) (flow : Flow) (request : Request) :
    RespondsOnce v.ambient (executed (.standard v) exchange flow request)
      (execute (.standard v) exchange flow request) := by
  have h := threaded_executed (.standard v) exchange flow request
  have hnone : (begun exchange flow request).response = none := rfl
  have hresponse := h.response
  have hsent := h.sent
  have houtputs := outputs_execute (.standard v) exchange flow request
  rw [hnone, Option.none_or] at hresponse
  rw [hnone, Option.isNone_none, if_pos rfl] at hsent
  generalize executed (.standard v) exchange flow request = log at *
  generalize execute (.standard v) exchange flow request = run at *
  have hanswered : ∀ u ∈ log, Answered v.ambient u := h.answered
  constructor
  case responds_iff => simp [hresponse, firstAnswer?]
  case response_eq => exact hresponse
  case outputs_eq => exact houtputs
  case envelope_output => exact fun u hu ha => (hanswered u hu).output ha
  case sent_eq => exact hsent
  case goes_on => exact fun u hu ha => (hanswered u hu).continues ha
  case kept =>
    rintro before u after rfl ha
    obtain ⟨m, -, hrest⟩ := h.of_append
    have hu : Answered v.ambient u := hanswered u (by simp)
    have hsome : u.after.response = some (u.before.response.getD (responseOf v.ambient u)) := by
      rw [hu.response, if_pos ha]
      cases u.before.response <;> rfl
    obtain ⟨hlast, hafter⟩ := hrest.2.response_kept hsome
    rw [hlast]
    exact ⟨hsome, hafter⟩

end FlowTree.Walk

import FlowTree.Proofs.Run.Attempts

/-! # How failures are told

A node that makes a request can fail before it, by it and after it. What goes wrong is told by the configuration and by
what the node hears (`failure?`), a body that breaks off or stalls included. Each kind of node tells it in its own way,
and nothing of it when nothing goes wrong. -/

namespace FlowTree

/-- What is heard of an attempt; nothing if there is none. -/
def heard? (attempt : Option Attempt) (x : Http.Exchange) : Option (Except Http.TransportError Http.Answer) :=
  attempt.map fun a => (a.make x).1

/-- The answer of a service as its callers see it. -/
def Service.replyOf (a : Ambient) (answer : Http.Answer) : Service.Reply :=
  ⟨answer.status, answer.isOk, (Json.read (answer.text a)).toOption.getD .null⟩

/-- What goes wrong with a service. Without a key nothing is asked of it, so nothing is heard. -/
def Service.failure? (a : Ambient) (source variableName : String) (refused : Service.Reply → ServiceError) :
    Option (Except Http.TransportError Http.Answer) → Option ServiceError
  | none => some (missingKey source variableName)
  | some (.error e) => some (noAnswer source e)
  | some (.ok answer) => if answer.isOk then none else some (refused (replyOf a answer))

def OutboundRequest.failure? (a : Ambient) (node : Node) (s : Session) : Option ServiceError :=
  (node.nonEmpty? "url").bind fun template =>
    match heard? (attempt? a node s.context) s.exchange with
    | none =>
      let method := Text.upper ((node.nonEmpty? "method").getD "GET")
      some ⟨"request", "invalid_request", none, "Unknown HTTP method: " ++ method, some 500⟩
    | some (.error e) => some ⟨"request", "transport_error", none, e.message, some 500⟩
    | some (.ok answer) =>
      if answer.isOk then none
      else some (refusal (Template.fill a s.context template) answer.status (bodyOf a answer))

def GenerateText.failure? (v : Services) (node : Node) (s : Session) : Option ServiceError :=
  if (Template.fill v.ambient s.context (node.text "prompt")).isEmpty then none
  else Service.failure? v.ambient source v.openai.keyVariable refusal (heard? (attempt? v node s.context) s.exchange)

def SendEmail.failure? (v : Services) (node : Node) (s : Session) : Option ServiceError :=
  if (Email.ofNode v.ambient node s.context).isComplete then
    Service.failure? v.ambient source v.resend.keyVariable refusal (heard? (attempt? v node s.context) s.exchange)
  else none

def ManipulateImage.failure? (a : Ambient) (node : Node) (s : Session) : Option ServiceError :=
  let address := Text.trim (Template.fill a s.context (node.text "imageUrl"))
  match heard? (attempt? a node s.context) s.exchange with
  | none => none
  | some (.error e) => some (Service.noAnswer source e)
  | some (.ok answer) =>
    if answer.isOk then
      match a.images.render (opOf a node s.context) answer.body with
      | .ok _ => none
      | .error (kind, message) => some ⟨source, kind, none, message, none⟩
    else
      some ⟨source, "fetch_error", none, "fetching " ++ address ++ " failed with status " ++ toString answer.status,
        some answer.status⟩

/-- What goes wrong at a node that makes requests. -/
def failure? (v : Services) (node : Node) (s : Session) : Option ServiceError :=
  if node.kind = "request" then OutboundRequest.failure? v.ambient node s
  else if node.kind = "generateText" then GenerateText.failure? v node s
  else if node.kind = "sendEmail" then SendEmail.failure? v node s
  else if node.kind = "manipulateImage" then ManipulateImage.failure? v.ambient node s
  else none

/-- A call of a service fails exactly when something goes wrong with it. -/
theorem Service.call_cases (a : Ambient) (x : Http.Exchange) (source : String) (environment : Environment)
    (variableName address : String) (payload : Json) (refused : Service.Reply → ServiceError)
    {heard : Option (Except Http.TransportError Http.Answer)}
    (hheard : heard? (Service.attempt? environment variableName address payload) x = heard) :
    (∃ e y, Service.failure? a source variableName refused heard = some e ∧
      Service.call a x source environment variableName address payload refused = (.error e, y)) ∨
    (∃ body y, Service.failure? a source variableName refused heard = none ∧
      Service.call a x source environment variableName address payload refused = (.ok body, y)) := by
  subst hheard
  unfold Service.call Service.attempt? heard?
  cases environment.key? variableName with
  | none => exact Or.inl ⟨_, _, rfl, rfl⟩
  | some key =>
    simp only [Service.post, Option.map_some, Attempt.make]
    rcases x.request "POST" address _ (some payload.compact) _ with ⟨e | answer, y⟩
    · exact Or.inl ⟨_, _, rfl, rfl⟩
    · cases hok : answer.isOk with
      | true =>
        exact Or.inr ⟨(replyOf a answer).body, y, by simp [failure?, hok], by simp [Except.map, hok, replyOf]⟩
      | false =>
        exact Or.inl ⟨refused (replyOf a answer), y, by simp [failure?, hok], by simp [Except.map, hok, replyOf]⟩

/-! ### What the blocks do -/

section
variable (a : Ambient) (v : Services) (node : Node) (request : Request) (s : Session)

theorem generateText_cases :
    (GenerateText.failure? v node s = none ∧ (Block.generateText v).run node request s = (.none, s)) ∨
    (∃ e x, GenerateText.failure? v node s = some e ∧ (Block.generateText v).run node request s =
      (.last (namedOutput (node.nonEmpty? "referenceVar") (.str e.message)),
        { s with exchange := x, context :=
          (s.context.recordError e).assignAs (node.nonEmpty? "referenceVar") (.str e.message) })) ∨
    (∃ value x, GenerateText.failure? v node s = none ∧ (Block.generateText v).run node request s =
      (.value (namedOutput (node.nonEmpty? "referenceVar") value),
        { s with exchange := x, context := s.context.assignAs (node.nonEmpty? "referenceVar") value })) := by
  simp only [Block.generateText, GenerateText.failure?, GenerateText.attempt?]
  cases (Template.fill v.ambient s.context (node.text "prompt")).isEmpty with
  | true => exact Or.inl ⟨rfl, rfl⟩
  | false =>
    refine Or.inr ?_
    simp only [Bool.false_eq_true, if_false]
    rcases Service.call_cases v.ambient s.exchange GenerateText.source v.environment v.openai.keyVariable _ _
      GenerateText.refusal rfl with ⟨e, y, hfailure, hcall⟩ | ⟨body, y, hfailure, hcall⟩
    · exact Or.inl ⟨e, y, hfailure, by rw [hcall]⟩
    · exact Or.inr ⟨.str (GenerateText.outputText body), y, hfailure, by rw [hcall]⟩

theorem sendEmail_cases :
    (SendEmail.failure? v node s = none ∧ (Block.sendEmail v).run node request s = (.none, s)) ∨
    (∃ e x, SendEmail.failure? v node s = some e ∧ (Block.sendEmail v).run node request s =
      (.last (.str e.message), { s with exchange := x, context := s.context.recordError e })) ∨
    (∃ output x, SendEmail.failure? v node s = none ∧ (Block.sendEmail v).run node request s =
      (.value output, { s with exchange := x })) := by
  simp only [Block.sendEmail, SendEmail.failure?, SendEmail.attempt?]
  cases (SendEmail.Email.ofNode v.ambient node s.context).isComplete with
  | false => exact Or.inl ⟨rfl, rfl⟩
  | true =>
    refine Or.inr ?_
    simp only [Bool.not_true, Bool.false_eq_true, if_false, if_true]
    rcases Service.call_cases v.ambient s.exchange SendEmail.source v.environment v.resend.keyVariable _ _
      SendEmail.refusal rfl with ⟨e, y, hfailure, hcall⟩ | ⟨body, y, hfailure, hcall⟩
    · exact Or.inl ⟨e, y, hfailure, by rw [hcall]⟩
    · exact Or.inr ⟨_, y, hfailure, by rw [hcall]⟩

theorem manipulateImage_cases :
    (ManipulateImage.failure? a node s = none ∧ (Block.manipulateImage a).run node request s = (.none, s)) ∨
    (∃ e x, ManipulateImage.failure? a node s = some e ∧ (Block.manipulateImage a).run node request s =
      (.none, { s with exchange := x, context := s.context.recordError e })) ∨
    (∃ output value x, ManipulateImage.failure? a node s = none ∧ (Block.manipulateImage a).run node request s =
      (.value output, { s with exchange := x, context := s.context.assignAs (node.nonEmpty? "referenceVar") value })) := by
  simp only [Block.manipulateImage, ManipulateImage.failure?, ManipulateImage.attempt?, ManipulateImage.process]
  cases Text.isBlankText (Template.fill a s.context (node.text "imageUrl")) with
  | true => exact Or.inl ⟨rfl, rfl⟩
  | false =>
    refine Or.inr ?_
    simp only [Bool.false_eq_true, if_false, heard?, Option.map_some, Attempt.make]
    rcases s.exchange.request "GET" _ [] none _ with ⟨e | answer, x⟩
    · exact Or.inl ⟨_, x, rfl, rfl⟩
    · simp only [ManipulateImage.filtered]
      cases answer.isOk with
      | false => exact Or.inl ⟨_, x, rfl, rfl⟩
      | true =>
        simp only [Bool.not_true, Bool.false_eq_true, if_false, if_true]
        rcases a.images.render (ManipulateImage.opOf a node s.context) answer.body with ⟨kind, message⟩ | bytes
        · exact Or.inl ⟨_, x, rfl, rfl⟩
        · exact Or.inr ⟨_, _, x, rfl, rfl⟩

theorem request_cases :
    (node.nonEmpty? "url" = none ∧ OutboundRequest.failure? a node s = none ∧
      (Block.request a).run node request s = (.none, s)) ∨
    (∃ e status body x, OutboundRequest.failure? a node s = some e ∧ e.source = "request" ∧ e.status = some status ∧
      (Block.request a).run node request s = (.value (OutboundRequest.result status false body),
        { s with exchange := x, context := s.context.recordError e })) ∨
    (∃ status body x, OutboundRequest.failure? a node s = none ∧ (Block.request a).run node request s =
      (.value (OutboundRequest.result status true body), { s with exchange := x })) := by
  simp only [Block.request, OutboundRequest.failure?, OutboundRequest.attempt?, OutboundRequest.fail]
  cases node.nonEmpty? "url" with
  | none => exact Or.inl ⟨rfl, rfl, rfl⟩
  | some template =>
    refine Or.inr ?_
    simp only [Option.bind_some]
    generalize Text.upper ((node.nonEmpty? "method").getD "GET") = method
    cases Http.isToken method with
    | false => exact Or.inl ⟨_, 500, _, s.exchange, rfl, rfl, rfl, rfl⟩
    | true =>
      simp only [Bool.not_true, Bool.false_eq_true, if_false, if_true, heard?, Option.map_some, Attempt.make]
      generalize s.exchange.request method _ _ _ _ = reply
      rcases reply with ⟨e | answer, x⟩
      · exact Or.inl ⟨_, 500, _, x, rfl, rfl, rfl, rfl⟩
      · simp only
        cases answer.isOk with
        | false => exact Or.inl ⟨_, answer.status, _, x, rfl, rfl, rfl, rfl⟩
        | true => exact Or.inr ⟨answer.status, _, x, rfl, rfl⟩

end

/-! ### The visits -/

theorem Service.source_of_failure? {a : Ambient} {source variableName : String} {refused : Service.Reply → ServiceError}
    {heard : Option (Except Http.TransportError Http.Answer)} {e : ServiceError}
    (hrefused : ∀ reply, (refused reply).source = source)
    (h : Service.failure? a source variableName refused heard = some e) : e.source = source := by
  rcases heard with _ | error | answer
  · rw [← Option.some.inj h]
    rfl
  · rw [← Option.some.inj h]
    rfl
  · simp only [Service.failure?] at h
    split at h
    · cases h
    · rw [← Option.some.inj h, hrefused]

theorem GenerateText.source_of_failure? {v : Services} {node : Node} {s : Session} {e : ServiceError}
    (h : GenerateText.failure? v node s = some e) : e.source = "openai" := by
  unfold GenerateText.failure? at h
  split at h
  · cases h
  · exact Service.source_of_failure? (fun _ => rfl) h

theorem SendEmail.source_of_failure? {v : Services} {node : Node} {s : Session} {e : ServiceError}
    (h : SendEmail.failure? v node s = some e) : e.source = "resend" := by
  unfold SendEmail.failure? at h
  split at h
  · exact Service.source_of_failure? (fun _ => rfl) h
  · cases h

theorem ManipulateImage.source_of_failure? {a : Ambient} {node : Node} {s : Session} {e : ServiceError}
    (h : ManipulateImage.failure? a node s = some e) : e.source = "image" := by
  simp only [ManipulateImage.failure?] at h
  split at h
  · cases h
  · rw [← Option.some.inj h]
    rfl
  · split at h
    · split at h
      · cases h
      · rw [← Option.some.inj h]
        rfl
    · rw [← Option.some.inj h]
      rfl

namespace Walk

variable {v : Services} {node : Node} {request : Request} {s : Session} {outcome : Outcome}

theorem visit_of_get? {block : Block} (hget : (Registry.standard v).get? node.kind = some block)
    (hkind : node.kind ≠ "request") (request : Request) (s : Session) :
    visit (.standard v) request node s = block.run node request s := by
  rw [visit_of_some hget, indexed_of_ne hkind]

theorem visit_generateText (hk : node.kind = "generateText") (v : Services) (request : Request) (s : Session) :
    visit (.standard v) request node s = (Block.generateText v).run node request s :=
  visit_of_get? (by simp [Registry.standard, Fields.get?, hk]) (by simp [hk]) request s

theorem visit_sendEmail (hk : node.kind = "sendEmail") (v : Services) (request : Request) (s : Session) :
    visit (.standard v) request node s = (Block.sendEmail v).run node request s :=
  visit_of_get? (by simp [Registry.standard, Fields.get?, hk]) (by simp [hk]) request s

theorem visit_manipulateImage (hk : node.kind = "manipulateImage") (v : Services) (request : Request) (s : Session) :
    visit (.standard v) request node s = (Block.manipulateImage v.ambient).run node request s :=
  visit_of_get? (by simp [Registry.standard, Fields.get?, hk]) (by simp [hk]) request s

theorem visit_outboundRequest (hk : node.kind = "request") (v : Services) (request : Request) (s : Session) :
    visit (.standard v) request node s = (((Block.request v.ambient).run node request s).1,
      indexed node ((Block.request v.ambient).run node request s).1 ((Block.request v.ambient).run node request s).2) := by
  have hget : (Registry.standard v).get? node.kind = some (.request v.ambient) := by
    simp [Registry.standard, Fields.get?, hk]
  rw [visit_of_some hget]

theorem lastError_indexed (node : Node) (outcome : Outcome) (s : Session) :
    (indexed node outcome s).context.lastError = s.context.lastError := by
  unfold indexed
  split
  · split <;> rfl
  · rfl

@[simp] theorem lastError_assignAs (c : Context) (name : Option String) (value : Json) :
    (c.assignAs name value).lastError = c.lastError := by
  cases name <;> rfl

theorem visit_of_unconfigured (h : Unconfigured v node s.context) (request : Request) :
    visit (.standard v) request node s = (.none, s) := by
  cases h with
  | url hk hurl =>
    have hrun : (Block.request v.ambient).run node request s = (.none, s) := by simp [Block.request, hurl]
    rw [visit_outboundRequest hk, hrun]
    rfl
  | prompt hk hprompt => simp [visit_generateText hk, Block.generateText, hprompt]
  | email hk hfield hblank => simp [visit_sendEmail hk, Block.sendEmail, not_isComplete hfield hblank]
  | image hk hblank => simp [visit_manipulateImage hk, Block.manipulateImage, hblank]

theorem failure?_of_not_mem (h : node.kind ∉ outboundKinds) (v : Services) (s : Session) : failure? v node s = none := by
  simp only [outboundKinds, List.mem_cons, List.not_mem_nil, or_false, not_or] at h
  rw [failure?, if_neg h.1, if_neg h.2.1, if_neg h.2.2.1, if_neg h.2.2.2]

theorem failure?_generateText (hk : node.kind = "generateText") (v : Services) (s : Session) :
    failure? v node s = GenerateText.failure? v node s := by
  simp [failure?, hk]

theorem failure?_sendEmail (hk : node.kind = "sendEmail") (v : Services) (s : Session) :
    failure? v node s = SendEmail.failure? v node s := by
  simp [failure?, hk]

theorem failure?_manipulateImage (hk : node.kind = "manipulateImage") (v : Services) (s : Session) :
    failure? v node s = ManipulateImage.failure? v.ambient node s := by
  simp [failure?, hk]

/-- A node that makes requests leaves the last failure alone and goes on, or records what went wrong. -/
theorem visit_outbound (hk : node.kind ∈ outboundKinds) (v : Services) (request : Request) (s : Session) :
    (visit (.standard v) request node s).1.branch = none ∧
    ((failure? v node s = none ∧ (visit (.standard v) request node s).1.continues = true ∧
        (visit (.standard v) request node s).2.context.lastError = s.context.lastError) ∨
      ∃ e, failure? v node s = some e ∧ (visit (.standard v) request node s).2.context.lastError = some e) := by
  simp only [outboundKinds, List.mem_cons, List.not_mem_nil, or_false] at hk
  rcases hk with hk | hk | hk | hk
  · rw [visit_outboundRequest hk, failure?, if_pos hk, lastError_indexed]
    rcases request_cases v.ambient node request s with ⟨-, hfailure, hrun⟩ |
      ⟨e, status, body, x, hfailure, -, -, hrun⟩ | ⟨status, body, x, hfailure, hrun⟩ <;> rw [hrun]
    · exact ⟨rfl, Or.inl ⟨hfailure, rfl, rfl⟩⟩
    · exact ⟨rfl, Or.inr ⟨e, hfailure, rfl⟩⟩
    · exact ⟨rfl, Or.inl ⟨hfailure, rfl, rfl⟩⟩
  · rw [visit_generateText hk, failure?_generateText hk]
    rcases generateText_cases v node request s with ⟨hfailure, hrun⟩ | ⟨e, x, hfailure, hrun⟩ |
      ⟨value, x, hfailure, hrun⟩ <;> rw [hrun]
    · exact ⟨rfl, Or.inl ⟨hfailure, rfl, rfl⟩⟩
    · exact ⟨rfl, Or.inr ⟨e, hfailure, by simp [Context.recordError]⟩⟩
    · exact ⟨rfl, Or.inl ⟨hfailure, rfl, by simp⟩⟩
  · rw [visit_sendEmail hk, failure?_sendEmail hk]
    rcases sendEmail_cases v node request s with ⟨hfailure, hrun⟩ | ⟨e, x, hfailure, hrun⟩ |
      ⟨output, x, hfailure, hrun⟩ <;> rw [hrun]
    · exact ⟨rfl, Or.inl ⟨hfailure, rfl, rfl⟩⟩
    · exact ⟨rfl, Or.inr ⟨e, hfailure, rfl⟩⟩
    · exact ⟨rfl, Or.inl ⟨hfailure, rfl, rfl⟩⟩
  · rw [visit_manipulateImage hk, failure?_manipulateImage hk]
    rcases manipulateImage_cases v.ambient node request s with ⟨hfailure, hrun⟩ | ⟨e, x, hfailure, hrun⟩ |
      ⟨output, value, x, hfailure, hrun⟩ <;> rw [hrun]
    · exact ⟨rfl, Or.inl ⟨hfailure, rfl, rfl⟩⟩
    · exact ⟨rfl, Or.inr ⟨e, hfailure, rfl⟩⟩
    · exact ⟨rfl, Or.inl ⟨hfailure, rfl, by simp⟩⟩

/-- The node lets its children follow, and every one of them does. -/
def ChildrenRun (v : Services) (node : Node) (outcome : Outcome) : Prop :=
  outcome.continues = true ∧ ∀ child c, follows (.standard v) node outcome child c = true

theorem childrenRun_of_continues (hk : node.kind ∈ outboundKinds) (hbranch : outcome.branch = none)
    (h : outcome.continues = true) : ChildrenRun v node outcome := by
  refine ⟨h, fun child c => ?_⟩
  have hne : node.kind ≠ "condition" := fun hc => by simp [hc, outboundKinds] at hk
  simp only [follows, bind_route_standard, hbranch, if_neg hne]

/-! ### What a visit tells -/

/-- What the visit of a node tells of failures: those of each kind in one way, and none without a failure. -/
structure TellsFailures (v : Services) (node : Node) (s : Session) (outcome : Outcome) (after : Session) : Prop where
  unconfigured : Unconfigured v node s.context → outcome = .none ∧ after = s
  fine : node.kind ∈ outboundKinds → failure? v node s = none →
    after.context.lastError = s.context.lastError ∧ after.context.scope? "error" = s.context.scope? "error" ∧
      ChildrenRun v node outcome
  recorded : ∀ e, failure? v node s = some e → after.context.lastError = some e
  request : node.kind = "request" → node.nonEmpty? "url" ≠ none →
    ∃ status ok body, outcome.output = some (OutboundRequest.result status ok body) ∧
      (ok = false ↔ (failure? v node s).isSome = true) ∧
      (∀ e, failure? v node s = some e → e.source = "request" ∧ e.status = some status) ∧ ChildrenRun v node outcome
  generateText : node.kind = "generateText" → ∀ e, failure? v node s = some e →
    e.source = "openai" ∧ outcome.output = some (namedOutput (node.nonEmpty? "referenceVar") (.str e.message)) ∧
      outcome.continues = false ∧ ∀ name, node.nonEmpty? "referenceVar" = some name →
        after.context.locals.get? name = some (.str e.message) ∧ after.context.results.get? name = some (.str e.message)
  sendEmail : node.kind = "sendEmail" → ∀ e, failure? v node s = some e →
    e.source = "resend" ∧ outcome.output = some (.str e.message) ∧ outcome.continues = false ∧
      after.context.locals = s.context.locals ∧ after.context.results = s.context.results
  manipulateImage : node.kind = "manipulateImage" → ∀ e, failure? v node s = some e →
    e.source = "image" ∧ outcome.output = none ∧ ChildrenRun v node outcome ∧
      after.context.locals = s.context.locals ∧ after.context.results = s.context.results

theorem visit_tellsFailures (v : Services) (request : Request) (node : Node) (s : Session) :
    TellsFailures v node s (visit (.standard v) request node s).1 (visit (.standard v) request node s).2 := by
  constructor
  case unconfigured =>
    intro h
    rw [visit_of_unconfigured h]
    exact ⟨rfl, rfl⟩
  case fine =>
    intro hk hfailure
    obtain ⟨hbranch, ⟨-, hcontinues, hlast⟩ | ⟨e, hsome, -⟩⟩ := visit_outbound hk v request s
    · refine ⟨hlast, ?_, childrenRun_of_continues hk hbranch hcontinues⟩
      simp [Context.scope?, Context.errorJson, hlast]
    · simp [hfailure] at hsome
  case recorded =>
    intro e hfailure
    have hk : node.kind ∈ outboundKinds := Decidable.by_contra fun hk => by
      simp [failure?_of_not_mem hk] at hfailure
    obtain ⟨-, ⟨hnone, -, -⟩ | ⟨e', hsome, hlast⟩⟩ := visit_outbound hk v request s
    · simp [hnone] at hfailure
    · rw [hlast, ← hsome, hfailure]
  case request =>
    intro hk hurl
    have hmem : node.kind ∈ outboundKinds := by simp [hk, outboundKinds]
    rw [visit_outboundRequest hk, failure?, if_pos hk]
    rcases request_cases v.ambient node request s with ⟨hnone, -, -⟩ |
      ⟨e, status, body, x, hfailure, hsource, hstatus, hrun⟩ | ⟨status, body, x, hfailure, hrun⟩
    · exact absurd hnone hurl
    · rw [hrun, hfailure]
      refine ⟨status, false, body, rfl, by simp, ?_, childrenRun_of_continues hmem rfl rfl⟩
      rintro e' ⟨⟩
      exact ⟨hsource, hstatus⟩
    · rw [hrun, hfailure]
      refine ⟨status, true, body, rfl, by simp, ?_, childrenRun_of_continues hmem rfl rfl⟩
      rintro e' ⟨⟩
  case generateText =>
    intro hk e hfail
    rw [failure?_generateText hk] at hfail
    rcases generateText_cases v node request s with ⟨hfailure, -⟩ | ⟨e', x, hfailure, hrun⟩ | ⟨value, x, hfailure, -⟩
    · simp [hfailure] at hfail
    · obtain rfl : e' = e := Option.some.inj (hfailure.symm.trans hfail)
      rw [visit_generateText hk, hrun]
      refine ⟨GenerateText.source_of_failure? hfail, rfl, rfl, fun name hname => ?_⟩
      rw [hname]
      exact ⟨Fields.get?_insert_self .., Fields.get?_insert_self ..⟩
    · simp [hfailure] at hfail
  case sendEmail =>
    intro hk e hfail
    rw [failure?_sendEmail hk] at hfail
    rcases sendEmail_cases v node request s with ⟨hfailure, -⟩ | ⟨e', x, hfailure, hrun⟩ | ⟨output, x, hfailure, -⟩
    · simp [hfailure] at hfail
    · obtain rfl : e' = e := Option.some.inj (hfailure.symm.trans hfail)
      rw [visit_sendEmail hk, hrun]
      exact ⟨SendEmail.source_of_failure? hfail, rfl, rfl, rfl, rfl⟩
    · simp [hfailure] at hfail
  case manipulateImage =>
    intro hk e hfail
    have hmem : node.kind ∈ outboundKinds := by simp [hk, outboundKinds]
    rw [failure?_manipulateImage hk] at hfail
    rcases manipulateImage_cases v.ambient node request s with ⟨hfailure, -⟩ | ⟨e', x, hfailure, hrun⟩ |
      ⟨output, value, x, hfailure, -⟩
    · simp [hfailure] at hfail
    · obtain rfl : e' = e := Option.some.inj (hfailure.symm.trans hfail)
      rw [visit_manipulateImage hk, hrun]
      exact ⟨ManipulateImage.source_of_failure? hfail, rfl, childrenRun_of_continues hmem rfl rfl, rfl, rfl⟩
    · simp [hfailure] at hfail

end Walk

end FlowTree

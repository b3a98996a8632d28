import FlowTree.Proofs.Run.Catalogue

/-! # The requests that nodes make

A node describes one request at most (`attempt?`), by its data and the context alone. Its block makes that request and
no other, and learns nothing of the exchange but the answer (`Makes`). -/

namespace FlowTree

/-- A request that a node would make. -/
structure Attempt where
  method : String
  address : String
  headers : List (String × String)
  body : Option String
  /-- The body of the answer is read if its status is one of these. -/
  wanted : Nat → Bool := fun _ => true

namespace Attempt

def make (a : Attempt) (x : Http.Exchange) : Except Http.TransportError Http.Answer × Http.Exchange :=
  x.request a.method a.address a.headers a.body a.wanted

/-- The request as it is sent, if it can be put together. -/
def call? (a : Attempt) : Option Http.Call :=
  (Http.Call.build a.method a.address a.headers a.body).toOption

end Attempt

/-- What is left of an exchange after an attempt, if there is one. -/
def afterAttempt (a : Option Attempt) (x : Http.Exchange) : Http.Exchange :=
  match a with
  | some a => (a.make x).2
  | none => x

@[simp] theorem afterAttempt_none (x : Http.Exchange) : afterAttempt none x = x := rfl

@[simp] theorem exchange_modify (s : Session) (f : Context → Context) : (s.modify f).exchange = s.exchange := rfl

def Service.attempt? (environment : Environment) (variableName address : String) (payload : Json) : Option Attempt :=
  (environment.key? variableName).map fun key =>
    { method := "POST"
      address
      headers := [("authorization", "Bearer " ++ key), ("content-type", "application/json")]
      body := some payload.compact }

def OutboundRequest.attempt? (a : Ambient) (node : Node) (c : Context) : Option Attempt :=
  (node.nonEmpty? "url").bind fun template =>
    let method := Text.upper ((node.nonEmpty? "method").getD "GET")
    let body := bodyFor? a node c method
    if Http.isToken method then
      some
        { method
          address := Template.fill a c template
          headers := headersFor a node c body.isSome
          body := body.map Json.compact }
    else none

def GenerateText.attempt? (v : Services) (node : Node) (c : Context) : Option Attempt :=
  let prompt := Template.fill v.ambient c (node.text "prompt")
  if prompt.isEmpty then none
  else
    Service.attempt? v.environment v.openai.keyVariable (Service.trimSlashes v.openai.baseUrl ++ "/responses")
      (payload ((node.nonEmpty? "model").getD v.openai.model) prompt (temperature node))

def SendEmail.attempt? (v : Services) (node : Node) (c : Context) : Option Attempt :=
  let email := Email.ofNode v.ambient node c
  if email.isComplete then
    Service.attempt? v.environment v.resend.keyVariable (Service.trimSlashes v.resend.baseUrl ++ "/emails") email.payload
  else none

def ManipulateImage.attempt? (a : Ambient) (node : Node) (c : Context) : Option Attempt :=
  let address := Template.fill a c (node.text "imageUrl")
  if Text.isBlankText address then none else some ⟨"GET", Text.trim address, [], none, Http.isSuccess⟩

/-- The request that a node describes. -/
def attempt? (v : Services) (node : Node) (c : Context) : Option Attempt :=
  if node.kind = "request" then OutboundRequest.attempt? v.ambient node c
  else if node.kind = "generateText" then GenerateText.attempt? v node c
  else if node.kind = "sendEmail" then SendEmail.attempt? v node c
  else if node.kind = "manipulateImage" then ManipulateImage.attempt? v.ambient node c
  else none

/-- A text without which the node has nothing to do is blank. A prompt counts as one unless it is empty. -/
inductive Unconfigured (v : Services) (node : Node) (c : Context) : Prop where
  | url (hkind : node.kind = "request") (hurl : node.nonEmpty? "url" = none)
  | prompt (hkind : node.kind = "generateText") (hprompt : Template.fill v.ambient c (node.text "prompt") = "")
  | email {field : String} (hkind : node.kind = "sendEmail") (hfield : field ∈ ["to", "from", "subject", "body"])
      (hblank : Text.isBlankText (Template.fill v.ambient c (node.text field)) = true)
  | image (hkind : node.kind = "manipulateImage")
      (hblank : Text.isBlankText (Template.fill v.ambient c (node.text "imageUrl")) = true)

/-- With a key, every prompt but the empty one is asked for, also one of blanks. -/
theorem GenerateText.isSome_attempt?_iff {v : Services} {node : Node} {c : Context} :
    (GenerateText.attempt? v node c).isSome = true ↔
      Template.fill v.ambient c (node.text "prompt") ≠ "" ∧ (v.environment.key? v.openai.keyVariable).isSome = true := by
  simp only [GenerateText.attempt?, Service.attempt?]
  split
  next h => simp [String.isEmpty_iff.mp h]
  next h => simpa using fun _ => by simpa using h

theorem isComplete_iff {v : Services} {node : Node} {c : Context} :
    (SendEmail.Email.ofNode v.ambient node c).isComplete = true ↔ ∀ field ∈ ["to", "from", "subject", "body"],
      Text.isBlankText (Template.fill v.ambient c (node.text field)) = false := by
  simp [SendEmail.Email.isComplete, SendEmail.Email.ofNode]

theorem not_isComplete {v : Services} {node : Node} {c : Context} {field : String}
    (hfield : field ∈ ["to", "from", "subject", "body"])
    (hblank : Text.isBlankText (Template.fill v.ambient c (node.text field)) = true) :
    ¬(SendEmail.Email.ofNode v.ambient node c).isComplete = true := fun hcomplete => by
  simpa [hblank] using isComplete_iff.mp hcomplete field hfield

theorem attempt?_of_unconfigured {v : Services} {node : Node} {c : Context} (h : Unconfigured v node c) :
    attempt? v node c = none := by
  cases h with
  | url hkind hurl => simp [attempt?, hkind, OutboundRequest.attempt?, hurl]
  | prompt hkind hprompt => simp [attempt?, hkind, GenerateText.attempt?, hprompt]
  | email hkind hfield hblank => simp [attempt?, hkind, SendEmail.attempt?, not_isComplete hfield hblank]
  | image hkind hblank => simp [attempt?, hkind, ManipulateImage.attempt?, hblank]

/-! ### The blocks -/

/-- The block makes the attempts, and no other request. Of the exchange it learns only the answer. -/
structure Makes (block : Block) (attempt? : Node → Context → Option Attempt) : Prop where
  exchange : ∀ node request s, (block.run node request s).2.exchange = afterAttempt (attempt? node s.context) s.exchange
  hears : ∀ node request s x, (∀ a : Attempt, (a.make x).1 = (a.make s.exchange).1) →
    (block.run node request { s with exchange := x }).1 = (block.run node request s).1 ∧
      (block.run node request { s with exchange := x }).2.context = (block.run node request s).2.context

/-- The block makes no requests. -/
abbrev MakesNone (block : Block) : Prop :=
  Makes block fun _ _ => none

theorem makesNone_condition (a : Ambient) : MakesNone (.condition a) := ⟨fun _ _ _ => rfl, fun _ _ _ _ _ => ⟨rfl, rfl⟩⟩

theorem makesNone_start : MakesNone .start := ⟨fun _ _ _ => rfl, fun _ _ _ _ _ => ⟨rfl, rfl⟩⟩

theorem makesNone_setVar (a : Ambient) : MakesNone (.setVar a) where
  exchange node _ _ := by
    simp only [Block.setVar]
    split <;> simp
  hears node _ _ _ _ := by
    simp only [Block.setVar]
    split <;> exact ⟨rfl, rfl⟩

theorem makesNone_onText (a : Ambient) (change : Node → Context → String → Json) : MakesNone (.onText a change) where
  exchange node _ _ := by
    simp only [Block.onText]
    split <;> simp
  hears node _ _ _ _ := by
    simp only [Block.onText]
    split <;> exact ⟨rfl, rfl⟩

theorem exchange_answer (s : Session) (status : Nat) (envelope : Json) :
    (s.answer status envelope).2.exchange = s.exchange := by
  simp only [Session.answer, Session.send]
  split <;> rfl

theorem answer_hears (s : Session) (x : Http.Exchange) (status : Nat) (envelope : Json) :
    (({ s with exchange := x } : Session).answer status envelope).1 = (s.answer status envelope).1 ∧
      (({ s with exchange := x } : Session).answer status envelope).2.context = (s.answer status envelope).2.context := by
  simp only [Session.answer, Session.send]
  split <;> exact ⟨rfl, rfl⟩

theorem makesNone_respond (a : Ambient) : MakesNone (.respond a) :=
  ⟨fun _ _ _ => exchange_answer .., fun _ _ _ _ _ => answer_hears ..⟩

theorem makesNone_sendError (a : Ambient) : MakesNone (.sendError a) :=
  ⟨fun _ _ _ => exchange_answer .., fun _ _ _ _ _ => answer_hears ..⟩

theorem exists_of_fst_eq {α β : Type} {p q : α × β} (h : p.1 = q.1) : ∃ a y z, p = (a, y) ∧ q = (a, z) :=
  ⟨q.1, p.2, q.2, Prod.ext h rfl, rfl⟩

theorem Service.exchange_call (a : Ambient) (x : Http.Exchange) (source : String) (environment : Environment)
    (variableName address : String) (payload : Json) (refused : Service.Reply → ServiceError) :
    (Service.call a x source environment variableName address payload refused).2 =
      afterAttempt (Service.attempt? environment variableName address payload) x := by
  unfold Service.call Service.attempt?
  cases environment.key? variableName with
  | none => rfl
  | some key =>
    simp only [Service.post, Option.map_some, afterAttempt, Attempt.make]
    rcases x.request "POST" address _ (some payload.compact) _ with ⟨answer | answer, y⟩ <;> rfl

theorem Service.call_hears {x y : Http.Exchange} (h : ∀ a : Attempt, (a.make y).1 = (a.make x).1) (a : Ambient)
    (source : String) (environment : Environment) (variableName address : String) (payload : Json)
    (refused : Service.Reply → ServiceError) :
    (Service.call a y source environment variableName address payload refused).1 =
      (Service.call a x source environment variableName address payload refused).1 := by
  unfold Service.call
  cases environment.key? variableName with
  | none => rfl
  | some key =>
    obtain ⟨answer, x', y', hx, hy⟩ := exists_of_fst_eq (h ⟨"POST", address,
      [("authorization", "Bearer " ++ key), ("content-type", "application/json")], some payload.compact, fun _ => true⟩)
    simp only [Attempt.make] at hx hy
    simp only [Service.post, hx, hy]
    cases answer <;> rfl

theorem makes_generateText (v : Services) : Makes (.generateText v) (GenerateText.attempt? v) where
  exchange node _ s := by
    simp only [Block.generateText, GenerateText.attempt?]
    split
    · rfl
    · rw [← Service.exchange_call v.ambient _ GenerateText.source _ _ _ _ GenerateText.refusal]
      split <;> rename_i hcall <;> rw [hcall]
  hears node _ s x h := by
    simp only [Block.generateText]
    split
    · exact ⟨rfl, rfl⟩
    · obtain ⟨answer, y, z, hy, hz⟩ := exists_of_fst_eq (Service.call_hears h v.ambient GenerateText.source
        v.environment v.openai.keyVariable (Service.trimSlashes v.openai.baseUrl ++ "/responses")
        (GenerateText.payload ((node.nonEmpty? "model").getD v.openai.model)
          (Template.fill v.ambient s.context (node.text "prompt")) (GenerateText.temperature node))
        GenerateText.refusal)
      rw [hy, hz]
      cases answer <;> exact ⟨rfl, rfl⟩

theorem makes_sendEmail (v : Services) : Makes (.sendEmail v) (SendEmail.attempt? v) where
  exchange node _ s := by
    simp only [Block.sendEmail, SendEmail.attempt?]
    cases (SendEmail.Email.ofNode v.ambient node s.context).isComplete
    · rfl
    · simp only [Bool.not_true, Bool.false_eq_true, if_false, if_true]
      rw [← Service.exchange_call v.ambient _ SendEmail.source _ _ _ _ SendEmail.refusal]
      split <;> rename_i hcall <;> rw [hcall]
  hears node _ s x h := by
    simp only [Block.sendEmail]
    split
    · exact ⟨rfl, rfl⟩
    · obtain ⟨answer, y, z, hy, hz⟩ := exists_of_fst_eq (Service.call_hears h v.ambient SendEmail.source
        v.environment v.resend.keyVariable (Service.trimSlashes v.resend.baseUrl ++ "/emails")
        (SendEmail.Email.ofNode v.ambient node s.context).payload SendEmail.refusal)
      rw [hy, hz]
      cases answer <;> exact ⟨rfl, rfl⟩

theorem makes_manipulateImage (a : Ambient) : Makes (.manipulateImage a) (ManipulateImage.attempt? a) where
  exchange node _ s := by
    simp only [Block.manipulateImage, ManipulateImage.attempt?]
    split
    · rfl
    · simp only [ManipulateImage.process, afterAttempt, Attempt.make]
      rcases s.exchange.request "GET" _ [] none _ with ⟨e | answer, x⟩
      · rfl
      · simp only
        generalize ManipulateImage.filtered _ _ _ answer = image
        cases image <;> rfl
  hears node _ s x h := by
    simp only [Block.manipulateImage]
    split
    · exact ⟨rfl, rfl⟩
    · obtain ⟨answer, y, z, hy, hz⟩ := exists_of_fst_eq
        (h ⟨"GET", Text.trim (Template.fill a s.context (node.text "imageUrl")), [], none, Http.isSuccess⟩)
      simp only [Attempt.make] at hy hz
      simp only [ManipulateImage.process, hy, hz]
      rcases answer with e | answer
      · exact ⟨rfl, rfl⟩
      · simp only
        generalize ManipulateImage.filtered _ _ _ answer = image
        cases image <;> exact ⟨rfl, rfl⟩

theorem makes_request (a : Ambient) : Makes (.request a) (OutboundRequest.attempt? a) where
  exchange node _ s := by
    simp only [Block.request, OutboundRequest.attempt?]
    cases node.nonEmpty? "url" with
    | none => rfl
    | some template =>
      simp only [Option.bind_some]
      cases Http.isToken (Text.upper ((node.nonEmpty? "method").getD "GET"))
      · rfl
      · simp only [Bool.not_true, Bool.false_eq_true, if_false, if_true, afterAttempt, Attempt.make]
        generalize s.exchange.request _ _ _ _ _ = reply
        rcases reply with ⟨e | answer, x⟩
        · rfl
        · simp only
          split <;> rfl
  hears node _ s x h := by
    simp only [Block.request]
    cases node.nonEmpty? "url" with
    | none => exact ⟨rfl, rfl⟩
    | some template =>
      simp only
      split
      · exact ⟨rfl, rfl⟩
      · generalize Text.upper ((node.nonEmpty? "method").getD "GET") = method
        generalize hbody : OutboundRequest.bodyFor? a node s.context method = body
        obtain ⟨answer, y, z, hy, hz⟩ := exists_of_fst_eq (h ⟨method, Template.fill a s.context template,
          OutboundRequest.headersFor a node s.context body.isSome, body.map Json.compact, fun _ => true⟩)
        simp only [Attempt.make] at hy hz
        rw [hy, hz]
        rcases answer with e | answer
        · exact ⟨rfl, rfl⟩
        · simp only [true_and]
          split <;> rfl

/-! ### One visit -/

namespace Walk

variable {v : Services} {node : Node} {block : Block} {request : Request} {c : Context}

/-- The kinds of nodes that make requests. -/
def outboundKinds : List String := ["request", "generateText", "sendEmail", "manipulateImage"]

theorem attempt?_of_not_mem (h : node.kind ∉ outboundKinds) (v : Services) (c : Context) : attempt? v node c = none := by
  simp only [outboundKinds, List.mem_cons, List.not_mem_nil, or_false, not_or] at h
  rw [attempt?, if_neg h.1, if_neg h.2.1, if_neg h.2.2.1, if_neg h.2.2.2]

theorem makes_of_standard (h : (Registry.standard v).get? node.kind = some block) :
    ∃ attempts, Makes block attempts ∧ ∀ c, attempts node c = attempt? v node c := by
  have hnone : ∀ kind, node.kind = kind → kind ∉ outboundKinds → ∀ c, none = attempt? v node c :=
    fun kind hk hkind c => (attempt?_of_not_mem (hk ▸ hkind) v c).symm
  rcases standard_cases h with ⟨hk, rfl⟩ | ⟨hk, rfl⟩ | ⟨hk, rfl⟩ | ⟨hk, rfl⟩ | ⟨hk, rfl⟩ | ⟨hk, rfl⟩ | ⟨hk, rfl⟩ |
    ⟨hk, rfl⟩ | ⟨hk, rfl⟩ | ⟨hk, rfl⟩ | ⟨hk, rfl⟩ | ⟨hk, rfl⟩ | ⟨hk, rfl⟩ | ⟨hk, rfl⟩
  · exact ⟨_, makesNone_condition _, hnone _ hk (by decide)⟩
  · exact ⟨_, makesNone_onText _ _, hnone _ hk (by decide)⟩
  · exact ⟨_, makesNone_onText _ _, hnone _ hk (by decide)⟩
  · exact ⟨_, makesNone_sendError _, hnone _ hk (by decide)⟩
  · exact ⟨_, makes_generateText v, fun c => by simp [attempt?, hk]⟩
  · exact ⟨_, makes_manipulateImage _, fun c => by simp [attempt?, hk]⟩
  · exact ⟨_, makesNone_onText _ _, hnone _ hk (by decide)⟩
  · exact ⟨_, makes_request _, fun c => by simp [attempt?, hk]⟩
  · exact ⟨_, makesNone_respond _, hnone _ hk (by decide)⟩
  · exact ⟨_, makes_sendEmail v, fun c => by simp [attempt?, hk]⟩
  · exact ⟨_, makesNone_sendError _, hnone _ hk (by decide)⟩
  · exact ⟨_, makesNone_respond _, hnone _ hk (by decide)⟩
  · exact ⟨_, makesNone_setVar _, hnone _ hk (by decide)⟩
  · exact ⟨_, makesNone_start, hnone _ hk (by decide)⟩

theorem not_mem_of_get?_eq_none (h : (Registry.standard v).get? node.kind = none) : node.kind ∉ outboundKinds := by
  intro hk
  simp only [outboundKinds, List.mem_cons, List.not_mem_nil, or_false] at hk
  rcases hk with hk | hk | hk | hk <;> simp [hk, Registry.standard, Fields.get?] at h

theorem exchange_indexed (node : Node) (outcome : Outcome) (s : Session) :
    (indexed node outcome s).exchange = s.exchange := by
  unfold indexed
  split
  · split <;> rfl
  · rfl

theorem context_indexed {node : Node} {outcome : Outcome} {s t : Session} (h : s.context = t.context) :
    (indexed node outcome s).context = (indexed node outcome t).context := by
  unfold indexed
  split
  · split
    · exact congrArg (Context.indexResult · node _) h
    · exact h
  · exact h

theorem exchange_visit (v : Services) (request : Request) (node : Node) (s : Session) :
    (visit (.standard v) request node s).2.exchange = afterAttempt (attempt? v node s.context) s.exchange := by
  cases hb : (Registry.standard v).get? node.kind with
  | none => rw [visit_of_none hb, attempt?_of_not_mem (not_mem_of_get?_eq_none hb), afterAttempt]
  | some block =>
    obtain ⟨attempts, hmakes, hattempts⟩ := makes_of_standard hb
    rw [visit_of_some hb, exchange_indexed, hmakes.exchange, hattempts]

/-- A visit learns nothing of the exchange but the answer to its request. -/
theorem visit_hears (v : Services) (request : Request) (node : Node) (s : Session) (x : Http.Exchange)
    (h : ∀ a : Attempt, (a.make x).1 = (a.make s.exchange).1) :
    (visit (.standard v) request node { s with exchange := x }).1 = (visit (.standard v) request node s).1 ∧
      (visit (.standard v) request node { s with exchange := x }).2.context =
        (visit (.standard v) request node s).2.context := by
  cases hb : (Registry.standard v).get? node.kind with
  | none =>
    rw [visit_of_none hb, visit_of_none hb]
    exact ⟨rfl, rfl⟩
  | some block =>
    obtain ⟨attempts, hmakes, -⟩ := makes_of_standard hb
    obtain ⟨houtcome, hcontext⟩ := hmakes.hears node request s x h
    rw [visit_of_some hb, visit_of_some hb, houtcome]
    exact ⟨rfl, context_indexed hcontext⟩

end Walk

end FlowTree

import Mathlib.Data.List.Forall2
import FlowTree.Proofs.Run.Failures
import FlowTree.Proofs.Run.Outbound
import FlowTree.Proofs.Run.Response

/-! # Keys stay secret

Two runs side by side, in environments that differ in the values of keys. A key goes into one header of the
requests to its service and nowhere else. That it can be sent at all is the only thing a run learns of it, so
the runs stay alike: they do the same at every node, and their requests differ in that header alone. -/

namespace FlowTree

namespace Http.Exchange

/-! ### Exchanges side by side -/

/-- The exchanges differ in nothing but what was sent. -/
def Agrees (x x' : Exchange) : Prop :=
  x' = { x with sent := x'.sent }

/-- Going on from two exchanges gives the same and keeps them in agreement. What is sent is related one by
    one. -/
structure Alike {α : Type} (R : Call → Call → Prop) (x x' : Exchange) (p p' : α × Exchange) : Prop where
  result : p'.1 = p.1
  agrees : Agrees p.2 p'.2
  sent : ∃ new new', p.2.sent = x.sent ++ new ∧ p'.2.sent = x'.sent ++ new' ∧ List.Forall₂ R new new'

variable {α β : Type} {R S : Call → Call → Prop} {x x' : Exchange} {c c' : Call} {p p' : α × Exchange}

theorem Alike.idle (h : Agrees x x') (a : α) : Alike R x x' (a, x) (a, x') :=
  ⟨rfl, h, [], [], (List.append_nil _).symm, (List.append_nil _).symm, .nil⟩

theorem Alike.map (h : Alike R x x' p p') (f : α → β) : Alike R x x' (f p.1, p.2) (f p'.1, p'.2) :=
  ⟨congrArg f h.result, h.agrees, h.sent⟩

theorem Alike.imp (h : Alike R x x' p p') (hRS : ∀ c c', R c c' → S c c') : Alike S x x' p p' := by
  obtain ⟨new, new', hnew, hnew', hrelated⟩ := h.sent
  exact ⟨h.result, h.agrees, new, new', hnew, hnew', hrelated.imp hRS⟩

/-- What comes back from two exchanges is one result, with an exchange for each. -/
theorem Alike.exists_eq (h : Alike R x x' p p') :
    ∃ result y y', p = (result, y) ∧ p' = (result, y') ∧ Alike R x x' (result, y) (result, y') := by
  obtain ⟨result, y⟩ := p
  obtain ⟨result', y'⟩ := p'
  obtain rfl : result' = result := h.result
  exact ⟨result', y, y', rfl, rfl, h⟩

/-- What follows on the same result is one way with what went before. -/
theorem Alike.trans {a : α} {y y' : Exchange} {q q' : β × Exchange} (h : Alike R x x' (a, y) (a, y'))
    (hlater : Alike R y y' q q') : Alike R x x' q q' := by
  obtain ⟨new, new', hnew, hnew', hrelated⟩ := h.sent
  obtain ⟨more, more', hmore, hmore', hrelated'⟩ := hlater.sent
  refine ⟨hlater.result, hlater.agrees, new ++ more, new' ++ more', ?_, ?_, List.rel_append hrelated hrelated'⟩
  · rw [hmore, hnew, List.append_assoc]
  · rw [hmore', hnew', List.append_assoc]

theorem wait_alike (h : Agrees x x') (late lost : TransportError) :
    Alike R x x' (x.wait late lost : Except TransportError α × Exchange) (x'.wait late lost) := by
  obtain ⟨peer, sent, patience, remaining, expired⟩ := x
  obtain ⟨peer', sent', patience', remaining', expired'⟩ := x'
  have hagrees := h
  simp only [Agrees, Exchange.mk.injEq, true_and] at h
  obtain ⟨rfl, rfl, rfl, rfl⟩ := h
  unfold wait
  cases remaining' with
  | none => exact .idle hagrees _
  | some left =>
    simp only
    split
    · exact ⟨rfl, rfl, [], [], (List.append_nil _).symm, (List.append_nil _).symm, .nil⟩
    · exact ⟨rfl, rfl, [], [], (List.append_nil _).symm, (List.append_nil _).symm, .nil⟩

theorem receive_alike (h : Agrees x x') (wanted : Nat → Bool) (arrival : Except TransportError Arrival) :
    Alike R x x' (x.receive wanted arrival) (x'.receive wanted arrival) := by
  rcases receive_cases wanted arrival with ⟨result, hreceive⟩ | ⟨reason, f, hreceive⟩
  · rw [hreceive, hreceive]
    exact .idle h result
  · rw [hreceive, hreceive]
    exact (wait_alike h (.stalled reason) (.broken reason)).map (Except.map f)

/-- Requests with the same method and address get the same answer. -/
theorem send_alike (h : Agrees x x') (hmethod : c'.method = c.method) (hurl : c'.url = c.url) (hc : R c c') :
    Alike R x x' (x.send c) (x'.send c') := by
  obtain ⟨peer, sent, patience, remaining, expired⟩ := x
  obtain ⟨peer', sent', patience', remaining', expired'⟩ := x'
  simp only [Agrees, Exchange.mk.injEq, true_and] at h
  obtain ⟨rfl, rfl, rfl, rfl⟩ := h
  have hone : List.Forall₂ R [c] [c'] := .cons hc .nil
  simp only [send, hmethod, hurl]
  by_cases hover : expired' = true ∨ remaining' = some 0
  · rw [if_pos hover, if_pos hover]
    exact ⟨rfl, rfl, [], [], by simp, by simp, .nil⟩
  · rw [if_neg hover, if_neg hover]
    rcases peer' with _ | (_ | ⟨reply, replies⟩)
    · exact ⟨rfl, rfl, [], [], by simp, by simp, .nil⟩
    · exact ⟨rfl, rfl, _, _, rfl, rfl, hone⟩
    · cases reply with
      | answer status contentType body => exact ⟨rfl, rfl, _, _, rfl, rfl, hone⟩
      | dropped => exact ⟨rfl, rfl, _, _, rfl, rfl, hone⟩
      | silent =>
        have hsent : Alike R ⟨.scripted (.silent :: replies), sent, patience', remaining', expired'⟩
            ⟨.scripted (.silent :: replies), sent', patience', remaining', expired'⟩
            ((), ⟨.scripted replies, sent ++ [c], patience', remaining', expired'⟩)
            ((), ⟨.scripted replies, sent' ++ [c'], patience', remaining', expired'⟩) :=
          ⟨rfl, rfl, [c], [c'], rfl, rfl, hone⟩
        exact hsent.trans (wait_alike hsent.agrees (.timedOut c.url) (.lost c.url))

theorem ask_alike (h : Agrees x x') (hmethod : c'.method = c.method) (hurl : c'.url = c.url) (hc : R c c')
    (wanted : Nat → Bool) : Alike R x x' (x.ask wanted c) (x'.ask wanted c') := by
  obtain ⟨arrival, y, y', hp, hp', hsend⟩ := (send_alike h hmethod hurl hc).exists_eq
  simp only [ask, hp, hp']
  exact hsend.trans (receive_alike hsend.agrees wanted arrival)

theorem request_alike (h : Agrees x x') (method address : String) (headers : List (String × String))
    (body : Option String) (wanted : Nat → Bool) :
    Alike Eq x x' (x.request method address headers body wanted) (x'.request method address headers body wanted) := by
  unfold request
  cases Call.build method address headers body with
  | error e => exact .idle h _
  | ok call => exact ask_alike h rfl rfl rfl wanted

end Http.Exchange

open Http Exchange

/-! ### Keys -/

/-- The variables that hold keys, and the addresses that the keys are for. -/
def Services.keyed (v : Services) : List (String × String) :=
  [(v.openai.keyVariable, Service.trimSlashes v.openai.baseUrl ++ "/responses"),
    (v.resend.keyVariable, Service.trimSlashes v.resend.baseUrl ++ "/emails")]

def IsKey (value : String) : Prop :=
  Text.isBlankText value = false ∧ isHeaderValue value = true

instance (value : String) : Decidable (IsKey value) :=
  inferInstanceAs (Decidable (_ ∧ _))

/-- The environment `e'` differs from that of the services in nothing but the values of key variables, which
    are keys in both. -/
def DifferInKeys (v : Services) (e' : Environment) : Prop :=
  ∀ name, Fields.get? e' name = Fields.get? v.environment name ∨
    (name = v.openai.keyVariable ∨ name = v.resend.keyVariable) ∧
      ∃ key key', Fields.get? v.environment name = some key ∧ Fields.get? e' name = some key' ∧
        IsKey key ∧ IsKey key'

/-- The requests are the same, or they go to the address of a service and differ in nothing but the value of one
    authorization header, which is the key of the service in each environment. -/
inductive SameButKey (v : Services) (e' : Environment) : Http.Call → Http.Call → Prop
  | same {call} : SameButKey v e' call call
  | key {variableName address key key' parsed url before after body}
      (hservice : (variableName, address) ∈ v.keyed) (hkey : v.environment.key? variableName = some key)
      (hkey' : e'.key? variableName = some key') (hparsed : Url.parse? address = some parsed)
      (hurl : url = parsed ∨ url = { parsed with userInfo := none }) :
      SameButKey v e' ⟨"POST", url, before ++ ("authorization", "Bearer " ++ key) :: after, body⟩
        ⟨"POST", url, before ++ ("authorization", "Bearer " ++ key') :: after, body⟩

variable {v : Services} {e' : Environment} {x x' : Exchange}

theorem key?_of_isKey {e : Environment} {name key : String} (hname : name.isEmpty = false)
    (hget : Fields.get? e name = some key) (hkey : IsKey key) : e.key? name = some key := by
  simp [Environment.key?, hname, hget, Option.filter, hkey.1]

/-- A variable gives the same key in both environments, or a key that can be sent in each. -/
theorem DifferInKeys.key?_cases (h : DifferInKeys v e') (name : String) :
    e'.key? name = v.environment.key? name ∨
    ∃ key key', v.environment.key? name = some key ∧ e'.key? name = some key' ∧ isHeaderValue key = true ∧
      isHeaderValue key' = true := by
  rcases h name with hsame | ⟨-, key, key', hget, hget', hkey, hkey'⟩
  · exact Or.inl (by simp only [Environment.key?, hsame])
  · cases hname : name.isEmpty with
    | true => exact Or.inl (by simp [Environment.key?, hname])
    | false =>
      exact Or.inr ⟨key, key', key?_of_isKey hname hget hkey, key?_of_isKey hname hget' hkey', hkey.2, hkey'.2⟩

namespace Service

def keyHeaders (key : String) : List (String × String) :=
  [("authorization", "Bearer " ++ key), ("content-type", "application/json")]

theorem isHeaderValue_bearer {key : String} (h : isHeaderValue key = true) :
    isHeaderValue ("Bearer " ++ key) = true := by
  have hbearer : isHeaderValue "Bearer " = true := by decide
  simp only [isHeaderValue, String.toList_append, List.all_append] at h hbearer ⊢
  rw [h, hbearer, Bool.and_self]

/-- Of a key that can be sent nothing matters to a request but what stands in its header. -/
theorem build_cases (address : String) (body : Option String) :
    (∃ e, ∀ key, isHeaderValue key = true → Http.Call.build "POST" address (keyHeaders key) body = .error e) ∨
    ∃ parsed url before after, Url.parse? address = some parsed ∧
      (url = parsed ∨ url = { parsed with userInfo := none }) ∧
      ∀ key, isHeaderValue key = true → Http.Call.build "POST" address (keyHeaders key) body =
        .ok ⟨"POST", url, before ++ ("authorization", "Bearer " ++ key) :: after, body⟩ := by
  have hnames : isToken "authorization" = true ∧ isToken "content-type" = true := by decide
  have htype : isHeaderValue "application/json" = true := by decide
  cases hparse : Url.parse? address with
  | none => exact Or.inl ⟨_, fun key _ => by rw [Http.Call.build, hparse]⟩
  | some parsed =>
    cases hhost : parsed.hasHost with
    | false => exact Or.inl ⟨.unsuitable parsed, fun key _ => by simp [Http.Call.build, hparse, hhost]⟩
    | true =>
      -- The credentials of an address move into a header of their own, in front of that of the key.
      generalize hurl : (if (credentials? parsed).isSome then { parsed with userInfo := none } else parsed) = url
      cases hsend : isSendable url with
      | false =>
        refine Or.inl ⟨.unsuitable url, fun key hkey => ?_⟩
        have hbearer := isHeaderValue_bearer hkey
        simp [Http.Call.build, hparse, hhost, hurl, hsend, keyHeaders, hnames, htype, hbearer]
      | true =>
        refine Or.inr ⟨parsed, url, ((credentials? parsed).map fun c => basicAuth c.1 c.2).toList,
          [("content-type", "application/json")], rfl, ?_, fun key hkey => ?_⟩
        · split at hurl
          · exact Or.inr hurl.symm
          · exact Or.inl hurl.symm
        · have hbearer := isHeaderValue_bearer hkey
          simp [Http.Call.build, hparse, hhost, hurl, hsend, keyHeaders, hnames, htype, hbearer]

/-- The request by which JSON is posted. -/
abbrev posted (x : Exchange) (address key : String) (payload : Json) : Except TransportError Answer × Exchange :=
  x.request "POST" address (keyHeaders key) (some payload.compact) fun _ => true

theorem post_eq (a : Ambient) (x : Exchange) (address key : String) (payload : Json) : post a x address key payload =
    ((posted x address key payload).1.map (replyOf a), (posted x address key payload).2) := rfl

theorem post_alike (a : Ambient) (hx : Agrees x x') {variableName address : String}
    (hservice : (variableName, address) ∈ v.keyed) {key key' : String}
    (hkey : v.environment.key? variableName = some key) (hkey' : e'.key? variableName = some key')
    (hvalid : isHeaderValue key = true) (hvalid' : isHeaderValue key' = true) (payload : Json) :
    Alike (SameButKey v e') x x' (post a x address key payload) (post a x' address key' payload) := by
  have hrequest : Alike (SameButKey v e') x x' (posted x address key payload) (posted x' address key' payload) := by
    unfold posted request
    rcases build_cases address (some payload.compact) with ⟨e, hbuild⟩ |
      ⟨parsed, url, before, after, hparsed, hurl, hbuild⟩
    · rw [hbuild key hvalid, hbuild key' hvalid']
      exact .idle hx _
    · rw [hbuild key hvalid, hbuild key' hvalid']
      refine ask_alike hx ?_ ?_ (SameButKey.key hservice hkey hkey' hparsed hurl) fun _ => true
      · rfl
      · rfl
  rw [post_eq, post_eq]
  exact hrequest.map (Except.map (replyOf a))

def conclude (source : String) (refused : Reply → ServiceError) :
    Except TransportError Reply → Except ServiceError Json
  | .error e => .error (noAnswer source e)
  | .ok reply => if reply.ok then .ok reply.body else .error (refused reply)

theorem call_of_key {e : Environment} {variableName key : String} (hkey : e.key? variableName = some key)
    (a : Ambient) (x : Exchange) (source address : String) (payload : Json) (refused : Reply → ServiceError) :
    call a x source e variableName address payload refused =
      (conclude source refused (post a x address key payload).1, (post a x address key payload).2) := by
  rw [call, hkey]
  dsimp only
  rcases post a x address key payload with ⟨error | reply, z⟩ <;> rfl

theorem call_alike (h : DifferInKeys v e') (hx : Agrees x x') (a : Ambient) (source : String)
    {variableName address : String} (hservice : (variableName, address) ∈ v.keyed) (payload : Json)
    (refused : Reply → ServiceError) :
    Alike (SameButKey v e') x x' (call a x source v.environment variableName address payload refused)
      (call a x' source e' variableName address payload refused) := by
  rcases h.key?_cases variableName with hsame | ⟨key, key', hkey, hkey', hvalid, hvalid'⟩
  -- One key for both, which need not be one that can be sent: then neither request is.
  · cases hkey : v.environment.key? variableName with
    | none =>
      rw [call, call, hsame, hkey]
      exact .idle hx _
    | some key =>
      have hpost : Alike Eq x x' (post a x address key payload) (post a x' address key payload) := by
        rw [post_eq, post_eq]
        exact (request_alike hx "POST" address (keyHeaders key) _ _).map (Except.map (replyOf a))
      rw [call_of_key hkey, call_of_key (hsame.trans hkey)]
      exact (hpost.map _).imp fun c c' hc => hc ▸ .same
  · rw [call_of_key hkey, call_of_key hkey']
    exact (post_alike a hx hservice hkey hkey' hvalid hvalid' payload).map _

end Service

/-! ### One visit -/

theorem Fields.get?_replace {α : Type} {name other : String} (h : name ≠ other) (before after : Fields α) (a b : α) :
    get? (before ++ (name, a) :: after) other = get? (before ++ (name, b) :: after) other := by
  induction before with
  | nil => simp [get?, h]
  | cons field before ih =>
    obtain ⟨k, c⟩ := field
    simp only [List.cons_append, get?, ih]

def Services.withEnvironment (v : Services) (e : Environment) : Services :=
  { v with environment := e }

namespace Walk

/-- The sessions differ in nothing but the keys in what was sent. -/
structure Twin (v : Services) (e' : Environment) (s s' : Session) : Prop where
  context : s'.context = s.context
  response : s'.response = s.response
  agrees : Agrees s.exchange s'.exchange
  sent : List.Forall₂ (SameButKey v e') s.exchange.sent s'.exchange.sent

/-- A node does the same in two sessions, and what it sends is related one by one. -/
structure DoesAlike (R : Http.Call → Http.Call → Prop) (s s' : Session) (p p' : Outcome × Session) : Prop where
  context : p'.2.context = p.2.context
  response : p'.2.response = p.2.response
  exchange : Alike R s.exchange s'.exchange (p.1, p.2.exchange) (p'.1, p'.2.exchange)

variable {request : Request} {node : Node} {s s' : Session}

theorem DoesAlike.idle {R : Http.Call → Http.Call → Prop} (h : Twin v e' s s') :
    DoesAlike R s s' (.none, s) (.none, s') :=
  ⟨h.context, h.response, .idle h.agrees _⟩

theorem generateText_alike (h : DifferInKeys v e') (ht : Twin v e' s s') (node : Node) (request : Request) :
    DoesAlike (SameButKey v e') s s' ((Block.generateText v).run node request s)
      ((Block.generateText (v.withEnvironment e')).run node request s') := by
  simp only [Block.generateText, Services.withEnvironment, ht.context]
  split
  · exact .idle ht
  · have hcall := Service.call_alike h ht.agrees v.ambient GenerateText.source
      (show (v.openai.keyVariable, Service.trimSlashes v.openai.baseUrl ++ "/responses") ∈ v.keyed from
        List.mem_cons_self)
      (GenerateText.payload ((node.nonEmpty? "model").getD v.openai.model)
        (Template.fill v.ambient s.context (node.text "prompt")) (GenerateText.temperature node)) GenerateText.refusal
    obtain ⟨result, y, y', hp, hp', hresult⟩ := hcall.exists_eq
    rw [hp, hp']
    cases result with
    | error e => exact ⟨rfl, ht.response, rfl, hresult.agrees, hresult.sent⟩
    | ok body => exact ⟨rfl, ht.response, rfl, hresult.agrees, hresult.sent⟩

theorem sendEmail_alike (h : DifferInKeys v e') (ht : Twin v e' s s') (node : Node) (request : Request) :
    DoesAlike (SameButKey v e') s s' ((Block.sendEmail v).run node request s)
      ((Block.sendEmail (v.withEnvironment e')).run node request s') := by
  simp only [Block.sendEmail, Services.withEnvironment, ht.context]
  split
  · exact .idle ht
  · have hcall := Service.call_alike h ht.agrees v.ambient SendEmail.source
      (show (v.resend.keyVariable, Service.trimSlashes v.resend.baseUrl ++ "/emails") ∈ v.keyed from
        List.mem_cons_of_mem _ List.mem_cons_self)
      (SendEmail.Email.ofNode v.ambient node s.context).payload SendEmail.refusal
    obtain ⟨result, y, y', hp, hp', hresult⟩ := hcall.exists_eq
    rw [hp, hp']
    cases result with
    | error e => exact ⟨rfl, ht.response, rfl, hresult.agrees, hresult.sent⟩
    | ok body => exact ⟨rfl, ht.response, rfl, hresult.agrees, hresult.sent⟩

/-- The kinds of nodes that use keys. -/
def keyedKinds : List String := ["generateText", "sendEmail"]

/-- Other nodes have the same blocks in every environment. -/
theorem visit_withEnvironment (hk : node.kind ∉ keyedKinds) (v : Services) (e' : Environment) (request : Request)
    (s : Session) : visit (.standard (v.withEnvironment e')) request node s = visit (.standard v) request node s := by
  simp only [keyedKinds, List.mem_cons, List.not_mem_nil, or_false, not_or] at hk
  have hget : (Registry.standard (v.withEnvironment e')).get? node.kind = (Registry.standard v).get? node.kind := by
    have hgenerate : "generateText" ≠ node.kind := fun h => hk.1 h.symm
    have hsend : "sendEmail" ≠ node.kind := fun h => hk.2 h.symm
    calc (Registry.standard (v.withEnvironment e')).get? node.kind
        = _ := Fields.get?_replace hgenerate ((Registry.standard v).take 4)
          ((Registry.standard (v.withEnvironment e')).drop 5) _ (.generateText v)
      _ = (Registry.standard v).get? node.kind := Fields.get?_replace hsend ((Registry.standard v).take 9)
          ((Registry.standard v).drop 10) _ (.sendEmail v)
  simp only [visit, hget]

/-- Of two exchanges in agreement nothing but the answer is learned, which is the same. -/
theorem other_alike (hk : node.kind ∉ keyedKinds) (ht : Twin v e' s s') (request : Request) :
    DoesAlike Eq s s' (visit (.standard v) request node s)
      (visit (.standard (v.withEnvironment e')) request node s') := by
  have hanswer : ∀ a : Attempt, Alike Eq s.exchange s'.exchange (a.make s.exchange) (a.make s'.exchange) := fun a =>
    request_alike ht.agrees a.method a.address a.headers a.body a.wanted
  have hs' : s' = { s with exchange := s'.exchange } := by
    obtain ⟨c, response, x⟩ := s
    obtain ⟨c', response', x'⟩ := s'
    obtain rfl : c' = c := ht.context
    obtain rfl : response' = response := ht.response
    rfl
  obtain ⟨houtcome, hcontext⟩ := visit_hears v request node s s'.exchange fun a => (hanswer a).result
  have hanswered : ∀ s, Answered v.ambient (visitOf (.standard v) request [] node s) := answered_visitOf [] node
  have hresponse := (hanswered s).response
  have hresponse' := (hanswered s').response
  rw [visit_withEnvironment hk]
  rw [← hs'] at houtcome hcontext
  refine ⟨hcontext, ?_, ?_⟩
  · simp only [visitOf, responseOf, ht.context, ht.response] at hresponse hresponse'
    exact hresponse'.trans hresponse.symm
  · -- Which request is made depends on the context alone, and that is the same.
    rw [exchange_visit, exchange_visit, ht.context, houtcome]
    cases attempt? v node s.context with
    | none => exact .idle ht.agrees _
    | some a => exact (hanswer a).map fun _ => (visit (.standard v) request node s).1

/-- Two visits of a node that do the same. They differ in nothing but the keys in what they send. -/
structure SameVisit (v : Services) (e' : Environment) (u u' : Visit) : Prop where
  place : u'.place = u.place
  node : u'.node = u.node
  outcome : u'.outcome = u.outcome
  before : u'.before.context = u.before.context ∧ u'.before.response = u.before.response
  after : u'.after.context = u.after.context ∧ u'.after.response = u.after.response
  calls : List.Forall₂ (SameButKey v e') (calls u) (calls u')
  others : u.node.kind ∉ keyedKinds → Walk.calls u' = Walk.calls u

theorem DoesAlike.twin {R : Http.Call → Http.Call → Prop} {p p' : Outcome × Session} (h : DoesAlike R s s' p p')
    (ht : Twin v e' s s') (hR : ∀ c c', R c c' → SameButKey v e' c c') : Twin v e' p.2 p'.2 := by
  obtain ⟨new, new', hnew, hnew', hrelated⟩ := h.exchange.sent
  refine ⟨h.context, h.response, h.exchange.agrees, ?_⟩
  rw [hnew, hnew']
  exact List.rel_append ht.sent (hrelated.imp hR)

theorem DoesAlike.sameVisit {R : Http.Call → Http.Call → Prop} {r r' : Registry} {place : Place}
    (h : DoesAlike R s s' (visit r request node s) (visit r' request node s')) (ht : Twin v e' s s')
    (hR : ∀ c c', R c c' → SameButKey v e' c c') (hother : node.kind ∉ keyedKinds → R = Eq) :
    SameVisit v e' (visitOf r request place node s) (visitOf r' request place node s') := by
  obtain ⟨new, new', hnew, hnew', hrelated⟩ := h.exchange.sent
  have hcalls : calls (visitOf r request place node s) = new := by
    simp only [calls, visitOf]
    rw [hnew, List.drop_left]
  have hcalls' : calls (visitOf r' request place node s') = new' := by
    simp only [calls, visitOf]
    rw [hnew', List.drop_left]
  have houtcome : (visit r' request node s').1 = (visit r request node s).1 := h.exchange.result
  constructor
  case place => rfl
  case node => rfl
  case outcome => exact houtcome
  case before => exact ⟨ht.context, ht.response⟩
  case after => exact ⟨h.context, h.response⟩
  case calls =>
    rw [hcalls, hcalls']
    exact hrelated.imp hR
  case others =>
    intro hk
    obtain rfl := hother hk
    rw [hcalls, hcalls']
    exact (List.forall₂_eq_eq_eq ▸ hrelated : new = new').symm

theorem visitOf_alike (h : DifferInKeys v e') (ht : Twin v e' s s') (request : Request) (place : Place)
    (node : Node) :
    SameVisit v e' (visitOf (.standard v) request place node s)
      (visitOf (.standard (v.withEnvironment e')) request place node s') ∧
    Twin v e' (visit (.standard v) request node s).2
      (visit (.standard (v.withEnvironment e')) request node s').2 := by
  by_cases hk : node.kind ∈ keyedKinds
  · have halike : DoesAlike (SameButKey v e') s s' (visit (.standard v) request node s)
        (visit (.standard (v.withEnvironment e')) request node s') := by
      rcases List.mem_cons.mp hk with hk | hk
      · rw [visit_generateText hk, visit_generateText hk]
        exact generateText_alike h ht node request
      · rw [visit_sendEmail (List.mem_singleton.mp hk), visit_sendEmail (List.mem_singleton.mp hk)]
        exact sendEmail_alike h ht node request
    have hkeys : ∀ c c', SameButKey v e' c c' → SameButKey v e' c c' := fun _ _ hc => hc
    exact ⟨halike.sameVisit ht hkeys fun hnot => absurd hk hnot, halike.twin ht hkeys⟩
  · have halike := other_alike hk ht request
    have hsame : ∀ c c', c = c' → SameButKey v e' c c' := fun _ _ hc => hc ▸ .same
    exact ⟨halike.sameVisit ht hsame fun _ => rfl, halike.twin ht hsame⟩

/-! ### A whole run -/

theorem follows_withEnvironment (v : Services) (e' : Environment) (parent : Node) (outcome : Outcome) (child : Node)
    (c : Context) : follows (.standard (v.withEnvironment e')) parent outcome child c =
      follows (.standard v) parent outcome child c := by
  simp only [follows, bind_route_standard]

section
variable {r r' : Registry}
  (hvisit : ∀ place node s s', Twin v e' s s' →
    SameVisit v e' (visitOf r request place node s) (visitOf r' request place node s') ∧
      Twin v e' (visitOf r request place node s).after (visitOf r' request place node s').after)
  (hfollows : ∀ parent outcome child c, follows r' parent outcome child c = follows r parent outcome child c)
include hvisit hfollows

theorem visits_alike :
    (∀ place node s s', Twin v e' s s' →
      List.Forall₂ (SameVisit v e') (visits r request place node s).1 (visits r' request place node s').1 ∧
        Twin v e' (visits r request place node s).2 (visits r' request place node s').2) ∧
    ∀ parent i children s parent' s', SameVisit v e' parent parent' → Twin v e' s s' →
      List.Forall₂ (SameVisit v e') (visitsBelow r request parent i children s).1
          (visitsBelow r' request parent' i children s').1 ∧
        Twin v e' (visitsBelow r request parent i children s).2 (visitsBelow r' request parent' i children s').2 := by
  refine visits_induction r request
    (P := fun place node s => ∀ s', Twin v e' s s' →
      List.Forall₂ (SameVisit v e') (visits r request place node s).1 (visits r' request place node s').1 ∧
        Twin v e' (visits r request place node s).2 (visits r' request place node s').2)
    (Q := fun parent i children s => ∀ parent' s', SameVisit v e' parent parent' → Twin v e' s s' →
      List.Forall₂ (SameVisit v e') (visitsBelow r request parent i children s).1
          (visitsBelow r' request parent' i children s').1 ∧
        Twin v e' (visitsBelow r request parent i children s).2 (visitsBelow r' request parent' i children s').2)
    ?stop ?go ?nil ?take ?skip
  case stop =>
    intro place node s hc s' ht
    obtain ⟨hsame, htwin⟩ := hvisit place node s s' ht
    have hc' : (visitOf r' request place node s').outcome.continues = false := by rw [hsame.outcome, hc]
    rw [visits_of_not_continues hc, visits_of_not_continues hc']
    exact ⟨.cons hsame .nil, htwin⟩
  case go =>
    intro place node s hc ih s' ht
    obtain ⟨hsame, htwin⟩ := hvisit place node s s' ht
    have hc' : (visitOf r' request place node s').outcome.continues = true := by rw [hsame.outcome, hc]
    rw [visits_of_continues hc, visits_of_continues hc']
    obtain ⟨hbelow, hlast⟩ := ih _ _ hsame htwin
    exact ⟨.cons hsame hbelow, hlast⟩
  case nil =>
    intro parent i s parent' s' _ ht
    rw [visitsBelow_nil, visitsBelow_nil]
    exact ⟨.nil, ht⟩
  case take =>
    intro parent i child rest s hf ih ih' parent' s' hparent ht
    have hf' : follows r' parent'.node parent'.outcome child s'.context = true := by
      rw [hfollows, hparent.node, hparent.outcome, ht.context, hf]
    rw [visitsBelow_of_follows hf, visitsBelow_of_follows hf', hparent.place]
    obtain ⟨hchild, htwin⟩ := ih s' ht
    obtain ⟨hrest, hlast⟩ := ih' parent' _ hparent htwin
    exact ⟨List.rel_append hchild hrest, hlast⟩
  case skip =>
    intro parent i child rest s hf ih parent' s' hparent ht
    have hf' : follows r' parent'.node parent'.outcome child s'.context = false := by
      rw [hfollows, hparent.node, hparent.outcome, ht.context, hf]
    rw [visitsBelow_of_not_follows hf, visitsBelow_of_not_follows hf']
    exact ih parent' s' hparent ht

end

theorem outputs_eq_of_sameVisit {log log' : List Visit} (h : List.Forall₂ (SameVisit v e') log log') :
    outputs log' = outputs log := by
  induction h with
  | nil => rfl
  | cons hvisit _ ih => rw [outputs_cons, outputs_cons, ih, hvisit.outcome]

/-- Two runs, with the visits `log` and `log'`, that differ in nothing but the keys in what they send. -/
structure SameRun (v : Services) (e' : Environment) (log log' : List Visit) (run run' : Run) : Prop where
  outputs : run'.outputs = run.outputs
  response : run'.session.response = run.session.response
  context : run'.session.context = run.session.context
  lastError : run'.session.context.lastError = run.session.context.lastError
  sent : List.Forall₂ (SameButKey v e') run.session.exchange.sent run'.session.exchange.sent
  visits : List.Forall₂ (SameVisit v e') log log'

theorem execute_sameRun (v : Services) (e' : Environment) (exchange : Exchange) (flow : Flow) (request : Request)
    (h : DifferInKeys v e') :
    SameRun v e' (executed (.standard v) exchange flow request)
      (executed (.standard (v.withEnvironment e')) exchange flow request)
      (execute (.standard v) exchange flow request)
      (execute (.standard (v.withEnvironment e')) exchange flow request) := by
  have hbegun : Twin v e' (begun exchange flow request) (begun exchange flow request) :=
    ⟨rfl, rfl, rfl, List.forall₂_same.mpr fun _ _ => .same⟩
  obtain ⟨hvisits, htwin⟩ := (visits_alike (fun place node s s' ht => visitOf_alike h ht request place node)
    (follows_withEnvironment v e')).1 [] flow.root _ _ hbegun
  have hsession : ∀ r, (execute r exchange flow request).session =
      (Walk.visits r request [] flow.root (begun exchange flow request)).2 := fun r => by
    rw [execute_eq_walk, walk_eq_visits r request []]
  rw [← hsession, ← hsession] at htwin
  constructor
  case outputs =>
    rw [outputs_execute, outputs_execute]
    exact outputs_eq_of_sameVisit hvisits
  case response => exact htwin.response
  case context => exact htwin.context
  case lastError => rw [htwin.context]
  case sent => exact htwin.sent
  case visits => exact hvisits

/-- A text is asked for, and the next node shows what came of it. -/
def asking : Node :=
  .mk "ask" "generateText" [("prompt", .str "Hello"), ("referenceVar", .str "reply")]
    [.mk "show" "respond" [("message", .str "{reply} {error}")] [] none] none

def askingServices : Services :=
  { Services.still with environment := [("OPENAI_API_KEY", "alpha")] }

theorem asking_sameRun :
    DifferInKeys askingServices [("OPENAI_API_KEY", "beta")] ∧
    SameRun askingServices [("OPENAI_API_KEY", "beta")]
      (executed (.standard askingServices) { peer := .scripted [.dropped] } (.ofNode asking) (.new "GET" "/"))
      (executed (.standard (askingServices.withEnvironment [("OPENAI_API_KEY", "beta")]))
        { peer := .scripted [.dropped] } (.ofNode asking) (.new "GET" "/"))
      (execute (.standard askingServices) { peer := .scripted [.dropped] } (.ofNode asking) (.new "GET" "/"))
      (execute (.standard (askingServices.withEnvironment [("OPENAI_API_KEY", "beta")]))
        { peer := .scripted [.dropped] } (.ofNode asking) (.new "GET" "/")) := by
  have hkeys : DifferInKeys askingServices [("OPENAI_API_KEY", "beta")] := by
    intro name
    by_cases hname : name = "OPENAI_API_KEY"
    · subst hname
      exact Or.inr ⟨Or.inl rfl, "alpha", "beta", rfl, rfl, by decide, by decide⟩
    · refine Or.inl ?_
      simp [askingServices, Fields.get?, Ne.symm hname]
  exact ⟨hkeys, execute_sameRun _ _ _ _ _ hkeys⟩

end Walk
end FlowTree

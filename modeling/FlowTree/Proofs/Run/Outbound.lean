import FlowTree.Proofs.Http.Exchange
import FlowTree.Proofs.Run.Attempts
import FlowTree.Proofs.Run.Turns

/-! # The requests of a run

What a run sends is told by its visits, one after the other. Each visit begins when the requests of the earlier ones
were sent, and with the replies after theirs. -/

namespace FlowTree

namespace Attempt

open Http Exchange

variable {a : Attempt} {call : Call} {replies : List Reply} {x : Exchange}

theorem call?_eq_some_iff : a.call? = some call ↔ Call.build a.method a.address a.headers a.body = .ok call := by
  unfold call?
  cases Call.build a.method a.address a.headers a.body <;> simp [Except.toOption]

theorem make_of_call? (h : a.call? = some call) (x : Exchange) : a.make x = x.ask a.wanted call := by
  rw [make, request, call?_eq_some_iff.mp h]

/-- A request that cannot be put together is not sent. -/
theorem make_of_call?_eq_none (h : a.call? = none) (x : Exchange) : ∃ e, a.make x = (.error e, x) := by
  unfold call? at h
  unfold make request
  cases hbuild : Call.build a.method a.address a.headers a.body with
  | error e => exact ⟨e, rfl⟩
  | ok call => simp [hbuild, Except.toOption] at h

theorem make_withReply (hx : Scripted replies x) (a : Attempt) :
    (a.make (x.withReply replies[x.sent.length]?)).1 = (a.make x).1 := by
  unfold make request
  cases Call.build a.method a.address a.headers a.body with
  | error e => rfl
  | ok call => exact ask_withReply hx a.wanted call

/-- An attempt sends its request, unless that cannot be put together or the time is used up. -/
theorem sent_afterAttempt (hx : Scripted replies x) (attempt : Option Attempt) :
    (afterAttempt attempt x).sent = x.sent ++ (if x.isOver then [] else (attempt.bind call?).toList) ∧
      Scripted replies (afterAttempt attempt x) := by
  cases attempt with
  | none => exact ⟨by simp [afterAttempt], hx⟩
  | some a =>
    simp only [afterAttempt, Option.bind_some]
    cases hcall : a.call? with
    | none =>
      obtain ⟨e, hmake⟩ := make_of_call?_eq_none hcall x
      rw [hmake]
      exact ⟨by simp, hx⟩
    | some call =>
      obtain ⟨hsent, hpeer⟩ := ask_keeps x a.wanted call
      rw [make_of_call? hcall, Scripted, hsent, hpeer]
      cases hover : x.isOver with
      | true =>
        rw [send_of_isOver hover]
        exact ⟨by simp, hx⟩
      | false =>
        obtain ⟨hcalls, hscripted, -⟩ := send_scripted hover hx call
        exact ⟨hcalls, hscripted⟩

end Attempt

/-! ### A whole run -/

namespace Walk

open Http Exchange

variable {v : Services} {request : Request} {s t : Session} {log earlier later : List Visit} {u : Visit} {node : Node}
  {c : Context} {replies : List Reply} {call : Http.Call}

/-- The requests that were sent during a visit. -/
def calls (u : Visit) : List Http.Call :=
  u.after.exchange.sent.drop u.before.exchange.sent.length

/-- The request that a node sends, if it describes one that can be put together. -/
def callOf? (v : Services) (node : Node) (c : Context) : Option Http.Call :=
  (attempt? v node c).bind Attempt.call?

/-- What a visit does to the exchange, and what it gets for it. -/
structure Sends (v : Services) (request : Request) (replies : List Reply) (u : Visit) : Prop where
  calls_eq : calls u = if u.before.exchange.isOver then [] else (callOf? v u.node u.before.context).toList
  sent_eq : u.after.exchange.sent = u.before.exchange.sent ++ calls u
  scripted : Scripted replies u.after.exchange
  replied : ∀ call, calls u = [call] →
    Replied call replies[u.before.exchange.sent.length]? (u.before.exchange.send call).1
  alone : ∀ x, x = u.before.exchange.withReply replies[u.before.exchange.sent.length]? →
    (visit (.standard v) request u.node { u.before with exchange := x }).1 = u.outcome ∧
      (visit (.standard v) request u.node { u.before with exchange := x }).2.context = u.after.context

theorem sends_visitOf (hs : Scripted replies s.exchange) (place : Place) (node : Node) :
    Sends v request replies (visitOf (.standard v) request place node s) := by
  obtain ⟨hsent, hscripted⟩ := Attempt.sent_afterAttempt hs (attempt? v node s.context)
  rw [← exchange_visit v request node s] at hsent hscripted
  have hcalls : calls (visitOf (.standard v) request place node s) =
      if s.exchange.isOver then [] else (callOf? v node s.context).toList := by
    simp only [calls, visitOf]
    rw [hsent, List.drop_left]
    rfl
  constructor
  case calls_eq => exact hcalls
  case sent_eq =>
    rw [hcalls]
    exact hsent
  case scripted => exact hscripted
  case replied =>
    intro call hcall
    cases hover : s.exchange.isOver with
    | true => simp [hcalls, hover] at hcall
    | false => exact (send_scripted hover hs call).2.2
  case alone =>
    rintro x rfl
    exact visit_hears v request node s _ (Attempt.make_withReply hs)

theorem Threaded.exchange (h : Threaded (.standard v) request s log t) (hs : Scripted replies s.exchange) :
    t.exchange.sent = s.exchange.sent ++ log.flatMap calls ∧ Scripted replies t.exchange := by
  induction log generalizing s with
  | nil =>
    obtain rfl : t = s := h
    exact ⟨by simp, hs⟩
  | cons u log ih =>
    have hu : Sends v request replies u := h.1 ▸ sends_visitOf hs u.place u.node
    obtain ⟨hsent, hscripted⟩ := ih h.2 hu.scripted
    rw [hsent, hu.sent_eq, h.handed.1, List.append_assoc, List.flatMap_cons]
    exact ⟨rfl, hscripted⟩

/-- Each visit begins when the requests of the earlier ones were sent. -/
theorem Threaded.sends (h : Threaded (.standard v) request s (earlier ++ u :: later) t)
    (hs : Scripted replies s.exchange) :
    u.before.exchange.sent = s.exchange.sent ++ earlier.flatMap calls ∧ Sends v request replies u := by
  obtain ⟨m, hearlier, hrest⟩ := h.of_append
  obtain ⟨hsent, hscripted⟩ := hearlier.exchange hs
  exact ⟨hrest.handed.1 ▸ hsent, hrest.1 ▸ sends_visitOf hscripted u.place u.node⟩

theorem kind_of_callOf? (h : callOf? v node c = some call) : node.kind ∈ outboundKinds := by
  refine Decidable.by_contra fun hkind => ?_
  rw [callOf?, attempt?_of_not_mem hkind] at h
  cases h

/-- What keeps a node from making a request: something that it needs is blank, its method is none, or the key of its
service is missing. -/
inductive Withheld (v : Services) (node : Node) (c : Context) : Prop where
  | unconfigured (h : Unconfigured v node c)
  | address {template : String} (hkind : node.kind = "request") (hurl : node.nonEmpty? "url" = some template)
      (haddress : Text.isBlankText (Template.fill v.ambient c template) = true)
  | method (hkind : node.kind = "request")
      (hmethod : isToken (Text.upper ((node.nonEmpty? "method").getD "GET")) = false)
  | openaiKey (hkind : node.kind = "generateText") (hkey : v.environment.key? v.openai.keyVariable = none)
  | resendKey (hkind : node.kind = "sendEmail") (hkey : v.environment.key? v.resend.keyVariable = none)

theorem Attempt.call?_of_isBlankText {a : Attempt} (h : Text.isBlankText a.address = true) : a.call? = none := by
  rw [Attempt.call?, Http.Call.build, Url.parse?_of_isBlankText h]
  rfl

theorem callOf?_of_withheld (h : Withheld v node c) : callOf? v node c = none := by
  unfold callOf?
  cases h with
  | unconfigured h => rw [attempt?_of_unconfigured h, Option.bind_none]
  | @address template hkind hurl haddress =>
    simp only [attempt?, hkind, if_true, OutboundRequest.attempt?, hurl, Option.bind_some]
    split
    · rw [Option.bind_some]
      refine Attempt.call?_of_isBlankText ?_
      exact haddress
    · rfl
  | method hkind hmethod => simp [attempt?, hkind, OutboundRequest.attempt?, hmethod]
  | openaiKey hkind hkey => simp [attempt?, hkind, GenerateText.attempt?, Service.attempt?, hkey]
  | resendKey hkind hkey => simp [attempt?, hkind, SendEmail.attempt?, Service.attempt?, hkey]

/-- Whatever is visited lies below visited places only. -/
theorem visitedAt_of_append {r : Registry} {root : Node} {p q : Place}
    (h : VisitedAt (visited r request root s) (p ++ q)) : VisitedAt (visited r request root s) p := by
  induction q generalizing p with
  | nil => rwa [List.append_nil] at h
  | cons i q ih =>
    rw [List.append_cons] at h
    exact visitedAt_parent (ih h)

/-- What a run that visits `log` sends, and what it gets for it. -/
structure SendsInOrder (v : Services) (request : Request) (replies : List Reply) (s : Session) (log : List Visit)
    (run : Run) : Prop where
  /-- The requests of the run are those of its visits, in their order. -/
  sent_eq : run.session.exchange.sent = log.flatMap calls
  /-- A visit sends the request that its node describes, unless the time for the run is used up, and no other. -/
  calls_eq : ∀ u ∈ log, calls u = if u.before.exchange.isOver then [] else (callOf? v u.node u.before.context).toList
  kinds : ∀ u ∈ log, calls u ≠ [] → u.node.kind ∈ outboundKinds
  once : (log.map (·.place)).Nodup
  /-- The request number `i` of the run is answered by the reply number `i`. -/
  replied : ∀ earlier u later call, log = earlier ++ u :: later → calls u = [call] →
    Replied call replies[(earlier.flatMap calls).length]? (u.before.exchange.send call).1
  /-- No other reply matters to the visit. -/
  alone : ∀ earlier u later, log = earlier ++ u :: later →
    let x := u.before.exchange.withReply replies[(earlier.flatMap calls).length]?
    (visit (.standard v) request u.node { u.before with exchange := x }).1 = u.outcome ∧
      (visit (.standard v) request u.node { u.before with exchange := x }).2.context = u.after.context
  /-- Nothing is sent by a child that is not selected, nor by one of a node that stops, nor by what is below it. -/
  passed : ∀ u ∈ log, ∀ i child, u.node.children[i]? = some child →
    ¬(u.outcome.continues = true ∧ Selected (.standard v) u.node u.outcome child
      (sessionAt s log (u.place ++ [i])).context) →
    ∀ w ∈ log, ¬(u.place ++ [i]) <+: w.place
  withheld : ∀ u ∈ log, Withheld v u.node u.before.context → calls u = []

theorem execute_sendsInOrder (v : Services) (replies : List Reply) (patience : Nat) (remaining : Option Nat)
    (flow : Flow) (request : Request) :
    SendsInOrder v request replies (begun { peer := .scripted replies, patience, remaining } flow request)
      (executed (.standard v) { peer := .scripted replies, patience, remaining } flow request)
      (execute (.standard v) { peer := .scripted replies, patience, remaining } flow request) := by
  have hscripted : Scripted replies { peer := .scripted replies, patience, remaining } := rfl
  have hempty : ({ peer := .scripted replies, patience, remaining } : Exchange).sent = [] := rfl
  generalize ({ peer := .scripted replies, patience, remaining } : Exchange) = x at *
  have h : Threaded (.standard v) request (begun x flow request) _ _ := threaded_executed (.standard v) x flow request
  have hstart : (begun x flow request).exchange.sent = [] := hempty
  have hsends {earlier later : List Visit} {u : Visit}
      (hlog : executed (.standard v) x flow request = earlier ++ u :: later) :
      u.before.exchange.sent = earlier.flatMap calls ∧ Sends v request replies u := by
    rw [hlog] at h
    obtain ⟨hsent, hu⟩ := h.sends hscripted
    exact ⟨by rw [hsent, hstart, List.nil_append], hu⟩
  have hmem : ∀ u ∈ executed (.standard v) x flow request, Sends v request replies u := fun u hu => by
    obtain ⟨earlier, later, hlog⟩ := List.append_of_mem hu
    exact (hsends hlog).2
  constructor
  case sent_eq => rw [(h.exchange hscripted).1, hstart, List.nil_append]
  case calls_eq => exact fun u hu => (hmem u hu).calls_eq
  case kinds =>
    intro u hu hcalls
    rw [(hmem u hu).calls_eq] at hcalls
    cases hcall : callOf? v u.node u.before.context with
    | none => simp [hcall] at hcalls
    | some call => exact kind_of_callOf? hcall
  case once => exact nodup_places (pairwise_visits.1 [] flow.root (begun x flow request))
  case replied =>
    intro earlier u later call hlog hcall
    rw [← (hsends hlog).1]
    exact (hsends hlog).2.replied call hcall
  case alone =>
    intro earlier u later hlog
    rw [← (hsends hlog).1]
    exact (hsends hlog).2.alone _ rfl
  case passed =>
    rintro u hu i child hchild hnot w hw ⟨q, hq⟩
    exact hnot ((visitedAt_iff_selected hu hchild).mp (visitedAt_of_append ⟨w, hw, hq.symm⟩))
  case withheld =>
    intro u hu hwithheld
    rw [(hmem u hu).calls_eq, callOf?_of_withheld hwithheld]
    simp

end Walk

end FlowTree

import FlowTree.Http.Exchange

/-! # Requests and replies

The replies that are left to a peer are those after the requests that were sent (`Scripted`). So the request number `i`
is answered by the reply number `i`, and no other reply matters to it. -/

namespace FlowTree.Http

namespace Exchange

variable {x : Exchange} {call : Call} {replies : List Reply}

/-- The time for the run is used up. -/
def isOver (x : Exchange) : Bool :=
  x.expired || x.remaining = some 0

/-- The replies that are left are those after the requests that were sent. -/
def Scripted (replies : List Reply) (x : Exchange) : Prop :=
  x.peer = .scripted (replies.drop x.sent.length)

/-- The exchange with at most one reply left. -/
def withReply (x : Exchange) (reply : Option Reply) : Exchange :=
  { x with peer := .scripted reply.toList, sent := [] }

/-- What a reply says to a request. Without one the answer is that there is none left; no answer at all is the end of
the sender's patience, or of the time for the run. -/
inductive Replied (call : Call) : Option Reply → Except TransportError Arrival → Prop where
  | missing : Replied call none (.ok (noReply call.method))
  | answer (status : Nat) (contentType : Option String) (body : Body) :
      Replied call (some (.answer status contentType body)) (.ok (arrival call.method status contentType body))
  | dropped : Replied call (some .dropped) (.error (.lost call.url))
  | timedOut : Replied call (some .silent) (.error (.timedOut call.url))
  | lost : Replied call (some .silent) (.error (.lost call.url))

theorem send_of_isOver (h : x.isOver = true) (call : Call) :
    x.send call = (.error (.lost call.url), { x with expired := true }) := by
  rw [send, if_pos (by simpa [isOver] using h)]

/-- Waiting ends with one of two errors, and nothing is sent meanwhile. -/
theorem wait_cases (α : Type) (x : Exchange) (late lost : TransportError) :
    (∃ y : Exchange, x.wait late lost = ((.error late : Except TransportError α), y) ∧ y.sent = x.sent ∧
      y.peer = x.peer) ∨
    (∃ y : Exchange, x.wait late lost = ((.error lost : Except TransportError α), y) ∧ y.sent = x.sent ∧
      y.peer = x.peer) := by
  unfold wait
  split
  · exact Or.inl ⟨_, rfl, rfl, rfl⟩
  · split
    · exact Or.inr ⟨_, rfl, rfl, rfl⟩
    · exact Or.inl ⟨_, rfl, rfl, rfl⟩

/-- A request takes the next reply. -/
theorem send_scripted (hover : x.isOver = false) (hx : Scripted replies x) (call : Call) :
    (x.send call).2.sent = x.sent ++ [call] ∧ Scripted replies (x.send call).2 ∧
      Replied call replies[x.sent.length]? (x.send call).1 := by
  have hnot : ¬(x.expired = true ∨ x.remaining = some 0) := by simpa [isOver] using hover
  cases hrest : replies.drop x.sent.length with
  | nil =>
    have hlength : replies.length ≤ x.sent.length := List.drop_eq_nil_iff.mp hrest
    have hsend : x.send call = (.ok (noReply call.method), { x with sent := x.sent ++ [call] }) := by
      rw [send, if_neg hnot, show x.peer = .scripted [] from hrest ▸ hx]
    rw [hsend, List.getElem?_eq_none hlength]
    refine ⟨rfl, ?_, .missing⟩
    show x.peer = .scripted (replies.drop (x.sent ++ [call]).length)
    rw [hx, hrest, List.drop_of_length_le (by simp; omega)]
  | cons reply rest =>
    have hnext : replies[x.sent.length]? = some reply := by rw [← List.head?_drop, hrest, List.head?_cons]
    have hrest' : replies.drop (x.sent.length + 1) = rest := by rw [← List.tail_drop, hrest, List.tail_cons]
    have hafter {y : Exchange} (hsent : y.sent = x.sent ++ [call]) (hpeer : y.peer = .scripted rest) :
        Scripted replies y := by
      rw [Scripted, hpeer, hsent, List.length_append, List.length_singleton, hrest']
    rw [hnext, send, if_neg hnot, show x.peer = .scripted (reply :: rest) from hrest ▸ hx]
    cases reply with
    | answer status contentType body => exact ⟨rfl, hafter rfl rfl, .answer status contentType body⟩
    | dropped => exact ⟨rfl, hafter rfl rfl, .dropped⟩
    | silent =>
      rcases wait_cases Arrival { x with peer := .scripted rest, sent := x.sent ++ [call] } (.timedOut call.url)
          (.lost call.url) with ⟨y, hwait, hsent, hpeer⟩ | ⟨y, hwait, hsent, hpeer⟩
      · simp only [hwait]
        exact ⟨hsent, hafter hsent hpeer, .timedOut⟩
      · simp only [hwait]
        exact ⟨hsent, hafter hsent hpeer, .lost⟩

/-- What came of a request tells what is taken in, and leaves the exchange alone, unless the end of a body has to be
waited for. -/
theorem receive_cases (wanted : Nat → Bool) (arrival : Except TransportError Arrival) :
    (∃ result, ∀ x : Exchange, x.receive wanted arrival = (result, x)) ∨
    (∃ reason : String, ∃ f : List UInt8 → Answer, ∀ x : Exchange, x.receive wanted arrival =
      ((x.wait (.stalled reason) (.broken reason)).1.map f,
        (x.wait (.stalled reason) (.broken reason) : Except TransportError (List UInt8) × Exchange).2)) := by
  rcases arrival with e | ⟨status, contentType, body⟩
  · exact Or.inl ⟨_, fun _ => rfl⟩
  · simp only [receive]
    cases wanted status with
    | false => exact Or.inl ⟨_, fun _ => rfl⟩
    | true =>
      cases body with
      | whole | broken => exact Or.inl ⟨_, fun _ => rfl⟩
      | stalled reason => exact Or.inr ⟨reason, fun bytes => ⟨status, contentType, bytes⟩, fun _ => rfl⟩

/-- Nothing is sent while an answer is taken in. -/
theorem receive_keeps (x : Exchange) (wanted : Nat → Bool) (arrival : Except TransportError Arrival) :
    (x.receive wanted arrival).2.sent = x.sent ∧ (x.receive wanted arrival).2.peer = x.peer := by
  rcases receive_cases wanted arrival with ⟨result, hreceive⟩ | ⟨reason, f, hreceive⟩
  · rw [hreceive]
    exact ⟨rfl, rfl⟩
  · rw [hreceive]
    rcases wait_cases (List UInt8) x (.stalled reason) (.broken reason) with ⟨y, hwait, hkeeps⟩ | ⟨y, hwait, hkeeps⟩
    · rw [hwait]
      exact hkeeps
    · rw [hwait]
      exact hkeeps

theorem ask_keeps (x : Exchange) (wanted : Nat → Bool) (call : Call) :
    (x.ask wanted call).2.sent = (x.send call).2.sent ∧ (x.ask wanted call).2.peer = (x.send call).2.peer :=
  receive_keeps ..

/-- The exchanges have the same time left. -/
structure SameTime (x y : Exchange) : Prop where
  patience : y.patience = x.patience
  remaining : y.remaining = x.remaining

theorem SameTime.wait {α : Type} {y : Exchange} (h : SameTime x y) (late lost : TransportError) :
    (y.wait late lost).1 = (x.wait late lost : Except TransportError α × Exchange).1 ∧
      SameTime (x.wait late lost : Except TransportError α × Exchange).2
        (y.wait late lost : Except TransportError α × Exchange).2 := by
  simp only [Exchange.wait, h.patience, h.remaining]
  cases hremaining : x.remaining with
  | none => exact ⟨rfl, h⟩
  | some left =>
    simp only
    split
    · exact ⟨rfl, rfl, rfl⟩
    · exact ⟨rfl, rfl, rfl⟩

theorem SameTime.receive {y : Exchange} (h : SameTime x y) (wanted : Nat → Bool)
    (arrival : Except TransportError Arrival) : (y.receive wanted arrival).1 = (x.receive wanted arrival).1 := by
  rcases receive_cases wanted arrival with ⟨result, hreceive⟩ | ⟨reason, f, hreceive⟩
  · rw [hreceive, hreceive]
  · rw [hreceive, hreceive]
    exact congrArg (Except.map f) (h.wait (.stalled reason) (.broken reason)).1

/-- An answer is told by the next reply alone, and takes the same time. -/
theorem send_withReply (hx : Scripted replies x) (call : Call) :
    ((x.withReply replies[x.sent.length]?).send call).1 = (x.send call).1 ∧
      SameTime (x.send call).2 ((x.withReply replies[x.sent.length]?).send call).2 := by
  cases hover : x.isOver with
  | true =>
    have hover' : (x.withReply replies[x.sent.length]?).isOver = true := hover
    rw [send_of_isOver hover, send_of_isOver hover']
    exact ⟨rfl, rfl, rfl⟩
  | false =>
    have hnot : ¬(x.expired = true ∨ x.remaining = some 0) := by simpa [isOver] using hover
    have hnot' (reply : Option Reply) : ¬((x.withReply reply).expired = true ∨ (x.withReply reply).remaining = some 0) :=
      hnot
    rw [← List.head?_drop, send, send, if_neg hnot, if_neg (hnot' _), hx]
    cases replies.drop x.sent.length with
    | nil => exact ⟨rfl, rfl, rfl⟩
    | cons reply rest =>
      cases reply with
      | answer | dropped => exact ⟨rfl, rfl, rfl⟩
      | silent =>
        have htime : SameTime { x with peer := .scripted rest, sent := x.sent ++ [call] }
            { x with peer := .scripted [], sent := [call] } := ⟨rfl, rfl⟩
        exact htime.wait (.timedOut call.url) (.lost call.url)

theorem ask_withReply (hx : Scripted replies x) (wanted : Nat → Bool) (call : Call) :
    ((x.withReply replies[x.sent.length]?).ask wanted call).1 = (x.ask wanted call).1 := by
  obtain ⟨harrival, htime⟩ := send_withReply hx call
  show (Exchange.receive _ wanted (Exchange.send _ call).1).1 = (Exchange.receive _ wanted (x.send call).1).1
  rw [harrival]
  exact htime.receive wanted _

end Exchange

/-! ### Blank addresses -/

namespace Url

theorem isSchemeChar_of_isBlank {ch : Char} (h : Text.isBlank ch = true) : isSchemeChar ch = false := by
  cases hs : isSchemeChar ch with
  | false => rfl
  | true =>
    delta isSchemeChar Char.isAlphanum Char.isAlpha Char.isUpper Char.isLower Char.isDigit at hs
    simp only [Bool.or_eq_true, Bool.and_eq_true, decide_eq_true_eq] at hs
    simp only [Text.isBlank, Bool.or_eq_true, Bool.and_eq_true, decide_eq_true_eq, beq_iff_eq, Char.toNat] at h
    simp only [ge_iff_le, UInt32.le_iff_toNat_le, Char.ext_iff, ← UInt32.toNat_inj, Char.reduceVal, UInt32.reduceToNat] at hs
    omega

theorem scheme?_of_blanks {cs : List Char} (h : ∀ ch ∈ cs, Text.isBlank ch = true) : scheme? cs = none := by
  have hnil : cs.takeWhile isSchemeChar = [] := by
    cases cs with
    | nil => rfl
    | cons ch cs => rw [List.takeWhile_cons_of_neg (by simp [isSchemeChar_of_isBlank (h ch List.mem_cons_self)])]
  rw [scheme?, hnil]

/-- A blank text is no address. -/
theorem parse?_of_isBlankText {text : String} (h : Text.isBlankText text = true) : parse? text = none := by
  have hblank : ∀ ch ∈ text.toList, Text.isBlank ch = true := List.all_eq_true.mp h
  have hscheme : scheme? ((((text.toList.dropWhile isEdge).reverse.dropWhile isEdge).reverse).filter
      fun ch => ch ≠ '\t' ∧ ch ≠ '\n' ∧ ch ≠ '\r') = none := by
    refine scheme?_of_blanks fun ch hch => hblank ch ?_
    have hch := List.mem_reverse.mp (List.mem_filter.mp hch).1
    have hch := List.mem_reverse.mp ((List.dropWhile_suffix _).subset hch)
    exact (List.dropWhile_suffix _).subset hch
  rw [parse?, hscheme]
  rfl

end Url

end FlowTree.Http

import FlowTree.Encoding.Base64
import FlowTree.Http.Url.Reader
import FlowTree.Text.Blank

/-! # Outbound requests

A run sends its requests one after the other. The peer answers them with a fixed list of replies, or
cannot be reached. An answer begins with its status and its type; its body is read after that, and may
break off. Time passes only while something does not come: the sender waits until its patience, or the
time that the run has left, is used up. -/

namespace FlowTree.Http

/-- A request as it is sent. Header names are in lower case. -/
structure Call where
  method : String
  url : Url
  headers : List (String × String)
  body : Option String

/-- What comes of the body of an answer. A reason is what the client tells of it. -/
inductive Body where
  | whole (bytes : List UInt8)
  | broken (reason : String)
  /-- Its end never comes. -/
  | stalled (reason : String)

/-- What the peer does with a request. -/
inductive Reply where
  | answer (status : Nat) (contentType : Option String) (body : Body)
  /-- The connection is closed without an answer. -/
  | dropped
  /-- No answer ever comes. -/
  | silent

/-- An answer that has begun. -/
structure Arrival where
  status : Nat
  contentType : Option String
  body : Body

/-- An answer as the sender sees it. A body that is not read is empty. -/
structure Answer where
  status : Nat
  contentType : Option String
  body : List UInt8

/-- The status tells of success. -/
def isSuccess (status : Nat) : Bool :=
  200 ≤ status && status ≤ 299

def Answer.isOk (a : Answer) : Bool :=
  isSuccess a.status

/-- Why no answer came, or not all of it. -/
inductive TransportError where
  /-- The request cannot be put together. -/
  | invalid
  /-- The address is none that requests can be sent to. -/
  | unsuitable (url : Url)
  | lost (url : Url)
  | timedOut (url : Url)
  /-- The body broke off. -/
  | broken (reason : String)
  /-- The end of the body did not come in time. -/
  | stalled (reason : String)

namespace TransportError

def message : TransportError → String
  | invalid => "builder error"
  | unsuitable url => "builder error for url (" ++ url.toText ++ ")"
  | lost url | timedOut url => "error sending request for url (" ++ url.toText ++ ")"
  | broken reason | stalled reason => reason

def isTimeout : TransportError → Bool
  | timedOut _ | stalled _ => true
  | _ => false

end TransportError

/-- A character of a token, of which methods and header names consist. -/
def isTokenChar (c : Char) : Bool :=
  c.isAlphanum || "!#$%&'*+-.^_~".toList.contains c || c.toNat = 0x60 || c.toNat = 0x7C

def isToken (s : String) : Bool :=
  !s.isEmpty && s.toList.all isTokenChar

/-- A text that may be the value of a header: it has no control characters but tabs. -/
def isHeaderValue (s : String) : Bool :=
  s.toList.all fun c => c = '\t' || (0x20 ≤ c.toNat && c.toNat ≠ 0x7F)

/-- What a user name or password stands for, if that is text. -/
def plainText? (s : String) : Option String :=
  Text.ofBytes? (unescape (Text.toBytes s))

/-- The user and password of an address. There are none if the user name is no text; a password that is
    none is passed over. -/
def credentials? (url : Url) : Option (String × String) := do
  let (user, password) ← url.userInfo
  let user ← plainText? user
  let password := (plainText? password).getD ""
  if user.isEmpty && password.isEmpty then none else return (user, password)

/-- The header for a user and a password. -/
def basicAuth (user password : String) : String × String :=
  ("authorization", "Basic " ++ String.ofList
    (Base64.pad (Base64.encode Base64.standard (Text.toBytes (user ++ ":" ++ password)))))

/-- The length of an address in bytes that a request can hold. -/
def maxTarget : Nat := 65534

/-- A request can hold the address: it is not too long, and its host has only characters that may stand
    there without an escape. -/
def isSendable (url : Url) : Bool :=
  (url.scheme = "http" || url.scheme = "https") && url.toText.utf8ByteSize ≤ maxTarget &&
    !url.host.any (·.toList.any fun c => c = '"' || c = '\x60' || c = '\x7b' || c = '\x7d')

/-- Puts a request together. User and password move from the address to a header. -/
def Call.build (method address : String) (headers : List (String × String)) (body : Option String) :
    Except TransportError Call :=
  match Url.parse? address with
  | none => .error .invalid
  | some url =>
    if !url.hasHost then .error (.unsuitable url)
    else if headers.any fun (name, value) => !isToken name || !isHeaderValue value then .error .invalid
    else
      let credentials := credentials? url
      let url := if credentials.isSome then { url with userInfo := none } else url
      if !isSendable url then .error (.unsuitable url)
      else
        let auth := (credentials.map fun (user, password) => basicAuth user password).toList
        let headers := headers.map fun (name, value) =>
          (String.ofList (name.toList.map Char.toLower), value)
        .ok ⟨method, url, auth ++ headers, body⟩

/-- Who answers. -/
inductive Peer where
  | unreachable
  | scripted (replies : List Reply)

/-- The outbound side of a run. -/
structure Exchange where
  peer : Peer
  /-- The requests that reached the peer, in order. -/
  sent : List Call := []
  /-- How long the sender waits for an answer, in milliseconds. -/
  patience : Nat := 30000
  /-- The time that is left for the run, in milliseconds; none if it is not limited. -/
  remaining : Option Nat := none
  /-- The time for the run is used up. -/
  expired : Bool := false

namespace Exchange

/-- Waits in vain. The sender gives up with `late`, or the run is over before that. -/
def wait {α : Type} (x : Exchange) (late lost : TransportError) : Except TransportError α × Exchange :=
  match x.remaining with
  | none => (.error late, x)
  | some left =>
    if left ≤ x.patience then (.error lost, { x with expired := true })
    else (.error late, { x with remaining := some (left - x.patience) })

/-- An answer without the body that its kind does not have. -/
def arrival (method : String) (status : Nat) (contentType : Option String) (body : Body) : Arrival :=
  ⟨status, contentType, if method = "HEAD" ∨ status = 204 ∨ status = 304 then .whole [] else body⟩

/-- The answer to a request for which there is no reply. -/
def noReply (method : String) : Arrival :=
  arrival method 404 (some "text/plain") (.whole (Text.toBytes "no reply left"))

/-- Sends a request. Nothing is sent when the time is used up. -/
def send (x : Exchange) (call : Call) : Except TransportError Arrival × Exchange :=
  if x.expired ∨ x.remaining = some 0 then (.error (.lost call.url), { x with expired := true })
  else
    match x.peer with
    | .unreachable => (.error (.lost call.url), x)
    | .scripted [] => (.ok (noReply call.method), { x with sent := x.sent ++ [call] })
    | .scripted (reply :: replies) =>
      let x := { x with peer := .scripted replies, sent := x.sent ++ [call] }
      match reply with
      | .answer status contentType body => (.ok (arrival call.method status contentType body), x)
      | .dropped => (.error (.lost call.url), x)
      | .silent => x.wait (.timedOut call.url) (.lost call.url)

/-- Reads a body to its end. -/
def readBody (x : Exchange) : Body → Except TransportError (List UInt8) × Exchange
  | .whole bytes => (.ok bytes, x)
  | .broken reason => (.error (.broken reason), x)
  | .stalled reason => x.wait (.stalled reason) (.broken reason)

/-- Takes in what came of a request. A body is read if the status is `wanted`. -/
def receive (x : Exchange) (wanted : Nat → Bool) :
    Except TransportError Arrival → Except TransportError Answer × Exchange
  | .error e => (.error e, x)
  | .ok a =>
    let (bytes, x) := if wanted a.status then x.readBody a.body else (.ok [], x)
    (bytes.map fun bytes => ⟨a.status, a.contentType, bytes⟩, x)

/-- Sends a request and takes in the answer. -/
def ask (x : Exchange) (wanted : Nat → Bool) (call : Call) : Except TransportError Answer × Exchange :=
  let (arrival, x) := x.send call
  x.receive wanted arrival

/-- Puts a request together, sends it, and takes in the answer. -/
def request (x : Exchange) (method address : String) (headers : List (String × String)) (body : Option String)
    (wanted : Nat → Bool) : Except TransportError Answer × Exchange :=
  match Call.build method address headers body with
  | .ok call => x.ask wanted call
  | .error e => (.error e, x)

end Exchange

end FlowTree.Http

import FlowTree.Block.Basic
import FlowTree.Settings.Basic

/-! # Outside services

What the nodes share that call a service: where keys come from, how JSON is posted, and how a failure is
told. -/

namespace FlowTree

/-- What the nodes of a run may use. -/
structure Services where
  ambient : Ambient
  environment : Environment := []
  openai : OpenAi := {}
  resend : Resend := {}

/-- Services in surroundings that stand still. -/
def Services.still : Services where
  ambient := .still

/-- The body of an answer as text. -/
def Http.Answer.text (answer : Answer) (a : Ambient) : String :=
  a.readText answer.contentType answer.body

namespace Service

/-- The answer of a service: its status, and its body if that is JSON. -/
structure Reply where
  status : Nat
  ok : Bool
  body : Json

/-- A base address without slashes at its end. -/
def trimSlashes (address : String) : String :=
  String.ofList (address.toList.reverse.dropWhile (· = '/')).reverse

/-- Posts JSON with a key. -/
def post (a : Ambient) (x : Http.Exchange) (address key : String) (payload : Json) :
    Except Http.TransportError Reply × Http.Exchange :=
  let headers := [("authorization", "Bearer " ++ key), ("content-type", "application/json")]
  let (answer, x) := x.request "POST" address headers (some payload.compact) fun _ => true
  (answer.map fun answer => ⟨answer.status, answer.isOk, (Json.read (answer.text a)).toOption.getD .null⟩, x)

/-- No key is configured. -/
def missingKey (source variableName : String) : ServiceError :=
  ⟨source, "missing_credentials", none,
    source ++ " API key is not configured (set " ++ variableName ++ ")", none⟩

/-- No answer came. -/
def noAnswer (source : String) (e : Http.TransportError) : ServiceError :=
  ⟨source, if e.isTimeout then "timeout" else "api_error", none, e.message, none⟩

/-- The text of a string or a number. -/
def scalarText? : Option Json → Option String
  | some (.str s) => some s
  | some (.num n) => some n.text
  | _ => none

/-- The string in a field of a value. -/
def stringIn? (j : Option Json) (name : String) : Option String :=
  (j.bind (·.get? name)).bind Json.string?

/-- Asks a service for something: with the key, if there is one, and with what its answer then comes to. -/
def call (a : Ambient) (x : Http.Exchange) (source : String) (environment : Environment) (variableName address : String)
    (payload : Json) (refused : Reply → ServiceError) :
    Except ServiceError Json × Http.Exchange :=
  match environment.key? variableName with
  | none => (.error (missingKey source variableName), x)
  | some key =>
    match post a x address key payload with
    | (.error e, x) => (.error (noAnswer source e), x)
    | (.ok reply, x) => (if reply.ok then .ok reply.body else .error (refused reply), x)

end Service

end FlowTree

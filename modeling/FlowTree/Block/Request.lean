import FlowTree.Block.Service

/-! # Requests to any address

The node sends a request and outputs what came back as `{status, ok, body}`. A request that fails is
output in the same form, so the children follow in any case. -/

namespace FlowTree

namespace OutboundRequest

/-- What a request comes to. -/
def result (status : Nat) (ok : Bool) (body : Json) : Json :=
  .obj [("status", .ofNat status), ("ok", .bool ok), ("body", body)]

/-- A header value that reads as text. -/
def isReadable (value : String) : Bool :=
  value.toList.all fun c => c = '\t' || (0x20 ≤ c.toNat && c.toNat < 0x7F)

/-- The body of an answer: JSON if it is declared and written as such, else text. -/
def bodyOf (a : Ambient) (answer : Http.Answer) : Json :=
  let isJson := answer.contentType.any fun t => isReadable t && Text.contains t "application/json"
  let text := answer.text a
  if isJson then (Json.read text).toOption.getD (.str text) else .str text

/-- What is told of an answer that is no success. -/
def refusal (address : String) (status : Nat) (body : Json) : ServiceError :=
  let message := address ++ " returned " ++ toString status ++
    match body with
    | .str text => if Text.isBlankText text then "" else ": " ++ Text.trim text
    | _ => ""
  ⟨"request", "http_error", some (toString status), message, some status⟩

/-- Records a failure and outputs it. -/
def fail (s : Session) (kind message : String) : Outcome × Session :=
  (.value (result 500 false (.obj [("error", .str message)])),
    s.modify (·.recordError ⟨"request", kind, none, message, some 500⟩))

/-- The body that the parameters of a node make up, for methods that have one. -/
def bodyFor? (a : Ambient) (node : Node) (c : Context) (method : String) : Option Json :=
  match node.pairs "bodyParams" with
  | [] => none
  | pairs =>
    if method = "GET" ∨ method = "HEAD" then none
    else
      some (.obj (pairs.foldl
        (fun fs (name, template) => Fields.insert fs name (.str (Template.fill a c template))) []))

/-- The headers of a node, and the type of its body if they do not give one. -/
def headersFor (a : Ambient) (node : Node) (c : Context) (hasBody : Bool) : List (String × String) :=
  let headers := (node.pairs "headers").map fun (name, template) => (name, Template.fill a c template)
  let typed := headers.any fun (name, _) => name.toList.map Char.toLower = "content-type".toList
  if hasBody && !typed then headers ++ [("Content-Type", "application/json")] else headers

end OutboundRequest

open OutboundRequest in
/-- Sends a request and outputs its result. -/
def Block.request (a : Ambient) : Block where
  run node _ s :=
    match node.nonEmpty? "url" with
    | none => (.none, s)
    | some template =>
      let address := Template.fill a s.context template
      let method := Text.upper ((node.nonEmpty? "method").getD "GET")
      if !Http.isToken method then fail s "invalid_request" ("Unknown HTTP method: " ++ method)
      else
        let body := bodyFor? a node s.context method
        let headers := headersFor a node s.context body.isSome
        match s.exchange.request method address headers (body.map Json.compact) fun _ => true with
        | (.error e, x) => fail { s with exchange := x } "transport_error" e.message
        | (.ok answer, x) =>
          let body := bodyOf a answer
          let s := { s with exchange := x }
          (.value (result answer.status answer.isOk body),
            if answer.isOk then s else s.modify (·.recordError (refusal address answer.status body)))

end FlowTree

import FlowTree.Block.Service

/-! # Generated texts

The node asks a language model for a text. Its output is the text or, after a failure, the message of the
failure, and then no child follows. -/

namespace FlowTree

namespace GenerateText

/-- The service, as failures name it. -/
def source : String := "openai"

/-- The temperature of a node that gives none. -/
def defaultTemperature : Float := 0.7

/-- The temperature that a node gives; zero gives none. -/
def temperature (node : Node) : Float :=
  (((node.get? "temperature").bind Json.asNumber?).filter (· != 0.0)).getD defaultTemperature

/-- What is asked of the service. -/
def payload (model prompt : String) (temperature : Float) : Json :=
  .obj [("model", .str model), ("input", .str prompt), ("temperature", .num (.float temperature)),
    ("store", .bool false)]

/-- What is told when the service refuses. -/
def refusal (reply : Service.Reply) : ServiceError :=
  let error := reply.body.get? "error"
  ⟨source, (Service.stringIn? error "type").getD "api_error",
    Service.scalarText? (error.bind (·.get? "code")),
    (Service.stringIn? error "message").getD "Unknown OpenAI error", some reply.status⟩

/-- The field is a string with the given text. -/
def hasText (j : Json) (name text : String) : Bool :=
  (j.get? name).bind Json.string? = some text

/-- The items of an array in a field. -/
def itemsIn (j : Json) (name : String) : List Json :=
  match j.get? name with
  | some (.arr items) => items
  | _ => []

/-- The texts of the assistant's messages, one a line. -/
def outputText (body : Json) : String :=
  let messages := (itemsIn body "output").filter fun item =>
    hasText item "type" "message" && hasText item "role" "assistant"
  let parts := (messages.flatMap fun item => itemsIn item "content").filter fun part =>
    hasText part "type" "output_text"
  "\n".intercalate (parts.filterMap fun part => (part.get? "text").bind Json.string?)

end GenerateText

open GenerateText in
/-- Asks for a text. -/
def Block.generateText (v : Services) : Block where
  run node _ s :=
    let prompt := Template.fill v.ambient s.context (node.text "prompt")
    if prompt.isEmpty then (.none, s)
    else
      let model := (node.nonEmpty? "model").getD v.openai.model
      let name := node.nonEmpty? "referenceVar"
      let address := Service.trimSlashes v.openai.baseUrl ++ "/responses"
      match Service.call v.ambient s.exchange source v.environment v.openai.keyVariable address
          (payload model prompt (temperature node)) refusal with
      | (.ok body, x) =>
        let value := .str (outputText body)
        (.value (namedOutput name value),
          { s with exchange := x, context := s.context.assignAs name value })
      | (.error e, x) =>
        let value := .str e.message
        (.last (namedOutput name value),
          { s with exchange := x, context := (s.context.recordError e).assignAs name value })

end FlowTree

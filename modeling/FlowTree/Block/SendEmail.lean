import FlowTree.Block.Service

/-! # Email

The node sends an email. Its output says what was sent or, after a failure, is the message of the failure,
and then no child follows. -/

namespace FlowTree

namespace SendEmail

/-- The service, as failures name it. -/
def source : String := "resend"

/-- An email; its body is written in HTML. -/
structure Email where
  recipient : String
  sender : String
  subject : String
  body : String

/-- The email that a node describes. -/
def Email.ofNode (a : Ambient) (node : Node) (c : Context) : Email :=
  let part (key : String) : String := Template.fill a c (node.text key)
  ⟨part "to", part "from", part "subject", part "body"⟩

/-- Every part of the email has some text. -/
def Email.isComplete (e : Email) : Bool :=
  [e.recipient, e.sender, e.subject, e.body].all fun part => !Text.isBlankText part

/-- What is asked of the service. -/
def Email.payload (e : Email) : Json :=
  .obj [("to", .str e.recipient), ("from", .str e.sender), ("subject", .str e.subject),
    ("html", .str e.body)]

/-- What is output of an email that was sent. -/
def Email.receipt (e : Email) (body : Json) : Json :=
  .obj [("id", (body.get? "id").getD .null), ("to", .str e.recipient), ("subject", .str e.subject),
    ("status", .str "sent")]

/-- What is told when the service refuses. -/
def refusal (reply : Service.Reply) : ServiceError :=
  let body := some reply.body
  ⟨source, (Service.stringIn? body "name").getD "api_error",
    Service.scalarText? ((reply.body.get? "code").or (reply.body.get? "statusCode")),
    (Service.stringIn? body "message").getD "Unknown Resend error", some reply.status⟩

end SendEmail

open SendEmail in
/-- Sends an email. -/
def Block.sendEmail (v : Services) : Block where
  run node _ s :=
    let email := Email.ofNode v.ambient node s.context
    if !email.isComplete then (.none, s)
    else
      let address := Service.trimSlashes v.resend.baseUrl ++ "/emails"
      match Service.call v.ambient s.exchange source v.environment v.resend.keyVariable address email.payload
          refusal with
      | (.ok body, x) => (.value (email.receipt body), { s with exchange := x })
      | (.error e, x) =>
        (.last (.str e.message), { s with exchange := x, context := s.context.recordError e })

end FlowTree

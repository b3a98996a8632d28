import FlowTree.Block.Basic

/-! # Responses

Nodes that end a flow with an answer, a success or an error. Only the first answer of a run is sent; a later
node still outputs the envelope that it would have sent. -/

namespace FlowTree

/-- The status code that a text writes: a whole number from 100 to 599. -/
def statusCode? (text : String) : Option Nat := do
  let f ← Decimal.readFloat? (Text.trimChars text.toList)
  let d ← Dyadic.ofFloat? f
  if d.isWhole ∧ 100 ≤ d.toInt ∧ d.toInt ≤ 599 then some d.toInt.toNat else none

/-- The status code that a value of the node gives, or else the fallback. -/
def statusCode (a : Ambient) (node : Node) (key : String) (c : Context) (fallback : Nat) : Nat :=
  ((node.nonEmpty? key).bind fun text => statusCode? (Template.fill a c text)).getD fallback

/-- The last part of every envelope. -/
def metadata (a : Ambient) : Json :=
  .obj [("timestamp", .str a.time)]

/-- The names of an envelope that its fields cannot replace. -/
def reservedNames : List String := ["success", "status", "metadata"]

/-- The payload of a success: the fields of the node, or its message if it has no fields. -/
def payloadOf (a : Ambient) (node : Node) (c : Context) : List (String × String) :=
  match node.pairs "fields" with
  | [] => [("message", Template.fill a c (node.text "message"))]
  | fields =>
    (fields.filter fun (name, _) => !reservedNames.contains name).map fun (name, template) =>
      (name, Template.fill a c template)

/-- The envelope of a success. -/
def successEnvelope (a : Ambient) (node : Node) (c : Context) (status : Nat) : Json :=
  let head : Fields Json := [("success", .bool true), ("status", .ofNat status)]
  let fields := (payloadOf a node c).foldl (fun fs (name, text) => fs.insert name (.str text)) head
  .obj (fields.insert "metadata" (metadata a))

/-- The envelope of an error. -/
def errorEnvelope (a : Ambient) (status : Nat) (code : Json) (message : String) : Json :=
  .obj [("success", .bool false), ("status", .ofNat status),
    ("error", .obj [("code", code), ("message", .str message)]), ("metadata", metadata a)]

/-- Sends an envelope, and outputs it whether or not it was sent. -/
def Session.answer (s : Session) (status : Nat) (envelope : Json) : Outcome × Session :=
  let (sent, s) := s.send ⟨status, .json envelope⟩
  ({ Outcome.value envelope with sent }, s)

/-- Answers with success. -/
def Block.respond (a : Ambient) : Block where
  run node _ s :=
    let status := statusCode a node "status" s.context 200
    s.answer status (successEnvelope a node s.context status)

/-- Answers with an error. -/
def Block.sendError (a : Ambient) : Block where
  run node _ s :=
    let status := statusCode a node "code" s.context 400
    let message := Template.fill a s.context (node.text "message")
    s.answer status (errorEnvelope a status (.ofNat status) message)

end FlowTree

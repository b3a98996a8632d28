import FlowTree.Block.Basic
import FlowTree.Encoding.Scheme

/-! # Variables and texts

The root of a flow publishes the endpoint that it declares. A variable node gives a name to a text. Other
nodes change a text, and encode or decode one: the result is the output of the node, and a named value if
the node asks for a name. Without a text they do nothing. -/

namespace FlowTree

/-- Publishes the slug and the query parameters of the node as the endpoint. -/
def Block.start : Block where
  run node _ s :=
    let queryParams : Json := match node.get? "queryParams" with
      | some (.arr items) => .arr items
      | _ => .arr []
    (.none, s.modify (·.setEndpoint
      (.obj [("slug", .str (node.text "slug")), ("queryParams", queryParams)])))

/-- Gives a local name to a text. -/
def Block.setVar (a : Ambient) : Block where
  run node _ s :=
    match node.nonEmpty? "name" with
    | none => (.none, s)
    | some name =>
      let value := .str (Template.fill a s.context (node.text "value"))
      (.value (namedOutput (some name) value), s.modify (·.setLocal name value))

/-- The result of a text operation. An operation that is not known changes nothing. -/
def changeText (a : Ambient) (node : Node) (c : Context) (operation text : String) : Json :=
  let argument (key : String) : String := Template.fill a c (node.text key)
  if operation = "uppercase" then .str (Text.upper text)
  else if operation = "lowercase" then .str (Text.lower text)
  else if operation = "trim" then .str (Text.trim text)
  else if operation = "replace" then .str (Text.replace (argument "find") (argument "replace") text)
  else if operation = "split" then .arr ((Text.split (argument "delimiter") text).map .str)
  else if operation = "concat" then .str (text ++ argument "additional")
  else .str text

/-- A node that makes a value of its text. -/
def Block.onText (a : Ambient) (change : Node → Context → String → Json) : Block where
  run node _ s :=
    let text := Template.fill a s.context (node.text "text")
    if text.isEmpty then (.none, s)
    else
      let value := change node s.context text
      let name := node.nonEmpty? "referenceVar"
      (.value (namedOutput name value), s.modify (·.assignAs name value))

/-- Changes a text; to upper case if the node does not say how. -/
def Block.manipulateText (a : Ambient) : Block :=
  .onText a fun node c text => changeText a node c ((node.nonEmpty? "operation").getD "uppercase") text

/-- The scheme that a node names, base64 if it names none. -/
def schemeOf? (node : Node) : Option Scheme :=
  Scheme.ofName? ((node.nonEmpty? "encoding").getD "base64")

/-- Encodes a text. An unknown scheme leaves it as it is. -/
def Block.encodeText (a : Ambient) : Block :=
  .onText a fun node _ text => .str (((schemeOf? node).map (·.encode text)).getD text)

/-- Decodes a text. What cannot be decoded stays as it is. -/
def Block.decodeText (a : Ambient) : Block :=
  .onText a fun node _ text => .str (((schemeOf? node).bind (·.decode? text)).getD text)

end FlowTree

import FlowTree.Block.Service

/-! # Work on images

The node fetches an image, filters it, and outputs it as a PNG in a data address. After a failure it
outputs nothing, and the children follow. -/

namespace FlowTree

namespace ManipulateImage

/-- The source of failures. -/
def source : String := "image"

/-- The bytes of a PNG as a data address. -/
def dataAddress (bytes : List UInt8) : String :=
  "data:image/png;base64," ++ String.ofList (Base64.pad (Base64.encode Base64.standard bytes))

/-- The filtered image of an answer. -/
def filtered (l : ImageLibrary) (op : ImageOp) (address : String) (answer : Http.Answer) :
    Except ServiceError String :=
  if !answer.isOk then
    .error ⟨source, "fetch_error", none,
      "fetching " ++ address ++ " failed with status " ++ toString answer.status, some answer.status⟩
  else
    match l.render op answer.body with
    | .ok bytes => .ok (dataAddress bytes)
    | .error (kind, message) => .error ⟨source, kind, none, message, none⟩

/-- Fetches an image and filters it. The body of an answer that is no success is not read. -/
def process (l : ImageLibrary) (x : Http.Exchange) (op : ImageOp) (address : String) :
    Except ServiceError String × Http.Exchange :=
  match x.request "GET" address [] none Http.isSuccess with
  | (.error e, x) => (.error (Service.noAnswer source e), x)
  | (.ok answer, x) => (filtered l op address answer, x)

/-- The filter that a node asks for. -/
def opOf (a : Ambient) (node : Node) (c : Context) : ImageOp :=
  let part (key : String) : String := Template.fill a c (node.text key)
  .ofTexts (node.text "operation") (part "amount") (part "level") (part "blur")

end ManipulateImage

open ManipulateImage in
/-- Fetches an image, filters it, and gives the result a name. -/
def Block.manipulateImage (a : Ambient) : Block where
  run node _ s :=
    let address := Template.fill a s.context (node.text "imageUrl")
    if Text.isBlankText address then (.none, s)
    else
      let name := node.nonEmpty? "referenceVar"
      match process a.images s.exchange (opOf a node s.context) (Text.trim address) with
      | (.ok dataUrl, x) =>
        (.value (namedOutput (some (name.getD "imageUrl")) (.str dataUrl)),
          { s with exchange := x, context := s.context.assignAs name (.str dataUrl) })
      | (.error e, x) => (.none, { s with exchange := x, context := s.context.recordError e })

end FlowTree

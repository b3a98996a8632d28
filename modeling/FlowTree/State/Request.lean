import FlowTree.Json.Basic
import FlowTree.Text.Case

/-! # Requests and responses

The request that starts a flow, and the response that the flow sends at most once. -/

namespace FlowTree

/-- Writes a value in the order of names, in place of a value of the same name. -/
def Fields.insertSorted {α : Type} (fields : Fields α) (name : String) (value : α) : Fields α :=
  match fields with
  | [] => [(name, value)]
  | (k, v) :: rest =>
    if k = name then (k, value) :: rest
    else if name < k then (name, value) :: (k, v) :: rest
    else (k, v) :: insertSorted rest name value

/-- A request. Headers and query are sorted by name. -/
structure Request where
  method : String
  path : String
  headers : Fields String := []
  query : Fields String := []
  body : Json := .null

namespace Request

/-- A request without headers, query and body. Methods are written in upper case. -/
def new (method path : String) : Request :=
  { method := Text.upper method, path }

/-- The request with a query parameter; a later value of one name counts. -/
def withQuery (r : Request) (name value : String) : Request :=
  { r with query := r.query.insertSorted name value }

/-- The request with a header, whose name is written in lower case. -/
def withHeader (r : Request) (name value : String) : Request :=
  { r with headers := r.headers.insertSorted (Text.lower name) value }

def withBody (r : Request) (body : Json) : Request :=
  { r with body }

/-- Named texts as JSON. -/
def textFields (fields : Fields String) : Json :=
  .obj (fields.map fun (k, v) => (k, .str v))

def toJson (r : Request) : Json :=
  .obj [("method", .str r.method), ("path", .str r.path), ("headers", textFields r.headers),
    ("query", textFields r.query), ("body", r.body)]

end Request

/-- What a response carries. -/
inductive ResponseBody where
  | json (value : Json)
  | text (s : String)

/-- A response. -/
structure Response where
  status : Nat
  body : ResponseBody

end FlowTree

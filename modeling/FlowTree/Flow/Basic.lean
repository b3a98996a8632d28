import FlowTree.Flow.Node
import FlowTree.Json.Reader

/-! # Flows

A flow is a tree of nodes together with the JSON it was loaded from. Its root declares the query
parameters that requests may give, each perhaps with a default. -/

namespace FlowTree

/-- A query parameter that a flow declares. -/
structure QueryParam where
  key : String
  default : Option Json

namespace QueryParam

/-- A default that is given; null gives none. -/
def given : Option Json → Option Json
  | none | some .null => none
  | some value => some value

/-- Reads a declaration: an object with a key and perhaps a default under one of its two names, or an
    array of the key and perhaps the default. -/
def ofJson? : Json → Option QueryParam
  | .obj fields =>
    match Fields.get? fields "key", Fields.get? fields "default_value",
      Fields.get? fields "defaultValue" with
    | some (.str key), none, value | some (.str key), value, none => some ⟨key, given value⟩
    | _, _, _ => none
  | .arr [.str key] => some ⟨key, none⟩
  | .arr [.str key, value] => some ⟨key, given (some value)⟩
  | _ => none

def toJson (p : QueryParam) : Json :=
  .obj [("key", .str p.key), ("default_value", p.default.getD .null)]

end QueryParam

/-- A flow: the tree that runs and the JSON that templates see. -/
structure Flow where
  root : Node
  json : Json
  deriving Inhabited

/-- Why a text is no flow. -/
inductive FlowError where
  | notJson (e : Json.ReadError)
  | notTree

def FlowError.message : FlowError → String
  | .notJson e => "JSON error: " ++ e.message
  | .notTree => "Flow error: invalid flow tree: the value does not describe a tree of nodes"

namespace Flow

/-- The flow of a tree, whose JSON is that of the tree. -/
def ofNode (root : Node) : Flow :=
  ⟨root, root.toJson⟩

/-- The flow that a JSON value describes. The value is kept as it is. -/
def ofJson? (j : Json) : Option Flow :=
  (Node.ofJson? j).map fun root => ⟨root, j⟩

/-- The flow that a text describes. -/
def parse (source : String) : Except FlowError Flow :=
  match Json.read source with
  | .error e => .error (.notJson e)
  | .ok j =>
    match ofJson? j with
    | some flow => .ok flow
    | none => .error .notTree

/-- The name under which the flow is reached. -/
def slug (flow : Flow) : String :=
  flow.root.text "slug"

/-- The query parameters that the root declares. Declarations that do not read, or whose key is empty,
    are dropped. -/
def queryParams (flow : Flow) : List QueryParam :=
  match flow.root.get? "queryParams" with
  | some (.arr items) => (items.filterMap QueryParam.ofJson?).filter fun p => !p.key.isEmpty
  | _ => []

/-- The value of each declared parameter that a request does not give. -/
def defaults (flow : Flow) : Fields Json :=
  flow.queryParams.foldl (fun fields p => fields.insert p.key (p.default.getD (.str ""))) []

end Flow

end FlowTree

import FlowTree.Json.Render

/-! # Nodes

A flow is a tree of nodes. The kind of a node says what it does, its data how, and its children what
follows. A child may belong to one branch of a decision. -/

namespace FlowTree

/-- The branch of a decision: what follows when it is true, or when it is false. -/
inductive Branch where
  | condition
  | otherwise
  deriving DecidableEq, Repr

namespace Branch

/-- The branch that a label stands for, blanks around it aside. -/
def ofLabel? (label : String) : Option Branch :=
  let word := Text.trim label
  if word = "condition" ∨ word = "true" ∨ word = "then" then some condition
  else if word = "else" ∨ word = "false" then some otherwise
  else none

/-- The branch that a decision takes. -/
def ofDecision (decision : Bool) : Branch :=
  if decision then condition else otherwise

/-- The canonical label of a branch. -/
def label : Branch → String
  | condition => "condition"
  | otherwise => "else"

/-- The decision takes this branch. -/
def isTaken (b : Branch) (decision : Bool) : Bool :=
  b = ofDecision decision

end Branch

/-- A node of a flow. -/
inductive Node where
  | mk (id kind : String) (data : List (String × Json)) (children : List Node)
      (branchLabel : Option String)
  deriving Inhabited

namespace Node

def id : Node → String
  | mk id _ _ _ _ => id

def kind : Node → String
  | mk _ kind _ _ _ => kind

def data : Node → Fields Json
  | mk _ _ data _ _ => data

def children : Node → List Node
  | mk _ _ _ children _ => children

/-- The label that the node itself carries for the branch it belongs to. -/
def branchLabel : Node → Option String
  | mk _ _ _ _ label => label

/-- A node without data and children. -/
def new (id kind : String) : Node :=
  mk id kind [] [] none

/-- The node with one more value in its data. -/
def withData (n : Node) (key : String) (value : Json) : Node :=
  mk n.id n.kind (n.data.insert key value) n.children n.branchLabel

/-- The node with one more child, after the others. -/
def withChild (n child : Node) : Node :=
  mk n.id n.kind n.data (n.children ++ [child]) n.branchLabel

/-- The node as part of a branch. -/
def onBranch (n : Node) (b : Branch) : Node :=
  mk n.id n.kind n.data n.children (some b.label)

/-- A value of the node's data. -/
def get? (n : Node) (key : String) : Option Json :=
  n.data.get? key

/-- A value of the node's data as text; nothing if it is missing. -/
def text (n : Node) (key : String) : String :=
  ((n.get? key).map Json.render).getD ""

/-- A value of the node's data as text without blanks around it, if any text is left. -/
def nonEmpty? (n : Node) (key : String) : Option String :=
  let trimmed := Text.trim (n.text key)
  if trimmed.isEmpty then none else some trimmed

/-- The branch that the node belongs to. Its own label counts if it has one, else the text `path` of its
    data; an unknown label is no branch. -/
def branch? (n : Node) : Option Branch :=
  match n.branchLabel with
  | some label => Branch.ofLabel? label
  | none => ((n.get? "path").bind Json.string?).bind Branch.ofLabel?

/-- The name and the text of an item that gives both; the name has no blanks around it. -/
def pair? (item : Json) : Option (String × String) := do
  let name := Text.trim (← (← item.get? "key").string?)
  if name.isEmpty then none
  else some (name, ((item.get? "value").map Json.render).getD "")

/-- The named texts that an array of the node's data lists. Items without a name are dropped. -/
def pairs (n : Node) (key : String) : List (String × String) :=
  match n.get? key with
  | some (.arr items) => items.filterMap pair?
  | _ => []

mutual

/-- The number of nodes in the tree. -/
def count : Node → Nat
  | mk _ _ _ children _ => 1 + countAll children
termination_by structural n => n

def countAll : List Node → Nat
  | [] => 0
  | n :: ns => count n + countAll ns
termination_by structural ns => ns

end

mutual

/-- The number of nodes on the longest path from the root. -/
def height : Node → Nat
  | mk _ _ _ children _ => 1 + heightAll children
termination_by structural n => n

def heightAll : List Node → Nat
  | [] => 0
  | n :: ns => max (height n) (heightAll ns)
termination_by structural ns => ns

end

mutual

/-- The node as JSON. The branch is left out if the node carries no label. -/
def toJson : Node → Json
  | mk id kind data children label =>
    .obj ([("id", .str id), ("type", .str kind), ("data", .obj data),
      ("children", .arr (toJsonAll children))] ++
      match label with
      | some l => [("branch", .str l)]
      | none => [])
termination_by structural n => n

def toJsonAll : List Node → List Json
  | [] => []
  | n :: ns => toJson n :: toJsonAll ns
termination_by structural ns => ns

end

/-- A string, if a value is given; the empty string if none is. -/
def stringOf? : Option Json → Option String
  | none => some ""
  | some (.str s) => some s
  | some _ => none

/-- The fields of an object; none for null and for no value. -/
def dataOf? : Option Json → Option (Fields Json)
  | none | some .null => some []
  | some (.obj fields) => some fields
  | some _ => none

/-- A branch label; none for null and for no value. -/
def labelOf? : Option Json → Option (Option String)
  | none | some .null => some none
  | some (.str s) => some (some s)
  | some _ => none

mutual

/-- Reads a node: an object with its fields, or an array that lists id, kind, data, children and branch
    up to any of them. What is missing takes its default. -/
def ofJson? : Json → Option Node
  | .obj fields => do
    return mk (← stringOf? (Fields.get? fields "id")) (← stringOf? (Fields.get? fields "type"))
      (← dataOf? (Fields.get? fields "data")) (← childrenIn? fields)
      (← labelOf? (Fields.get? fields "branch"))
  | .arr items => do
    if 5 < items.length then none
    else
      return mk (← stringOf? items[0]?) (← stringOf? items[1]?) (← dataOf? items[2]?)
        (← childrenAt? 3 items) (← labelOf? items[4]?)
  | _ => none
termination_by structural j => j

/-- The children that an object gives. -/
def childrenIn? : List (String × Json) → Option (List Node)
  | [] => some []
  | (name, value) :: fields => if name = "children" then childrenOf? value else childrenIn? fields
termination_by structural fields => fields

/-- The children that an item of an array gives. -/
def childrenAt? : Nat → List Json → Option (List Node)
  | _, [] => some []
  | 0, item :: _ => childrenOf? item
  | place + 1, _ :: items => childrenAt? place items
termination_by structural _ items => items

/-- The children that a value lists; none for null. -/
def childrenOf? : Json → Option (List Node)
  | .null => some []
  | .arr items => ofJsonAll? items
  | _ => none
termination_by structural j => j

def ofJsonAll? : List Json → Option (List Node)
  | [] => some []
  | item :: items => do return (← ofJson? item) :: (← ofJsonAll? items)
termination_by structural items => items

end

end Node

end FlowTree

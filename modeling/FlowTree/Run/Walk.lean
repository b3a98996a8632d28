import FlowTree.Block.Condition
import FlowTree.Block.GenerateText
import FlowTree.Block.ManipulateImage
import FlowTree.Block.Request
import FlowTree.Block.Respond
import FlowTree.Block.SendEmail
import FlowTree.Block.Text

/-! # Running a flow

A run visits the nodes of a tree depth first. Each node works on the session that the node before it left
behind; its outcome and the session at a child's turn decide whether the child is visited. A kind of node
that has no block does nothing. The catalogue has the kinds of nodes that flows are written with; two kinds
have a second name. -/

namespace FlowTree

namespace Registry

/-- The full catalogue. -/
def standard (v : Services) : Registry :=
  let a := v.ambient
  [("condition", .condition a), ("decodeText", .decodeText a), ("encodeText", .encodeText a),
    ("error", .sendError a), ("generateText", .generateText v), ("manipulateImage", .manipulateImage a),
    ("manipulateText", .manipulateText a), ("request", .request a), ("respond", .respond a),
    ("sendEmail", .sendEmail v), ("sendError", .sendError a), ("sendResponse", .respond a),
    ("setVar", .setVar a), ("start", .start)]

/-- The names of the kinds, sorted. -/
def kinds (r : Registry) : List String :=
  (Fields.keys r).mergeSort fun a b => a ≤ b

end Registry

/-- The name under which the result of a request is found. -/
def resultKey (node : Node) : String :=
  (node.nonEmpty? "request_name").getD node.id

/-- Makes the result of a request a variable, and its body another. -/
def Context.indexResult (c : Context) (node : Node) (output : Json) : Context :=
  let key := resultKey node
  (c.setVariable (key ++ ".body") ((output.get? "body").getD .null)).setVariable key output

/-- What one node does. -/
def visit (r : Registry) (request : Request) (node : Node) (s : Session) : Outcome × Session :=
  match r.get? node.kind with
  | none => (.none, s)
  | some block =>
    let (outcome, s) := block.run node request s
    match outcome.output with
    | some output =>
      if node.kind = "request" then (outcome, s.modify (·.indexResult node output)) else (outcome, s)
    | none => (outcome, s)

/-- A child follows its parent: as the parent's block says, or else if it belongs to the branch that was
    taken. Where a condition names no branch, the last decision of the context takes one. -/
def follows (r : Registry) (parent : Node) (outcome : Outcome) (child : Node) (c : Context) : Bool :=
  match (r.get? parent.kind).bind fun block => block.route child c with
  | some answer => answer
  | none =>
    match outcome.branch with
    | some branch => child.branch? = some branch
    | none =>
      if parent.kind = "condition" then
        match c.lastDecision, child.branch? with
        | some decision, some branch => branch.isTaken decision
        | _, _ => false
      else true

mutual

/-- Runs a tree. The outputs are those of the visited nodes, in order. -/
def walk (r : Registry) (request : Request) : Node → Session → List Json × Session
  | .mk id kind data children label, s =>
    let node := Node.mk id kind data children label
    let (outcome, s) := visit r request node s
    if outcome.continues then
      let (outputs, s) := walkChildren r request node outcome children s
      (outcome.output.toList ++ outputs, s)
    else (outcome.output.toList, s)
termination_by structural node => node

/-- Runs the children that follow, in order. -/
def walkChildren (r : Registry) (request : Request) (parent : Node) (outcome : Outcome) :
    List Node → Session → List Json × Session
  | [], s => ([], s)
  | child :: rest, s =>
    if follows r parent outcome child s.context then
      let (outputs, s) := walk r request child s
      let (more, s) := walkChildren r request parent outcome rest s
      (outputs ++ more, s)
    else walkChildren r request parent outcome rest s
termination_by structural children => children

end

/-- Takes in the request and runs a tree, if there is one. -/
def runFlow (r : Registry) (request : Request) (node : Option Node) (s : Session) :
    List Json × Session :=
  let s := s.modify (·.receive request)
  match node with
  | some node => walk r request node s
  | none => ([], s)

/-- A complete run of a flow: its outputs and what it left behind. -/
structure Run where
  outputs : List Json
  session : Session

/-- Runs a flow for a request, from a fresh context. -/
def execute (r : Registry) (exchange : Http.Exchange) (flow : Flow) (request : Request) : Run :=
  let (outputs, session) := runFlow r request (some flow.root) { context := .new flow, exchange }
  ⟨outputs, session⟩

end FlowTree

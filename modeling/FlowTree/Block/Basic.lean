import FlowTree.Http.Exchange
import FlowTree.Template.Path

/-! # Blocks

A block is what a kind of node does. It sees the node and the request, works on the session of the run,
and reports an outcome, which decides which children follow. -/

namespace FlowTree

/-- The state of a run: its context, the response once it is sent, and the outbound requests. -/
structure Session where
  context : Context
  response : Option Response := none
  exchange : Http.Exchange

namespace Session

/-- Sends the response, unless one was sent before. Tells whether it was sent. -/
def send (s : Session) (response : Response) : Bool × Session :=
  match s.response with
  | some _ => (false, s)
  | none => (true, { s with response := some response })

/-- Changes the context. -/
def modify (s : Session) (f : Context → Context) : Session :=
  { s with context := f s.context }

end Session

/-- What a block reports. -/
structure Outcome where
  /-- The value that the node adds to the outputs of the run. -/
  output : Option Json := none
  /-- The branch whose children follow. -/
  branch : Option Branch := none
  /-- Whether the children follow; they do unless this says no. -/
  next : Option Bool := none
  /-- The node sent the response. -/
  sent : Bool := false

namespace Outcome

/-- Nothing to report. -/
def none : Outcome := {}

/-- A value, after which the children follow. -/
def value (output : Json) : Outcome :=
  { output := some output, next := some true }

/-- A value, after which no child follows. -/
def last (output : Json) : Outcome :=
  { output := some output, next := some false }

/-- The children follow. -/
def continues (o : Outcome) : Bool :=
  o.next ≠ some false

end Outcome

/-- What a kind of node does. -/
structure Block where
  run : Node → Request → Session → Outcome × Session
  /-- Decides whether a child follows, in place of the outcome; none leaves it to the outcome. -/
  route : Node → Context → Option Bool := fun _ _ => none

/-- The blocks of the kinds of nodes. -/
abbrev Registry := Fields Block

/-- The output of a node that computes one value: the value under its name, or under `result`. -/
def namedOutput (name : Option String) (value : Json) : Json :=
  .obj [(name.getD "result", value)]

/-- Gives a value the name that the node asks for, if it does. -/
def Context.assignAs (c : Context) (name : Option String) (value : Json) : Context :=
  match name with
  | some name => c.assign name value
  | none => c

end FlowTree

import FlowTree.Block.Basic

/-! # Conditions

A condition takes one of its two branches. It compares two operands, or evaluates an expression; what is
missing or cannot be understood decides for the branch `else`. -/

namespace FlowTree

/-- How a condition compares its operands. -/
inductive Comparison where
  | binary (op : BinaryOp)
  | contains
  | notContains
  | startsWith
  | endsWith
  | isNull
  | isNotNull
  deriving DecidableEq, Repr

namespace Comparison

/-- The comparison that a text names, in any case and with any blanks between its words. -/
def ofText? (text : String) : Option Comparison :=
  let name := Text.lower (" ".intercalate (Text.words text))
  if name = "contains" then some contains
  else if name = "not contains" ∨ name = "does not contain" then some notContains
  else if name = "starts with" then some startsWith
  else if name = "ends with" then some endsWith
  else if name = "is null" ∨ name = "is empty" then some isNull
  else if name = "is not null" ∨ name = "is not empty" then some isNotNull
  else (BinaryOp.comparison? name).map binary

/-- The value of an operand as text. -/
def operandText (operand : String) : String :=
  (Json.ofOperand operand).render

/-- Whether the comparison holds of two operands. -/
def holds (c : Comparison) (left right : String) : Except EvalError Bool :=
  match c with
  | isNull => .ok (Text.trim left).isEmpty
  | isNotNull => .ok !(Text.trim left).isEmpty
  | binary op => (op.apply (Json.ofOperand left) (Json.ofOperand right)).map Json.isTruthy
  | contains => .ok (Text.contains (operandText left) (operandText right))
  | notContains => .ok !(Text.contains (operandText left) (operandText right))
  | startsWith => .ok (Text.startsWith (operandText left) (operandText right))
  | endsWith => .ok (Text.endsWith (operandText left) (operandText right))

end Comparison

namespace Condition

/-- The decision of a condition node; none if it says nothing that can be decided. -/
def decide? (a : Ambient) (node : Node) (c : Context) : Option Bool :=
  match node.nonEmpty? "comparison" with
  | some text =>
    (Comparison.ofText? text).bind fun comparison =>
      (comparison.holds (Template.fill a c (node.text "expression1"))
        (Template.fill a c (node.text "expression2"))).toOption
  | none =>
    ((node.nonEmpty? "condition").bind fun text => Expr.value? (Template.fill a c text)).map
      Json.isTruthy

/-- The decision of a condition node. -/
def decision (a : Ambient) (node : Node) (c : Context) : Bool :=
  (decide? a node c).getD false

end Condition

/-- Decides, records the decision, and takes its branch. -/
def Block.condition (a : Ambient) : Block where
  run node _ s :=
    let decision := Condition.decision a node s.context
    ({ branch := some (Branch.ofDecision decision) }, s.modify (·.recordDecision decision))

end FlowTree

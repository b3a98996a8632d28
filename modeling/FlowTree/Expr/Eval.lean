import FlowTree.Expr.Operators
import FlowTree.Expr.Grammar

/-! # The value of an expression

The logical operators give one of their operands, and evaluate the right one only if the left one does not
decide. -/

namespace FlowTree

/-- The value that a literal writes. -/
def Literal.value : Literal → Json
  | number f => Json.ofFloat f
  | string s => .str s
  | bool b => .bool b
  | null => .null

namespace Expr

/-- The value of an expression. -/
def eval : Expr → Except EvalError Json
  | literal l => .ok l.value
  | unary op operand =>
    match eval operand with
    | .ok value => op.apply value
    | .error e => .error e
  | binary left op right =>
    match eval left with
    | .error e => .error e
    | .ok l =>
      if op = .and ∧ l.isTruthy = false ∨ op = .or ∧ l.isTruthy = true then .ok l
      else
        match eval right with
        | .error e => .error e
        | .ok r => if op = .and ∨ op = .or then .ok r else op.apply l r

/-- Why a text has no value. -/
inductive TextError where
  | malformed (e : SyntaxError)
  | undefined (e : EvalError)

def TextError.message : TextError → String
  | .malformed e => e.message
  | .undefined e => e.message

/-- The value of the expression that a text writes. -/
def evalText (source : String) : Except TextError Json :=
  match parse source with
  | .error e => .error (.malformed e)
  | .ok e =>
    match e.eval with
    | .error e => .error (.undefined e)
    | .ok value => .ok value

/-- The value of the expression that a text writes, if it has one. -/
def value? (source : String) : Option Json :=
  (evalText source).toOption

end Expr

end FlowTree

/-! # Expressions

The trees of the expression language: literals, prefix operators and binary operators. -/

namespace FlowTree

/-- A value written in an expression. -/
inductive Literal where
  | number (f : Float)
  | string (s : String)
  | bool (b : Bool)
  | null

/-- An operator before its operand. -/
inductive PrefixOp where
  | not
  | neg
  | plus
  deriving DecidableEq, Repr

/-- An operator between its operands. -/
inductive BinaryOp where
  | add
  | sub
  | mul
  | div
  | rem
  | equal
  | notEqual
  | strictEqual
  | strictNotEqual
  | less
  | lessOrEqual
  | greater
  | greaterOrEqual
  | and
  | or
  deriving DecidableEq, Repr

/-- An expression. -/
inductive Expr where
  | literal (l : Literal)
  | unary (op : PrefixOp) (operand : Expr)
  | binary (left : Expr) (op : BinaryOp) (right : Expr)

namespace BinaryOp

/-- How an operator is written. -/
def symbol : BinaryOp → List Char
  | add => ['+']
  | sub => ['-']
  | mul => ['*']
  | div => ['/']
  | rem => ['%']
  | equal => ['=', '=']
  | notEqual => ['!', '=']
  | strictEqual => ['=', '=', '=']
  | strictNotEqual => ['!', '=', '=']
  | less => ['<']
  | lessOrEqual => ['<', '=']
  | greater => ['>']
  | greaterOrEqual => ['>', '=']
  | and => ['&', '&']
  | or => ['|', '|']

/-- The operators that compare two values. -/
def comparisons : List BinaryOp :=
  [equal, notEqual, strictEqual, strictNotEqual, less, lessOrEqual, greater, greaterOrEqual]

/-- The comparison written by a symbol. -/
def comparison? (text : String) : Option BinaryOp :=
  comparisons.find? fun op => op.symbol = text.toList

/-- The levels of binary operators, the loosest first. Of two operators of a level one of which begins
    with the other, the longer comes first. -/
def levels : List (List BinaryOp) :=
  [[or], [and], [strictEqual, strictNotEqual, equal, notEqual],
    [lessOrEqual, greaterOrEqual, less, greater], [add, sub], [mul, div, rem]]

end BinaryOp

namespace PrefixOp

/-- How an operator is written. -/
def symbol : PrefixOp → Char
  | not => '!'
  | neg => '-'
  | plus => '+'

/-- The operator that a character writes. -/
def ofChar? (c : Char) : Option PrefixOp :=
  [not, neg, plus].find? fun op => op.symbol = c

end PrefixOp

end FlowTree

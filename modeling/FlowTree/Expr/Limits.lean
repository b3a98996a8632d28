import FlowTree.Expr.Syntax

/-! # Limits of an expression

Before the grammar reads a text, its parentheses and its length are bounded. What stands inside a string
literal counts for neither; its opening quote counts as one character and its closing quote as none. -/

namespace FlowTree

/-- Why a text is no expression. -/
inductive SyntaxError.Cause where
  /-- An operand or a closing parenthesis is missing. -/
  | missing
  /-- Too many prefix operators stand before one operand. -/
  | longChain
  /-- A complete expression is followed by something else. -/
  | unexpected (rest : String)
  /-- Too many parentheses are open. -/
  | tooDeep
  /-- The text has too many characters. -/
  | tooLong
  deriving DecidableEq

/-- A fault in the text of an expression, `offset` bytes of UTF-8 from its start. -/
structure SyntaxError where
  offset : Nat
  cause : SyntaxError.Cause
  deriving DecidableEq

namespace Expr

/-- The deepest nesting of parentheses and the longest chain of prefix operators. -/
def maxDepth : Nat := 64

/-- The greatest number of characters outside string literals. -/
def maxLength : Nat := 2048

/-- What the scan knows: the parentheses open, the characters counted, the quote of the string literal it
    is in, and whether the next character is escaped. -/
structure Scan where
  depth : Nat := 0
  length : Nat := 0
  quote : Option Char := none
  escaped : Bool := false

namespace Scan

/-- The scan of one more character. -/
def step (s : Scan) (c : Char) : Scan :=
  match s.quote with
  | some q =>
    if s.escaped then { s with escaped := false }
    else if c = '\\' then { s with escaped := true }
    else if c = q then { s with quote := none }
    else s
  | none =>
    let s := { s with length := s.length + 1 }
    if c = '\'' ∨ c = '"' then { s with quote := some c }
    else if c = '(' then { s with depth := s.depth + 1 }
    else if c = ')' then { s with depth := s.depth - 1 }
    else s

/-- The limit that a scan exceeds, if it does; depth goes before length. -/
def exceeded? (s : Scan) : Option SyntaxError.Cause :=
  if maxDepth < s.depth then some .tooDeep
  else if maxLength < s.length then some .tooLong
  else none

/-- The first place at which a limit is exceeded, when the scan goes on from `offset`. -/
def check (s : Scan) (offset : Nat) : List Char → Except SyntaxError Unit
  | [] => .ok ()
  | c :: cs =>
    match (s.step c).exceeded? with
    | some cause => .error ⟨offset, cause⟩
    | none => (s.step c).check (offset + c.utf8Size) cs

end Scan

/-- Refuses a text that exceeds a limit. -/
def checkLimits (cs : List Char) : Except SyntaxError Unit :=
  ({} : Scan).check 0 cs

end Expr

/-- The wording of a fault. -/
def SyntaxError.Cause.message : SyntaxError.Cause → String
  | .missing => "expected Char"
  | .longChain => "expected TooLarge"
  | .unexpected rest => "unexpected input '" ++ rest ++ "'"
  | .tooDeep => "nesting deeper than " ++ toString Expr.maxDepth ++ " levels"
  | .tooLong => "expression longer than " ++ toString Expr.maxLength ++ " characters"

def SyntaxError.message (e : SyntaxError) : String :=
  "Parse error at offset " ++ toString e.offset ++ ": " ++ e.cause.message

end FlowTree

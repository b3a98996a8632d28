import FlowTree.Expr.Limits
import FlowTree.Number.Decimal
import FlowTree.Text.Letters
import FlowTree.Text.Search
import FlowTree.Text.Utf8

/-! # Reading expressions

Binary operators have six levels and associate to the left. Above them stand chains of prefix operators,
and above those literals and parentheses. Blanks may stand between any two of these.

A reader takes the characters that are left and gives a result with what is left then. Only a parenthesis
leads back to the loosest level, so the recursion is bounded by the depth of parentheses. -/

namespace FlowTree

namespace Grammar

/-- Where reading stopped: with an operand or a parenthesis missing, or after a chain of prefix operators
    that is too long. `rest` is what was left. -/
inductive Stop where
  | missing (rest : List Char)
  | longChain (rest : List Char)

/-- A reader of expressions. -/
abbrev Reader := List Char → Except Stop (Expr × List Char)

/-- The blanks of an expression: space, tab and line breaks. -/
def isBlank (c : Char) : Bool :=
  c = ' ' || c = '\t' || c = '\r' || c = '\n'

def skipBlanks (cs : List Char) : List Char :=
  cs.dropWhile isBlank

/-- The digits of a numeral before its exponent, and how many of them stand after the point. There is a
    digit before the point, or there is one after it. -/
def mantissa? (cs : List Char) : Option ((List Char × Nat) × List Char) :=
  match cs.takeWhile Char.isDigit, cs.dropWhile Char.isDigit with
  | [], '.' :: rest =>
    match rest.takeWhile Char.isDigit with
    | [] => none
    | digits => some ((digits, digits.length), rest.dropWhile Char.isDigit)
  | [], _ => none
  | whole, '.' :: rest =>
    let digits := rest.takeWhile Char.isDigit
    some ((whole ++ digits, digits.length), rest.dropWhile Char.isDigit)
  | whole, rest => some ((whole, 0), rest)

/-- The exponent of a numeral. A mark without digits after it is no exponent. -/
def exponent (cs : List Char) : Int × List Char :=
  match cs with
  | c :: rest =>
    if c = 'e' ∨ c = 'E' then
      let (negative, rest) := Decimal.sign rest
      match rest.takeWhile Char.isDigit with
      | [] => (0, cs)
      | digits =>
        let n : Int := Decimal.ofDigits digits
        (if negative then -n else n, rest.dropWhile Char.isDigit)
    else (0, cs)
  | [] => (0, cs)

/-- A number without sign. -/
def number? (cs : List Char) : Option (Float × List Char) :=
  (mantissa? cs).map fun ((digits, places), rest) =>
    let (power, rest) := exponent rest
    ((⟨Decimal.ofDigits digits, power - places⟩ : Decimal).toFloat, rest)

/-- The character that an escaped one stands for. -/
def unescape (c : Char) : Char :=
  if c = 'n' then '\n' else if c = 't' then '\t' else if c = 'r' then '\r' else c

/-- The characters of a string literal up to its closing quote. -/
def stringBody? (quote : Char) : List Char → Option (List Char × List Char)
  | [] => none
  | '\\' :: c :: rest => (stringBody? quote rest).map fun (s, rest) => (unescape c :: s, rest)
  | c :: rest =>
    if c = '\\' then none
    else if c = quote then some ([], rest)
    else (stringBody? quote rest).map fun (s, rest) => (c :: s, rest)

/-- A string literal between equal quotes. -/
def string? : List Char → Option (String × List Char)
  | [] => none
  | q :: rest =>
    if q = '\'' ∨ q = '"' then (stringBody? q rest).map fun (s, rest) => (String.ofList s, rest)
    else none

/-- A character that would continue a word. -/
def isWordChar (c : Char) : Bool :=
  Text.isAlphanumeric c || c = '_'

/-- The words of the language and what they stand for. -/
def keywords : List (List Char × Literal) :=
  [(['t', 'r', 'u', 'e'], .bool true), (['f', 'a', 'l', 's', 'e'], .bool false),
    (['n', 'u', 'l', 'l'], .null), (['u', 'n', 'd', 'e', 'f', 'i', 'n', 'e', 'd'], .null)]

/-- A word of the language that no further letter, digit or underscore continues. -/
def keyword? (cs : List Char) : Option (Literal × List Char) :=
  keywords.findSome? fun (word, value) =>
    match Text.after? word cs with
    | some rest => if rest.head?.any isWordChar then none else some (value, rest)
    | none => none

/-- A literal. -/
def literal? (cs : List Char) : Option (Literal × List Char) :=
  match number? cs with
  | some (f, rest) => some (.number f, rest)
  | none =>
    match string? cs with
    | some (s, rest) => some (.string s, rest)
    | none => keyword? cs

/-- A literal or a parenthesis, with blanks around it. `inner` reads what a parenthesis holds. -/
def primary (inner : Reader) : Reader := fun cs =>
  let cs := skipBlanks cs
  match literal? cs with
  | some (l, rest) => .ok (.literal l, skipBlanks rest)
  | none =>
    match cs with
    | '(' :: rest =>
      match inner (skipBlanks rest) with
      | .ok (e, rest) =>
        match skipBlanks rest with
        | ')' :: rest => .ok (e, skipBlanks rest)
        | rest => .error (.missing rest)
      | .error stop => .error stop
    | rest => .error (.missing rest)

/-- The prefix operators that a text begins with, blanks among them aside. -/
def prefixOps : List Char → List PrefixOp × List Char
  | [] => ([], [])
  | c :: cs =>
    if isBlank c then prefixOps cs
    else
      match PrefixOp.ofChar? c with
      | some op => (op :: (prefixOps cs).1, (prefixOps cs).2)
      | none => ([], c :: cs)

/-- A chain of prefix operators before an operand. -/
def unary (inner : Reader) : Reader := fun cs =>
  let (ops, rest) := prefixOps cs
  if Expr.maxDepth < ops.length then .error (.longChain rest)
  else
    match primary inner rest with
    | .ok (operand, rest) => .ok (ops.foldr .unary operand, rest)
    | .error stop => .error stop

/-- One of the operators of a level. -/
def operator? (ops : List BinaryOp) (cs : List Char) : Option (BinaryOp × List Char) :=
  ops.findSome? fun op => (Text.after? op.symbol cs).map fun rest => (op, rest)

/-- The further operands of a level after `left`. An operator without an operand after it is left
    unread. `fuel` bounds the number of operands. -/
def chainFrom (operand : Reader) (ops : List BinaryOp) : (fuel : Nat) → Expr → Reader
  | 0, left, cs => .ok (left, cs)
  | fuel + 1, left, cs =>
    match operator? ops (skipBlanks cs) with
    | none => .ok (left, cs)
    | some (op, rest) =>
      match operand (skipBlanks rest) with
      | .ok (right, rest) => chainFrom operand ops fuel (.binary left op right) rest
      | .error (.missing _) => .ok (left, cs)
      | .error stop => .error stop

/-- Operands of a level, joined to the left. -/
def chain (ops : List BinaryOp) (operand : Reader) : Reader := fun cs =>
  match operand cs with
  | .ok (first, rest) => chainFrom operand ops rest.length first rest
  | .error stop => .error stop

/-- An expression whose parentheses are less than `depth` deep, with blanks before it. -/
def expression : (depth : Nat) → Reader
  | 0, cs => .error (.missing cs)
  | depth + 1, cs => BinaryOp.levels.foldr chain (unary (expression depth)) (skipBlanks cs)

end Grammar

namespace Expr

/-- The fault of a text of which `rest` is left. -/
def faultAt (cs rest : List Char) (cause : SyntaxError.Cause) : SyntaxError :=
  ⟨Text.byteLength cs - Text.byteLength rest, cause⟩

/-- Reads all the characters as one expression. -/
def parseChars (cs : List Char) : Except SyntaxError Expr :=
  match checkLimits cs with
  | .error e => .error e
  | .ok () =>
    match Grammar.expression (maxDepth + 1) cs with
    | .ok (e, []) => .ok e
    | .ok (_, rest) => .error (faultAt cs rest (.unexpected (String.ofList rest)))
    | .error (.missing rest) => .error (faultAt cs rest .missing)
    | .error (.longChain rest) => .error (faultAt cs rest .longChain)

/-- Reads a text as one expression. -/
def parse (source : String) : Except SyntaxError Expr :=
  parseChars source.toList

end Expr

end FlowTree

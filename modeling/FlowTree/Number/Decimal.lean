/-! # Decimal numerals

Reading decimal numerals and finding the shortest one that reads back as a given double. -/

namespace FlowTree

/-- The value `digits * 10 ^ exponent`. -/
structure Decimal where
  digits : Nat
  exponent : Int

namespace Decimal

/-- The number that a row of decimal digits writes. -/
def ofDigits (cs : List Char) : Nat :=
  cs.foldl (fun n c => n * 10 + (c.toNat - '0'.toNat)) 0

/-- The decimal digits of a number. -/
def digitChars (n : Nat) : List Char :=
  Nat.toDigits 10 n

/-- The double nearest to a decimal, of two equally near ones the even one; infinite beyond the range
    of doubles. -/
def toFloat (d : Decimal) : Float :=
  let size := (digitChars d.digits).length + d.exponent
  if d.digits = 0 ∨ size < -330 then 0.0
  else if 310 < size then 1.0 / 0.0
  else Float.ofScientific d.digits (d.exponent < 0) d.exponent.natAbs

/-- The sign that a numeral may begin with, and the rest. -/
def sign : List Char → Bool × List Char
  | '-' :: cs => (true, cs)
  | '+' :: cs => (false, cs)
  | cs => (false, cs)

theorem sign_of_isDigit {c : Char} (hc : c.isDigit = true) (cs : List Char) :
    sign (c :: cs) = (false, c :: cs) := by
  unfold sign
  split
  · next heq =>
    cases heq
    exact absurd hc (by decide)
  · next heq =>
    cases heq
    exact absurd hc (by decide)
  · rfl

/-- The exponent part of a numeral: nothing, or a mark, a sign and digits up to the end. -/
def exponent? : List Char → Option Int
  | [] => some 0
  | c :: cs =>
    if c = 'e' ∨ c = 'E' then
      let (negative, digits) := sign cs
      if digits ≠ [] ∧ digits.all Char.isDigit then
        some (if negative then -(ofDigits digits : Int) else ofDigits digits)
      else none
    else none

/-- Reads an unsigned numeral: digits with a point among them, before them or after them, and perhaps an
    exponent. -/
def ofChars? (cs : List Char) : Option Decimal :=
  let whole := cs.takeWhile Char.isDigit
  let rest := cs.dropWhile Char.isDigit
  let (fraction, rest) := match rest with
    | '.' :: rest => (rest.takeWhile Char.isDigit, rest.dropWhile Char.isDigit)
    | rest => ([], rest)
  if whole = [] ∧ fraction = [] then none
  else (exponent? rest).map fun e => ⟨ofDigits (whole ++ fraction), e - fraction.length⟩

/-- The double that a numeral with an optional sign writes. -/
def readFloat? (cs : List Char) : Option Float :=
  let (negative, rest) := sign cs
  (ofChars? rest).map fun d => if negative then -d.toFloat else d.toFloat

end Decimal

end FlowTree

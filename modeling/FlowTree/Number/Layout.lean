import FlowTree.Number.Shortest

/-! # Writing doubles

A finite double is written with its shortest digits. A `Layout` says when they are laid out around the
point, when in exponent form, what marks a whole number, and which of two shortest decimals is taken that
are equally near. -/

namespace FlowTree

/-- The choices of a format. `point` is the place of the decimal point, counted from before the first
    digit. -/
structure Layout where
  /-- The lowest `point` that is laid out around the point; none if all are. -/
  lowest : Option Int
  /-- The highest `point` that is laid out around the point; none if all are. -/
  highest : Option Int
  /-- What follows a whole number. -/
  whole : String
  /-- Which of two decimals is taken that are equally near. -/
  tie : Tie

namespace Layout

/-- All digits are written out, a whole number has no fractional part, and the greater of two equally near
    decimals is taken. -/
def plain : Layout := ⟨none, none, "", .up⟩

/-- Numbers below 10⁻⁵ and from 10¹⁶ on take exponent form, a whole number keeps a fractional part, and of
    two equally near decimals the even one is taken. -/
def json : Layout := ⟨some (-4), some 16, ".0", .even⟩

/-- The digits of a decimal laid out, for a magnitude that is not zero. -/
def write (l : Layout) (d : Decimal) : String :=
  let digits := Decimal.digitChars d.digits
  let point := digits.length + d.exponent
  let zeros (n : Int) := List.replicate n.toNat '0'
  if l.lowest.any (point < ·) || l.highest.any (· < point) then
    let fraction := if digits.length ≤ 1 then [] else '.' :: digits.drop 1
    let power := point - 1
    String.ofList (digits.take 1 ++ fraction ++ ['e', if power < 0 then '-' else '+'] ++
      Decimal.digitChars power.natAbs)
  else if 0 ≤ d.exponent then String.ofList (digits ++ zeros d.exponent) ++ l.whole
  else if 0 < point then
    String.ofList (digits.take point.toNat ++ ['.'] ++ digits.drop point.toNat)
  else String.ofList (['0', '.'] ++ zeros (-point) ++ digits)

/-- A finite double in this layout. None for infinities and for what is no number. -/
def float? (l : Layout) (f : Float) : Option String :=
  (Dyadic.ofFloat? f).map fun d =>
    let magnitude := if d.mantissa = 0 then "0" ++ l.whole else l.write (d.shortest l.tie)
    if d.negative then "-" ++ magnitude else magnitude

end Layout

end FlowTree

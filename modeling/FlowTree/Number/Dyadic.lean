/-! # Dyadic fractions and whole numbers

A finite double is a sign and a magnitude `mantissa * 2 ^ exponent`. Whether it is whole, what it is cut
to, and the remainder of two of them are read off that form in integers, so they are exact. Whole numbers
of values have 64 bits, with a sign or without. -/

namespace FlowTree

/-- The least whole number of 64 bits with a sign. -/
def least64 : Int := -9223372036854775808

/-- The greatest whole number of 64 bits with a sign. -/
def greatest64 : Int := 9223372036854775807

/-- The greatest whole number of 64 bits without a sign. -/
def greatestUnsigned64 : Nat := 18446744073709551615

/-- The whole number nearest to `n` that 64 bits with a sign hold. -/
def clamp64 (n : Int) : Int :=
  if n < least64 then least64 else if greatest64 < n then greatest64 else n

/-- The value `± mantissa * 2 ^ exponent`. -/
structure Dyadic where
  negative : Bool
  mantissa : Nat
  exponent : Int

namespace Dyadic

/-- The fraction that a double holds. None for infinities and for what is no number. -/
def ofFloat? (f : Float) : Option Dyadic :=
  let bits := f.toBits.toNat
  let negative := Nat.pow 2 63 ≤ bits
  let field : Nat := bits / Nat.pow 2 52 % Nat.pow 2 11
  let fraction := bits % Nat.pow 2 52
  if field = 2047 then none
  else if field = 0 then some ⟨negative, fraction, -1074⟩
  else some ⟨negative, fraction + Nat.pow 2 52, (field : Int) - 1075⟩

/-- The magnitude has no fractional part. -/
def isWhole (d : Dyadic) : Bool :=
  0 ≤ d.exponent || d.mantissa % Nat.pow 2 d.exponent.natAbs == 0

/-- The magnitude without its fractional part. -/
def truncated (d : Dyadic) : Nat :=
  if 0 ≤ d.exponent then d.mantissa * Nat.pow 2 d.exponent.toNat
  else d.mantissa / Nat.pow 2 d.exponent.natAbs

/-- The value without its fractional part. -/
def toInt (d : Dyadic) : Int :=
  if d.negative then -(d.truncated : Int) else d.truncated

/-- The greatest integer that is not above the value. -/
def floor (d : Dyadic) : Int :=
  if d.negative && !d.isWhole then d.toInt - 1 else d.toInt

/-- The mantissa at a lower or equal exponent. -/
def mantissaAt (d : Dyadic) (exponent : Int) : Nat :=
  d.mantissa * Nat.pow 2 (d.exponent - exponent).toNat

/-- The number of binary digits. -/
def bitLength (n : Nat) : Nat :=
  if n = 0 then 0 else Nat.log2 n + 1

/-- The double that holds a fraction which has one: a mantissa that fits 53 bits once it is brought to
    the exponent of its size. -/
def toFloat (d : Dyadic) : Float :=
  if d.mantissa = 0 then (if d.negative then -0.0 else 0.0)
  else
    let exponent := max (d.exponent + bitLength d.mantissa - 53) (-1074)
    let mantissa :=
      if exponent ≤ d.exponent then d.mantissaAt exponent
      else d.mantissa / Nat.pow 2 (exponent - d.exponent).toNat
    let field := if mantissa < Nat.pow 2 52 then 0 else (exponent + 1075).toNat
    let bits := field * Nat.pow 2 52 + mantissa % Nat.pow 2 52
    Float.ofBits (UInt64.ofNat (if d.negative then Nat.pow 2 63 + bits else bits))

/-- The remainder of a division that cuts its quotient, with the sign of the dividend. -/
def rem (a b : Dyadic) : Dyadic :=
  let exponent := min a.exponent b.exponent
  ⟨a.negative, a.mantissaAt exponent % b.mantissaAt exponent, exponent⟩

end Dyadic

/-- The remainder of a division that cuts its quotient, with the sign of the dividend. -/
def floatRem (x y : Float) : Float :=
  match Dyadic.ofFloat? x, Dyadic.ofFloat? y with
  | some a, some b => if b.mantissa = 0 then 0.0 / 0.0 else (a.rem b).toFloat
  | some _, none => if y.isNaN then y else x
  | none, _ => 0.0 / 0.0

end FlowTree

import FlowTree.Number.Dyadic
import FlowTree.Number.Decimal

/-! # Shortest decimals

The decimals that read back as a double form an interval around it. The shortest of them lies on the
coarsest grid of powers of ten that has a point in the interval; one of the double's two neighbours on
that grid is in it, and the nearer one is taken. Where both are equally near, a format has to say which. -/

namespace FlowTree

/-- Which of two neighbours is taken that are equally near. -/
inductive Tie where
  /-- The greater one. -/
  | up
  /-- The one whose last digit is even. -/
  | even
  deriving DecidableEq

namespace Dyadic

/-- The interval of reals that round to a positive double, in quarters of `2 ^ exponent`: the lower end,
    the double, and the upper end. Below a power of two the neighbour is only half as far. -/
def interval (d : Dyadic) : Nat × Nat × Nat :=
  let below := if d.mantissa = Nat.pow 2 52 ∧ -1074 < d.exponent then 1 else 2
  (4 * d.mantissa - below, 4 * d.mantissa, 4 * d.mantissa + 2)

/-- The nearest multiple of `10 ^ place` that reads back as `d`, in units of `10 ^ place`. -/
def onGrid? (tie : Tie) (d : Dyadic) (place : Int) : Option Nat :=
  let (low, value, high) := d.interval
  -- both sides are multiplied out, so that they compare as whole numbers
  let scale := Nat.pow 2 (d.exponent - 2).toNat * Nat.pow 10 (-place).toNat
  let unit := Nat.pow 10 place.toNat * Nat.pow 2 (2 - d.exponent).toNat
  let fits (n : Nat) : Bool :=
    if d.mantissa % 2 = 0 then low * scale ≤ n * unit && n * unit ≤ high * scale
    else low * scale < n * unit && n * unit < high * scale
  let down := value * scale / unit
  let gap := value * scale - down * unit
  let upIsNearer := unit < 2 * gap || (2 * gap == unit && (tie = .up || down % 2 == 1))
  match fits down, fits (down + 1) with
  | true, true => some (if upIsNearer then down + 1 else down)
  | true, false => some down
  | false, true => some (down + 1)
  | false, false => none

/-- The shortest decimal that reads back as a positive double, of these the nearest. -/
def shortest (tie : Tie) (d : Dyadic) : Decimal :=
  -- no double has more than seventeen places below the first power of ten above it
  let top : Int := (d.exponent + bitLength d.mantissa) * 30103 / 100000 + 2
  let hit := (List.range 24).findSome? fun (i : Nat) =>
    (onGrid? tie d (top - (i : Int))).map fun n => (⟨n, top - (i : Int)⟩ : Decimal)
  hit.getD ⟨0, 0⟩

end Dyadic

end FlowTree

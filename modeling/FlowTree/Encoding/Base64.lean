/-! # Base64

Three bytes are written as four digits of six bits. A last group of one or two bytes takes two or three
digits, whose unused bits are zero; the padded form fills it up to four characters. -/

namespace FlowTree.Base64

/-- The two characters that differ between the forms of base64, for the digits 62 and 63. -/
structure Alphabet where
  plus : Char
  slash : Char

/-- The common alphabet. -/
def standard : Alphabet := ⟨'+', '/'⟩

/-- The alphabet for addresses and file names. -/
def urlSafe : Alphabet := ⟨'-', '_'⟩

/-- The character of a digit below 64. -/
def digit (a : Alphabet) (n : Nat) : Char :=
  if n < 26 then Char.ofNat ('A'.toNat + n)
  else if n < 52 then Char.ofNat ('a'.toNat + (n - 26))
  else if n < 62 then Char.ofNat ('0'.toNat + (n - 52))
  else if n = 62 then a.plus else a.slash

/-- The digit that a character writes. -/
def value? (a : Alphabet) (c : Char) : Option Nat :=
  if 'A' ≤ c ∧ c ≤ 'Z' then some (c.toNat - 'A'.toNat)
  else if 'a' ≤ c ∧ c ≤ 'z' then some (c.toNat - 'a'.toNat + 26)
  else if '0' ≤ c ∧ c ≤ '9' then some (c.toNat - '0'.toNat + 52)
  else if c = a.plus then some 62
  else if c = a.slash then some 63
  else none

/-- The bytes in digits, without padding. -/
def encode (a : Alphabet) : List UInt8 → List Char
  | x :: y :: z :: rest =>
    digit a (x.toNat / 4) :: digit a (x.toNat % 4 * 16 + y.toNat / 16) ::
      digit a (y.toNat % 16 * 4 + z.toNat / 64) :: digit a (z.toNat % 64) :: encode a rest
  | [x, y] =>
    [digit a (x.toNat / 4), digit a (x.toNat % 4 * 16 + y.toNat / 16), digit a (y.toNat % 16 * 4)]
  | [x] => [digit a (x.toNat / 4), digit a (x.toNat % 4 * 16)]
  | [] => []

/-- The bytes that digits without padding write. -/
def decode? (a : Alphabet) : List Char → Option (List UInt8)
  | p :: q :: r :: s :: rest => do
    let p ← value? a p
    let q ← value? a q
    let r ← value? a r
    let s ← value? a s
    let bytes ← decode? a rest
    return UInt8.ofNat (p * 4 + q / 16) :: UInt8.ofNat (q % 16 * 16 + r / 4) ::
      UInt8.ofNat (r % 4 * 64 + s) :: bytes
  | [p, q, r] => do
    let p ← value? a p
    let q ← value? a q
    let r ← value? a r
    if r % 4 = 0 then return [UInt8.ofNat (p * 4 + q / 16), UInt8.ofNat (q % 16 * 16 + r / 4)] else none
  | [p, q] => do
    let p ← value? a p
    let q ← value? a q
    if q % 16 = 0 then return [UInt8.ofNat (p * 4 + q / 16)] else none
  | [_] => none
  | [] => some []

/-- Digits filled up to groups of four. -/
def pad (cs : List Char) : List Char :=
  cs ++ List.replicate ((4 - cs.length % 4) % 4) '='

/-- Padded digits without their padding; none unless they come in groups of four. -/
def unpad? (cs : List Char) : Option (List Char) :=
  if cs.length % 4 ≠ 0 then none
  else
    match cs.reverse with
    | '=' :: '=' :: rest => some rest.reverse
    | '=' :: rest => some rest.reverse
    | _ => some cs

end FlowTree.Base64

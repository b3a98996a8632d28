/-! # UTF-8

Texts as bytes. Reading is strict (`ofBytes?`) or forgiving (`ofBytes`): each longest piece that cannot
be continued to a character is read as U+FFFD. -/

namespace FlowTree.Text

/-- The UTF-8 bytes of a text. -/
def toBytes (s : String) : List UInt8 :=
  s.toUTF8.data.toList

/-- The text with the given UTF-8 bytes, if they are valid. -/
def ofBytes? (bytes : List UInt8) : Option String :=
  String.fromUTF8? ⟨bytes.toArray⟩

/-- The number of bytes that characters take in UTF-8. -/
def byteLength : List Char → Nat
  | [] => 0
  | c :: cs => c.utf8Size + byteLength cs

/-- A character begun but not ended: how many bytes are missing, the bounds of the next one, and the
    bits read so far. -/
structure Pending where
  missing : Nat
  low : UInt8
  high : UInt8
  bits : Nat

/-- What a byte begins: a whole character, a longer one, or nothing valid. -/
inductive Lead where
  | char (c : Char)
  | more (p : Pending)
  | bad

/-- The reading of a byte at the start of a character. -/
def lead (b : UInt8) : Lead :=
  let n := b.toNat
  if n < 0x80 then .char (Char.ofNat n)
  else if 0xC2 ≤ n ∧ n ≤ 0xDF then .more ⟨1, 0x80, 0xBF, n - 0xC0⟩
  else if 0xE0 ≤ n ∧ n ≤ 0xEF then
    .more ⟨2, if n = 0xE0 then 0xA0 else 0x80, if n = 0xED then 0x9F else 0xBF, n - 0xE0⟩
  else if 0xF0 ≤ n ∧ n ≤ 0xF4 then
    .more ⟨3, if n = 0xF0 then 0x90 else 0x80, if n = 0xF4 then 0x8F else 0xBF, n - 0xF0⟩
  else .bad

/-- The character that stands for bytes which are no character. -/
def replacement : Char := '\uFFFD'

/-- The characters of the bytes that follow an unended character, if there is one. -/
def decodeFrom : Option Pending → List UInt8 → List Char
  | none, [] => []
  | some _, [] => [replacement]
  | none, b :: bs =>
    match lead b with
    | .char c => c :: decodeFrom none bs
    | .more p => decodeFrom (some p) bs
    | .bad => replacement :: decodeFrom none bs
  | some p, b :: bs =>
    if p.low ≤ b ∧ b ≤ p.high then
      let bits := p.bits * 64 + (b.toNat - 0x80)
      if p.missing ≤ 1 then Char.ofNat bits :: decodeFrom none bs
      else decodeFrom (some ⟨p.missing - 1, 0x80, 0xBF, bits⟩) bs
    else
      match lead b with
      | .char c => replacement :: c :: decodeFrom none bs
      | .more q => replacement :: decodeFrom (some q) bs
      | .bad => replacement :: replacement :: decodeFrom none bs

/-- The text with the given UTF-8 bytes, with U+FFFD for what is not valid. -/
def ofBytes (bytes : List UInt8) : String :=
  String.ofList (decodeFrom none bytes)

/-- The text with the given UTF-8 bytes. A byte order mark at its start is no part of it. -/
def ofMarkedBytes (bytes : List UInt8) : String :=
  match (ofBytes bytes).toList with
  | '\uFEFF' :: rest => String.ofList rest
  | cs => String.ofList cs

end FlowTree.Text

import FlowTree.Encoding.Base64
import FlowTree.Json.Reader
import FlowTree.Text.Blank
import FlowTree.Text.Utf8

/-! # Encoding schemes

The ways in which a text can be written as another. All but `ascii` keep the text: what was encoded can be
decoded. -/

namespace FlowTree

/-- A way to write a text, or the bytes of its UTF-8 form, as another text. -/
inductive Scheme where
  | base64
  | base64url
  | hex
  | utf8
  | ascii
  | binary
  deriving DecidableEq, Repr

namespace Scheme

def ofName? (name : String) : Option Scheme :=
  if name = "base64" then some base64
  else if name = "base64url" then some base64url
  else if name = "hex" then some hex
  else if name = "utf8" then some utf8
  else if name = "ascii" then some ascii
  else if name = "binary" then some binary
  else none

/-- A byte as two hexadecimal digits. -/
def hexByte (b : UInt8) : List Char :=
  [Nat.digitChar (b.toNat / 16), Nat.digitChar (b.toNat % 16)]

/-- The bytes that pairs of hexadecimal digits write. -/
def unhex? : List Char → Option (List UInt8)
  | h :: l :: rest => do
    let h ← Json.hexDigit? h
    let l ← Json.hexDigit? l
    let bytes ← unhex? rest
    return UInt8.ofNat (h * 16 + l) :: bytes
  | [_] => none
  | [] => some []

/-- A byte as eight binary digits. -/
def binaryByte (b : UInt8) : List Char :=
  [7, 6, 5, 4, 3, 2, 1, 0].map fun i => if b.toNat / Nat.pow 2 i % 2 = 1 then '1' else '0'

/-- The number that binary digits write. -/
def ofBinaryDigits (cs : List Char) : Nat :=
  cs.foldl (fun n c => n * 2 + (if c = '1' then 1 else 0)) 0

/-- The byte that a group of binary digits writes, perhaps after a plus sign. -/
def unbinary? (group : List Char) : Option UInt8 :=
  let digits := match group with
    | '+' :: rest => rest
    | cs => cs
  let n := ofBinaryDigits digits
  if digits ≠ [] ∧ digits.all (fun c => c = '0' || c = '1') ∧ n < 256 then some (UInt8.ofNat n)
  else none

/-- The text in the scheme. -/
def encode (s : Scheme) (text : String) : String :=
  let bytes := Text.toBytes text
  match s with
  | base64 => String.ofList (Base64.pad (Base64.encode Base64.standard bytes))
  | base64url => String.ofList (Base64.encode Base64.urlSafe bytes)
  | hex => String.ofList (bytes.flatMap hexByte)
  | utf8 => text
  | ascii => String.ofList (bytes.map fun b => Char.ofNat (b.toNat % 128))
  | binary => " ".intercalate (bytes.map fun b => String.ofList (binaryByte b))

/-- The text without trailing equals signs. -/
def trimEquals (cs : List Char) : List Char :=
  (cs.reverse.dropWhile (· = '=')).reverse

/-- The text that was written in the scheme; none if it was not, or its bytes are no text. -/
def decode? (s : Scheme) (text : String) : Option String :=
  let cs := Text.trimChars text.toList
  match s with
  | base64 => ((Base64.unpad? cs).bind (Base64.decode? Base64.standard)).bind Text.ofBytes?
  | base64url => (Base64.decode? Base64.urlSafe (trimEquals cs)).bind Text.ofBytes?
  | hex => (unhex? cs).bind Text.ofBytes?
  | utf8 => some text
  | ascii => some (Text.ofBytes (text.toList.map fun c => UInt8.ofNat (c.toNat % 256)))
  | binary => ((Text.words text).mapM fun group => unbinary? group.toList).bind Text.ofBytes?

end Scheme

end FlowTree

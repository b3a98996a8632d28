import FlowTree.Http.Domain.Basic
import FlowTree.Http.Url.Path

/-! # Hosts

The host of an address is a name, an IPv4 address or, in brackets, an IPv6 address. Names are written in
ASCII, addresses in their shortest standard form. -/

namespace FlowTree.Http

/-- The number that digits of a base write. -/
def ofBase? (base : Nat) (cs : List Char) : Option Nat :=
  cs.foldlM (fun n c => do
    let d ← Json.hexDigit? c
    if d < base then some (n * base + d) else none) 0

/-- A part of an IPv4 address: decimal, hexadecimal after `0x`, or octal after `0`. -/
def ipv4Part? : List Char → Option Nat
  | [] => none
  | '0' :: 'x' :: cs | '0' :: 'X' :: cs => ofBase? 16 cs
  | '0' :: c :: cs => ofBase? 8 (c :: cs)
  | cs => ofBase? 10 cs

/-- The parts of a name without the empty part after a final dot. -/
def partsOf (cs : List Char) : List (List Char) :=
  let parts := splitAt '.' cs
  if 1 < parts.length ∧ parts.getLast? = some [] then parts.dropLast else parts

/-- A name whose last part is a number has to be an IPv4 address. -/
def endsInNumber (cs : List Char) : Bool :=
  match (partsOf cs).getLast? with
  | some last => last ≠ [] && (last.all Char.isDigit || (ipv4Part? last).isSome)
  | none => false

/-- The number of an IPv4 address of up to four parts; the last one fills the remaining bytes. -/
def ipv4? (cs : List Char) : Option Nat := do
  let numbers ← (partsOf cs).mapM ipv4Part?
  let last ← numbers.getLast?
  let first := numbers.dropLast
  if 3 < first.length ∨ first.any (255 < ·) ∨ Nat.pow 256 (4 - first.length) ≤ last then none
  else some (first.foldl (fun n part => n * 256 + part) 0 * Nat.pow 256 (4 - first.length) + last)

/-- The four bytes of an IPv4 address with dots between them. -/
def ipv4Text (n : Nat) : String :=
  ".".intercalate ([n / 16777216, n / 65536 % 256, n / 256 % 256, n % 256].map toString)

/-- A group of an IPv6 address: up to four hexadecimal digits. -/
def group? (cs : List Char) : Option Nat :=
  if cs = [] ∨ 4 < cs.length then none else ofBase? 16 cs

/-- The groups of a part of an IPv6 address, which may end with an IPv4 address. -/
def groups? (cs : List Char) : Option (List Nat) :=
  if cs = [] then some []
  else
    let parts := splitAt ':' cs
    match parts.getLast? with
    | some last =>
      if last.contains '.' then do
        let bytes ← (splitAt '.' last).mapM fun part =>
          if part ≠ [] ∧ part.length ≤ 3 ∧ part.all Char.isDigit ∧ (part.length = 1 ∨ part.head? ≠ some '0')
          then (ofBase? 10 part).filter (· ≤ 255) else none
        match bytes with
        | [a, b, c, d] => return (← parts.dropLast.mapM group?) ++ [a * 256 + b, c * 256 + d]
        | _ => none
      else parts.mapM group?
    | none => none

/-- The eight groups of an IPv6 address, of which `::` leaves out at least one. -/
def ipv6? (cs : List Char) : Option (List Nat) := do
  match Text.cut? [':', ':'] cs with
  | none =>
    let groups ← groups? cs
    if groups.length = 8 then some groups else none
  | some (before, after) =>
    let head ← if before = [] then some [] else (splitAt ':' before).mapM group?
    let tail ← groups? after
    let given := head.length + tail.length
    if given < 8 then some (head ++ List.replicate (8 - given) 0 ++ tail) else none

/-- The longest run of zeros in a row of groups, as its place and its length; the first of equal ones. -/
def zeroRun (groups : List Nat) : Nat × Nat :=
  (List.range groups.length).foldl
    (fun best i =>
      let length := ((groups.drop i).takeWhile (· = 0)).length
      if best.2 < length then (i, length) else best)
    (0, 0)

/-- An IPv6 address with its longest run of at least two zeros left out. -/
def ipv6Text (groups : List Nat) : String :=
  let write (gs : List Nat) : String := ":".intercalate (gs.map fun g => String.ofList (Nat.toDigits 16 g))
  let (place, length) := zeroRun groups
  if length < 2 then write groups
  else write (groups.take place) ++ "::" ++ write (groups.drop (place + length))

/-- The host that characters write; none if they write no host. -/
def host? (cs : List Char) : Option String :=
  match cs with
  | '[' :: rest =>
    if rest.getLast? = some ']' then
      (ipv6? rest.dropLast).map fun groups => "[" ++ ipv6Text groups ++ "]"
    else none
  | _ =>
    let text := Text.ofBytes (unescape (Text.toBytes (String.ofList cs)))
    match Domain.toAscii? text.toList with
    | none | some [] => none
    | some name =>
      if endsInNumber name then (ipv4? name).map ipv4Text else some (String.ofList name)

end FlowTree.Http

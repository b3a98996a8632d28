import FlowTree.Template.Helper

/-! # The clock and chance

How a date, a time and random bytes are written for the helpers of templates. -/

namespace FlowTree.Command

/-- A number in at least so many digits. -/
def digits (width n : Nat) : String :=
  let text := Nat.toDigits 10 n
  String.ofList (List.replicate (width - text.length) '0' ++ text)

/-- A day of the calendar. -/
structure Day where
  year : Nat
  month : Nat
  day : Nat

/-- The day as month, day and year. -/
def Day.text (d : Day) : String :=
  toString d.month ++ "/" ++ toString d.day ++ "/" ++ toString d.year

/-- A time of a day in UTC. -/
structure Moment extends Day where
  hour : Nat
  minute : Nat
  second : Nat
  millisecond : Nat

/-- The moment with its year first. -/
def Moment.text (m : Moment) : String :=
  digits 4 m.year ++ "-" ++ digits 2 m.month ++ "-" ++ digits 2 m.day ++ "T" ++ digits 2 m.hour ++ ":" ++
    digits 2 m.minute ++ ":" ++ digits 2 m.second ++ "." ++ digits 3 m.millisecond ++ "Z"

/-- The byte with its high bits replaced: those above `keep` become those of `bits`. -/
def markByte (keep bits b : UInt8) : UInt8 :=
  (b &&& keep) ||| bits

/-- Random bytes as an identifier: sixteen bytes in groups, of version 4. -/
def identifier (bytes : List UInt8) : String :=
  let marked := bytes.mapIdx fun i b =>
    if i = 6 then markByte 0x0F 0x40 b else if i = 8 then markByte 0x3F 0x80 b else b
  String.join (marked.mapIdx fun i b =>
    (if i = 4 ∨ i = 6 ∨ i = 8 ∨ i = 10 then "-" else "") ++
      String.ofList [Nat.digitChar (b.toNat / 16), Nat.digitChar (b.toNat % 16)])

/-- A number from the first bound to the second, picked by a random one. -/
def pick (random : Nat) (low high : Int) : Int :=
  low + random % (high - low + 1)

/-- What helpers take from the surroundings at a moment. `random` is a number drawn by chance, and `bytes`
    are sixteen bytes. -/
def ambientAt (today : Day) (now : Moment) (random : Nat) (bytes : List UInt8) : Ambient where
  date := today.text
  time := now.text
  uuid := identifier bytes
  random := pick random

end FlowTree.Command

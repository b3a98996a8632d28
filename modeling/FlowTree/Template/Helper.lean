import FlowTree.Expr.Eval
import FlowTree.Image.Png

/-! # Helpers

Named functions that a template may call. What they take from their surroundings, the clock and chance, is
given from outside as `Ambient`, and with it how a run reads what comes from outside. -/

namespace FlowTree

/-- What a run takes from its surroundings. -/
structure Ambient where
  /-- The local date, as month, day and year. -/
  date : String
  /-- The time in UTC with milliseconds. -/
  time : String
  /-- An identifier that is used nowhere else. -/
  uuid : String
  /-- A whole number from the first bound to the second. -/
  random : Int → Int → Int
  /-- The text that bytes of a content type stand for; UTF-8 unless something else is known. -/
  readText : (contentType : Option String) → List UInt8 → String := fun _ => Text.ofMarkedBytes
  images : ImageLibrary := Png.library

/-- Surroundings in which the clock stands still and chance picks the least number. -/
def Ambient.still : Ambient where
  date := "1/2/2024"
  time := "2024-01-02T00:00:00.000Z"
  uuid := "0"
  random low _ := low

/-- A function that a template may call. -/
inductive Helper where
  | charCount
  | currentDate
  | currentTime
  | randomNumber
  | solve
  | uuid
  deriving DecidableEq, Repr

namespace Helper

def name : Helper → String
  | charCount => "charCount"
  | currentDate => "current_date"
  | currentTime => "current_time"
  | randomNumber => "random_number"
  | solve => "solve"
  | uuid => "uuid"

/-- All helpers, by name. -/
def all : List Helper :=
  [charCount, currentDate, currentTime, randomNumber, solve, uuid]

def ofName? (name : String) : Option Helper :=
  all.find? fun h => h.name = name

/-- The greatest whole number at or below a double, within 64 bits. -/
def floor64 (f : Float) : Int :=
  match Dyadic.ofFloat? f with
  | some d => clamp64 d.floor
  | none => 0

/-- The bounds of a random number: from the argument to 100, or from 100 up to an argument beyond it. -/
def randomBounds (arg : Option Json) : Int × Int :=
  let least := ((arg.bind Json.asNumber?).map floor64).getD 0
  if 100 < least then (100, least) else (least, 100)

/-- The value of a helper for an argument or without one. -/
def call (a : Ambient) (h : Helper) (arg : Option Json) : Json :=
  match h with
  | charCount =>
    match arg with
    | none | some .null => .str ""
    | some value => .ofNat value.render.length
  | currentDate => .str a.date
  | currentTime => .str a.time
  | randomNumber => .ofInt (a.random (randomBounds arg).1 (randomBounds arg).2)
  | solve => (arg.bind fun value => Expr.value? value.render).getD (.str "")
  | uuid => .str a.uuid

end Helper

end FlowTree

import FlowTree.Command.Arguments
import FlowTree.Command.Clock
import Std.Time.Zoned

/-! # The command line

Reads the files, the clock and the environment that an invocation uses, performs it, and prints what it gives. -/

namespace FlowTree.Command

/-- Why a file could not be read. -/
def faultOf : IO.Error → Files.Fault
  | .noFileOrDirectory .. => .notFound
  | e@(.inappropriateType _ _ reason) =>
    match Text.lower reason with
    | "not a directory" => .notDirectory
    | "is a directory" => .isDirectory
    | _ => .other (toString e)
  | e => .other (toString e)

def readFile (path : String) : IO (Except Files.Fault String) := do
  try
    let bytes ← IO.FS.readBinFile path
    match Text.ofBytes? bytes.toList with
    | some content => return .ok content
    | none => return .error (.other "stream did not contain valid UTF-8")
  catch e => return .error (faultOf e)

/-- The settings file in the working directory or the nearest one above it. -/
def nearestSettings : IO (Option String) := do
  let directory := toString (← IO.currentDir)
  for path in Settings.candidates directory do
    match ← readFile path with
    | .error .notFound => continue
    | _ => return some path
  return none

def ambientNow : IO Ambient := do
  let today ← Std.Time.PlainDate.now
  let now := (Std.Time.DateTime.ofTimestamp (← Std.Time.Timestamp.now) .UTC).toPlainDateTime
  let random ← IO.rand 0 (Nat.pow 2 62)
  let bytes ← IO.getRandomBytes 16
  let day (d : Std.Time.PlainDate) : Day := ⟨d.year.toInt.toNat, d.month.val.toNat, d.day.val.toNat⟩
  let moment : Moment :=
    ⟨day now.date, now.time.hour.val.toNat, now.time.minute.val.toNat, now.time.second.val.toNat,
      now.time.nanosecond.val.toNat / 1000000⟩
  return ambientAt (day today) moment random bytes.toList

/-- The variables that hold the keys of the outside services. -/
def environmentOf (settings : Settings) : IO Environment := do
  let mut environment : Environment := []
  for name in [settings.openai.keyVariable, settings.resend.keyVariable] do
    if let some value ← IO.getEnv name then
      environment := environment.insert name value
  return environment

/-- What an invocation uses. No outside service can be reached. -/
def surroundings (i : Invocation) : IO Surroundings := do
  let nearest ← if i.settings.isSome then pure none else nearestSettings
  let paths := (i.settings.or nearest).toList ++ i.flow?.toList
  let contents ← paths.mapM fun path => return (path, ← readFile path)
  let read (path : String) : Except Files.Fault String :=
    ((contents.find? (·.1 = path)).map (·.2)).getD (.error .notFound)
  let settings := (i.settings.or nearest).bind fun path => (Settings.load path (read path)).toOption
  return {
    ambient := ← ambientNow
    environment := ← environmentOf (settings.getD {})
    peer := .unreachable
    read
    nearestSettings := nearest }

end FlowTree.Command

/-- Performs the invocation that the arguments write. Arguments that write none are answered with code 2. -/
def main (arguments : List String) : IO UInt32 := do
  match FlowTree.Command.Invocation.ofArguments arguments with
  | .error e =>
    IO.eprintln ("error: " ++ e.message)
    return 2
  | .ok invocation =>
    let output := invocation.perform (← FlowTree.Command.surroundings invocation)
    IO.print output.out
    IO.eprint output.err
    return output.code.toUInt32

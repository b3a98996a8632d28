import FlowTree.Files.Tree
import FlowTree.Settings.Reader

/-! # The settings file

Settings are kept in a file of a fixed name. It is looked for in a directory and those above it. A relative
flow directory is relative to the file. -/

namespace FlowTree

/-- Why there are no settings. -/
inductive SettingsError where
  | unreadable (path : String) (fault : Files.Fault)
  | malformed

/-- The name of the settings file. -/
def Settings.fileName : String := "Hookflow.toml"

def SettingsError.message : SettingsError → String
  | .unreadable path fault => "I/O error: " ++ path ++ ": " ++ fault.message
  | .malformed => "Config error: Failed to parse " ++ Settings.fileName ++ ": not a valid settings file"

namespace Settings

/-- The settings that a text writes, or why it writes none. -/
def parse (text : String) : Except SettingsError Settings :=
  match parse? text with
  | some s => .ok s
  | none => .error .malformed

/-- The settings in the file at a path, given what reading it came to. -/
def load (path : String) (content : Except Files.Fault String) : Except SettingsError Settings :=
  match content with
  | .error fault => .error (.unreadable path fault)
  | .ok text =>
    (parse text).map fun s =>
      match Files.parent? path with
      | some directory => { s with flowDirectory := Files.join directory s.flowDirectory }
      | none => s

/-- Where the settings of a directory may be: in it and in those above it. -/
def candidates (directory : String) : List String :=
  (Files.ancestors directory).map fun d => Files.join d fileName

/-- The first place at which there is a settings file. -/
def find? (isThere : String → Bool) (directory : String) : Option String :=
  (candidates directory).find? isThere

end Settings

end FlowTree

import FlowTree.Text.Search

/-! # File paths

A path is a text with slashes between its components. Repeated and trailing slashes separate nothing, and a
single dot leads nowhere else. -/

namespace FlowTree.Files

/-- The texts between slashes. -/
def components (path : String) : List String :=
  Text.split "/" path

def isAbsolute (path : String) : Bool :=
  Text.startsWith path "/"

/-- A path as seen from a base. An absolute path stays as it is. -/
def join (base path : String) : String :=
  if isAbsolute path || base.isEmpty then path
  else if Text.endsWith base "/" then base ++ path
  else base ++ "/" ++ path

/-- A component that leads nowhere else. -/
def isIdle (component : String) : Bool :=
  component = "" || component = "."

/-- Components without the idle ones at the end. -/
def trimIdle (components : List String) : List String :=
  (components.reverse.dropWhile isIdle).reverse

/-- The path without its last component; none if it has none. Idle components count only at the beginning. -/
def parent? (path : String) : Option String :=
  match components path with
  | [] => none
  | first :: rest =>
    match trimIdle rest with
    | [] => if first = "" then none else some ""
    | named =>
      let above := trimIdle named.dropLast
      some (if first = "" ∧ above = [] then "/" else Text.join "/" (first :: above))

/-- A path and those above it, the nearest first. `fuel` bounds their number. -/
def ancestorsFrom : (fuel : Nat) → String → List String
  | 0, _ => []
  | fuel + 1, path =>
    path ::
      match parent? path with
      | some above => ancestorsFrom fuel above
      | none => []

/-- A path and those above it, the nearest first. -/
def ancestors (path : String) : List String :=
  ancestorsFrom (path.length + 1) path

end FlowTree.Files

import FlowTree.Files.Path
import FlowTree.Json.Fields
import FlowTree.Text.Utf8

/-! # File trees

A directory with its files and further directories, as it is at one time. Looking up a path fails as a
file system does. -/

namespace FlowTree.Files

/-- Why a file cannot be read. -/
inductive Fault where
  | notFound
  | notDirectory
  | isDirectory
  | nameTooLong
  | other (message : String)
  deriving DecidableEq

def Fault.message : Fault → String
  | notFound => "No such file or directory (os error 2)"
  | notDirectory => "Not a directory (os error 20)"
  | isDirectory => "Is a directory (os error 21)"
  | nameTooLong => "File name too long (os error 36)"
  | other message => message

/-- A file or a directory. -/
inductive Tree where
  | file (content : String)
  | directory (entries : List (String × Tree))
  deriving Inhabited

namespace Tree

/-- The longest name of a file, in bytes. -/
def maxName : Nat := 255

/-- Looks up components from a tree. `above` holds the directories on the way, the nearest first. -/
def lookupFrom (above : List Tree) : Tree → List String → Except Fault Tree
  | tree, [] => .ok tree
  | .file _, _ :: _ => .error .notDirectory
  | .directory entries, name :: rest =>
    if isIdle name then lookupFrom above (.directory entries) rest
    else if name = ".." then
      match above with
      | [] => .error .notFound
      | parent :: above => lookupFrom above parent rest
    else if maxName < Text.byteLength name.toList then .error .nameTooLong
    else
      match Fields.get? entries name with
      | none => .error .notFound
      | some tree => lookupFrom (.directory entries :: above) tree rest
termination_by structural _ components => components

/-- The file or directory at a path inside a directory. -/
def lookup (tree : Tree) (path : String) : Except Fault Tree :=
  if path.isEmpty ∨ isAbsolute path then .error .notFound
  else lookupFrom [] tree (components path)

/-- The content of the file at a path inside a directory. -/
def read (tree : Tree) (path : String) : Except Fault String :=
  match tree.lookup path with
  | .ok (.file content) => .ok content
  | .ok (.directory _) => .error .isDirectory
  | .error e => .error e

/-- Something is found at a path. -/
def contains (tree : Tree) (path : String) : Bool :=
  (tree.lookup path).isOk

/-- The entries of a directory; none for a file. -/
def entries : Tree → Fields Tree
  | .file _ => []
  | .directory entries => entries

/-- Puts a tree at a path, with the directories that lead to it. -/
def put (leaf : Tree) : List String → Tree → Tree
  | [], _ => leaf
  | name :: rest, tree =>
    let entries := tree.entries
    .directory (entries.insert name (put leaf rest ((Fields.get? entries name).getD (.directory []))))

/-- Takes away what is at a path. -/
def remove : List String → Tree → Tree
  | [], tree => tree
  | [name], tree => .directory (tree.entries.filter (·.1 ≠ name))
  | name :: rest, tree =>
    match Fields.get? tree.entries name with
    | some child => .directory (tree.entries.insert name (remove rest child))
    | none => tree

/-- The components of a path that name something. -/
def names (path : String) : List String :=
  (components path).filter fun name => !isIdle name

/-- Writes a file, with the directories that lead to it. -/
def write (tree : Tree) (path content : String) : Tree :=
  put (.file content) (names path) tree

/-- Makes a directory, with those that lead to it, unless it is there. -/
def makeDirectory (tree : Tree) (path : String) : Tree :=
  if tree.contains path then tree else put (.directory []) (names path) tree

/-- Takes away the file or directory at a path. -/
def delete (tree : Tree) (path : String) : Tree :=
  remove (names path) tree

end Tree

end FlowTree.Files

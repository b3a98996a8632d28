import FlowTree.Files.Tree
import FlowTree.Flow.Basic

/-! # The flow store

Flows lie in a directory: one directory for every tenant, and in it one file for every flow. Names that are
not plain never reach the file system. -/

namespace FlowTree.Server

/-- Why a flow cannot be loaded. -/
inductive StoreError where
  | unreadable (path : String) (fault : Files.Fault)
  | malformed (path : String) (e : FlowError)

def StoreError.message : StoreError → String
  | .unreadable path fault => "I/O error: " ++ path ++ ": " ++ fault.message
  | .malformed path e => "Flow error: " ++ path ++ ": " ++ e.message

/-- A name that may be part of a path: letters and digits of ASCII, hyphens and underscores. -/
def isPlainName (name : String) : Bool :=
  !name.isEmpty && name.toList.all fun c => c.isAlphanum || c = '-' || c = '_'

/-- The file of a flow, inside the directory of flows. -/
def flowPath (tenant slug : String) : String :=
  tenant ++ "/" ++ slug ++ ".json"

/-- The flow of a tenant as the directory holds it; none if there is no such file. `root` is where the
    directory lies. -/
def fetch (root : String) (files : Files.Tree) (tenant slug : String) :
    Except StoreError (Option Flow) :=
  if !isPlainName tenant || !isPlainName slug then .ok none
  else
    let path := Files.join root (flowPath tenant slug)
    match files.read (flowPath tenant slug) with
    | .error .notFound => .ok none
    | .error fault => .error (.unreadable path fault)
    | .ok source =>
      match Flow.parse source with
      | .ok flow => .ok (some flow)
      | .error e => .error (.malformed path e)

end FlowTree.Server

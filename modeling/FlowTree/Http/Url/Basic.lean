/-! # Addresses

An address in its parts, and the text of its normal form. -/

namespace FlowTree.Http

/-- An address in normal form. The host is empty where an address has a place for it and names none. -/
structure Url where
  scheme : String
  /-- User name and password. -/
  userInfo : Option (String × String) := none
  host : Option String := none
  port : Option Nat := none
  path : String
  query : Option String := none
  fragment : Option String := none

namespace Url

/-- The scheme of addresses in the file system. -/
def fileScheme : String := "file"

/-- The schemes of hosts that answer requests, with their default ports. -/
def defaultPorts : List (String × Nat) :=
  [("http", 80), ("https", 443), ("ws", 80), ("wss", 443), ("ftp", 21)]

/-- The address names a host. -/
def hasHost (u : Url) : Bool :=
  u.host.any fun h => !h.isEmpty

/-- What stands before the host. -/
def userText (u : Url) : String :=
  match u.userInfo with
  | some (user, password) => user ++ (if password.isEmpty then "" else ":" ++ password) ++ "@"
  | none => ""

/-- What stands between the scheme and the path. A path that begins with two slashes is kept from being
    read as a host. -/
def place (u : Url) : String :=
  match u.host, u.port with
  | some host, some port => "//" ++ u.userText ++ host ++ ":" ++ toString port
  | some host, none => "//" ++ u.userText ++ host
  | none, _ => if u.path.startsWith "//" then "/." else ""

/-- The address without its fragment. -/
def target (u : Url) : String :=
  u.scheme ++ ":" ++ u.place ++ u.path ++
    match u.query with
    | some q => "?" ++ q
    | none => ""

/-- The address in normal form. -/
def toText (u : Url) : String :=
  u.target ++
    match u.fragment with
    | some f => "#" ++ f
    | none => ""

end Url

end FlowTree.Http

import FlowTree.Http.Host
import FlowTree.Http.Url.Basic
import FlowTree.Http.Url.Path

/-! # Reading addresses

An address is read into its normal form: scheme and host in lower case, no default port, no dots as path
segments, and escapes where they are needed. Schemes of hosts and files take backslashes for slashes;
others keep them. -/

namespace FlowTree.Http.Url

/-- The scheme is one of hosts that answer requests, or of files. -/
def isSpecial (scheme : String) : Bool :=
  scheme = fileScheme || (defaultPorts.lookup scheme).isSome

/-- The characters of a scheme. -/
def isSchemeChar (c : Char) : Bool :=
  c.isAlphanum || c = '+' || c = '-' || c = '.'

/-- The scheme before the first colon, in lower case, and what follows the colon. -/
def scheme? (cs : List Char) : Option (String × List Char) :=
  match cs.takeWhile isSchemeChar, cs.dropWhile isSchemeChar with
  | c :: scheme, ':' :: rest =>
    if c.isAlpha then some (String.ofList ((c :: scheme).map Char.toLower), rest) else none
  | _, _ => none

/-- The parts of a text before and after the first occurrence of a character, if there is one. -/
def breakAt (sep : Char) (cs : List Char) : List Char × Option (List Char) :=
  match Text.cut? [sep] cs with
  | some (before, after) => (before, some after)
  | none => (cs, none)

/-- What is escaped in a query. -/
def querySet : List Char := [' ', '"', '#', '<', '>']

/-- What is escaped in a user name or password. -/
def userSet : List Char := pathSet ++ "/:;=@[\\]^|".toList

/-- An address up to its query, with the query and the fragment in normal form. -/
structure Cut where
  before : List Char
  query : Option String
  fragment : Option String

/-- Cuts off the query and the fragment. -/
def cut (special : Bool) (cs : List Char) : Cut :=
  let (cs, fragment) := breakAt '#' cs
  let (cs, query) := breakAt '?' cs
  let querySet := if special then '\'' :: querySet else querySet
  ⟨cs, query.map fun q => String.ofList (escape querySet q),
    fragment.map fun f => String.ofList (escape fragmentSet f)⟩

/-- The user name and password that stand before an `@`. -/
def userOf (cs : List Char) : Option (String × String) :=
  let (user, password) := breakAt ':' cs
  let write (cs : List Char) : String := String.ofList (escape userSet cs)
  let password := password.getD []
  if user = [] ∧ password = [] then none else some (write user, write password)

/-- The parts of a text before and after the last `@`, if there is one. -/
def splitUser (cs : List Char) : Option (List Char) × List Char :=
  match breakAt '@' cs.reverse with
  | (_, none) => (none, cs)
  | (after, some before) => (some before.reverse, after.reverse)

/-- A character that no host may hold outside the schemes of hosts and files. -/
def isForbiddenInOpaqueHost (c : Char) : Bool :=
  c = '\x00' || " \t\n\r#/:<>?@[\\]^|".toList.contains c

/-- The host of a scheme other than those of hosts and files; its characters have no meaning. -/
def opaqueHost? (cs : List Char) : Option String :=
  if cs.head? = some '[' then host? cs
  else if cs.any isForbiddenInOpaqueHost then none
  else some (String.ofList (escape [] cs))

/-- A host, the port after it that is not the default one, and what follows them. -/
def hostAndPort? (scheme : String) (cs : List Char) : Option (String × Option Nat × List Char) := do
  -- the colons of an address in brackets begin no port
  let inBrackets := if cs.head? = some '[' then cs.takeWhile (· ≠ ']') else []
  let rest := cs.drop inBrackets.length
  let body := inBrackets ++ rest.takeWhile (· ≠ ':')
  guard (body ≠ [])
  let host ← if isSpecial scheme then host? body else opaqueHost? body
  match rest.dropWhile (· ≠ ':') with
  | [] => return (host, none, [])
  | _ :: rest =>
    let digits := rest.takeWhile Char.isDigit
    let rest := rest.dropWhile Char.isDigit
    let port := Decimal.ofDigits digits
    if 65535 < port ∨ (rest ≠ [] ∧ rest.head? ≠ some '\\') then none
    else if digits = [] ∨ defaultPorts.lookup scheme = some port then return (host, none, rest)
    else return (host, some port, rest)

/-- The segments of what follows a host. -/
def segmentsAfterHost (special : Bool) : List Char → List (List Char)
  | '/' :: rest => splitAt '/' rest
  | [] => if special then [[]] else []
  | rest => splitAt '/' rest

/-- The address of which `cs` begins with a user, a host and a port. Only outside the schemes of hosts may
    the host be empty, and then nothing may stand before it, and nothing follow an `@` that stands alone. -/
def ofHost? (scheme : String) (cut : Cut) (cs : List Char) : Option Url := do
  let (user, place) := splitUser (cs.takeWhile (· ≠ '/'))
  let info := user.bind userOf
  let rest := cs.dropWhile (· ≠ '/')
  let special := isSpecial scheme
  if place = [] then
    let goesOn := rest ≠ [] ∨ cut.query.isSome ∨ cut.fragment.isSome
    if special ∨ info.isSome ∨ (user = some [] ∧ goesOn) then none
    else return { scheme, host := some "", path := Path.ofSegments (segmentsAfterHost false rest),
                  query := cut.query, fragment := cut.fragment }
  else
    let (host, port, before) ← hostAndPort? scheme place
    return { scheme, userInfo := info, host := some host, port,
             path := Path.ofSegments (segmentsAfterHost special (before ++ rest)),
             query := cut.query, fragment := cut.fragment }

/-- The address of a file. A host that is this one is left out, as is one before a drive letter. -/
def ofFile? (cut : Cut) (cs : List Char) : Option Url := do
  let file (host : String) (segments : List (List Char)) : Url :=
    { scheme := fileScheme, host := some host, path := Path.ofFileSegments segments,
      query := cut.query, fragment := cut.fragment }
  match cs with
  | '/' :: '/' :: cs =>
    let name := cs.takeWhile (· ≠ '/')
    let rest := cs.dropWhile (· ≠ '/')
    if Path.isDrive name then return file "" (splitAt '/' cs)
    else if name = [] then return file "" (splitAt '/' rest)
    else
      let host ← host? name
      let segments := splitAt '/' (rest.drop 1)
      if host = "localhost" then return file "" (splitAt '/' rest)
      else if segments.head?.any Path.isDrive then return file "" segments
      else return file host segments
  | '/' :: cs | cs => return file "" (splitAt '/' cs)

/-- Control characters and blanks, which are dropped at both ends of an address. -/
def isEdge (c : Char) : Bool :=
  c.toNat ≤ 0x20

/-- The address that a text writes; none if it writes none. -/
def parse? (text : String) : Option Url := do
  let cs := ((text.toList.dropWhile isEdge).reverse.dropWhile isEdge).reverse
  let cs := cs.filter fun c => c ≠ '\t' ∧ c ≠ '\n' ∧ c ≠ '\r'
  let (scheme, rest) ← scheme? cs
  let special := isSpecial scheme
  let cut := cut special rest
  if special then
    let cs := cut.before.map fun c => if c = '\\' then '/' else c
    if scheme = fileScheme then ofFile? cut cs else ofHost? scheme cut (cs.dropWhile (· = '/'))
  else
    match cut.before with
    | '/' :: '/' :: rest => ofHost? scheme cut rest
    | '/' :: rest =>
      return { scheme, path := Path.ofSegments (splitAt '/' rest), query := cut.query,
               fragment := cut.fragment }
    | rest =>
      return { scheme, path := String.ofList (escape [] rest), query := cut.query,
               fragment := cut.fragment }

end FlowTree.Http.Url

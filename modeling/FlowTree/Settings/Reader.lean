import FlowTree.Settings.Basic
import FlowTree.Toml.Reader

/-! # Reading settings

Settings are written in TOML, in sections. What is not given has its default, and what is not known is
passed over; a value of the wrong type is refused. A section may also be an array of its values in order. -/

namespace FlowTree

namespace Settings

open Toml

/-- A section: the value with a name, or at a place. -/
abbrev Section := String → Nat → Option Value

/-- The section that a value writes. A date holds none of the names. -/
def section? : Option Value → Option Section
  | none | some .datetime => some fun _ _ => none
  | some (.table fields) => some fun name _ => Fields.get? fields name
  | some (.array items) => some fun _ place => items[place]?
  | some _ => none

/-- A text, or the default. -/
def text? (default : String) : Option Value → Option String
  | none => some default
  | some (.string s) => some s
  | some _ => none

/-- A natural number up to a bound, or the default. -/
def natural? (bound default : Nat) : Option Value → Option Nat
  | none => some default
  | some (.integer n) => if 0 ≤ n ∧ n ≤ bound then some n.toNat else none
  | some _ => none

/-- The settings of text generation. -/
def openai? (s : Section) : Option OpenAi := do
  let d : OpenAi := {}
  return ⟨← text? d.keyVariable (s "api_key_env" 0), ← text? d.baseUrl (s "base_url" 1),
    ← text? d.model (s "model" 2)⟩

/-- The settings of email. -/
def resend? (s : Section) : Option Resend := do
  let d : Resend := {}
  return ⟨← text? d.keyVariable (s "api_key_env" 0), ← text? d.baseUrl (s "base_url" 1)⟩

/-- The settings in a table. -/
def ofTable? (table : Fields Value) : Option Settings := do
  let d : Settings := {}
  let server ← section? (table.get? "server")
  let flows ← section? (table.get? "flows")
  let http ← section? (table.get? "http")
  let providers ← section? (table.get? "providers")
  return {
    host := ← text? d.host (server "host" 0)
    port := ← natural? 65535 d.port (server "port" 1)
    requestTimeout := ← natural? greatestUnsigned64 d.requestTimeout (server "request_timeout_secs" 2)
    flowDirectory := ← text? d.flowDirectory (flows "dir" 0)
    cacheTtl := ← natural? greatestUnsigned64 d.cacheTtl (flows "cache_ttl_secs" 1)
    httpTimeout := ← natural? greatestUnsigned64 d.httpTimeout (http "timeout_secs" 0)
    openai := ← openai? (← section? (providers "openai" 0))
    resend := ← resend? (← section? (providers "resend" 1)) }

/-- The settings that a text writes. -/
def parse? (text : String) : Option Settings :=
  (Toml.read? text).bind ofTable?

end Settings

end FlowTree

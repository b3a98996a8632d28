import FlowTree.Json.Basic
import FlowTree.Text.Blank

/-! # Settings

How a host serves flows and reaches the outside services. Every setting has a default. -/

namespace FlowTree

/-- How texts are generated. -/
structure OpenAi where
  /-- The environment variable that holds the key. -/
  keyVariable : String := "OPENAI_API_KEY"
  baseUrl : String := "https://api.openai.com/v1"
  model : String := "gpt-5-nano"

/-- How email is sent. -/
structure Resend where
  /-- The environment variable that holds the key. -/
  keyVariable : String := "RESEND_API_KEY"
  baseUrl : String := "https://api.resend.com"

/-- The settings of a host. Times are in seconds. -/
structure Settings where
  host : String := "0.0.0.0"
  port : Nat := 3000
  requestTimeout : Nat := 30
  flowDirectory : String := "flows"
  cacheTtl : Nat := 60
  httpTimeout : Nat := 30
  openai : OpenAi := {}
  resend : Resend := {}

/-- Environment variables. -/
abbrev Environment := Fields String

/-- The key that a variable holds; a blank one is none. -/
def Environment.key? (e : Environment) (name : String) : Option String :=
  if name.isEmpty then none
  else (Fields.get? e name).filter fun value => !Text.isBlankText value

/-- The settings as JSON, section by section. -/
def Settings.toJson (s : Settings) : Json :=
  .obj [
    ("server", .obj [("host", .str s.host), ("port", .ofNat s.port),
      ("request_timeout_secs", .ofNat s.requestTimeout)]),
    ("flows", .obj [("dir", .str s.flowDirectory), ("cache_ttl_secs", .ofNat s.cacheTtl)]),
    ("http", .obj [("timeout_secs", .ofNat s.httpTimeout)]),
    ("providers", .obj [
      ("openai", .obj [("api_key_env", .str s.openai.keyVariable), ("base_url", .str s.openai.baseUrl),
        ("model", .str s.openai.model)]),
      ("resend", .obj [("api_key_env", .str s.resend.keyVariable),
        ("base_url", .str s.resend.baseUrl)])])]

end FlowTree

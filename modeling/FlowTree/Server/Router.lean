import FlowTree.Block.Respond
import FlowTree.Run.Walk
import FlowTree.Server.Cache

/-! # Serving requests

A host answers requests to `/api/` and a slug by running the flow of that slug. The first label of the
`Host` header names the tenant that the flow belongs to. -/

namespace FlowTree.Server

/-- A request as it arrives: the target is a path with perhaps a query. -/
structure Incoming where
  method : String
  target : String
  headers : List (String × String)
  body : List UInt8

/-- What is sent back. -/
structure Reply where
  status : Nat
  contentType : Option String
  body : String

namespace Reply

def json (status : Nat) (value : Json) : Reply :=
  ⟨status, some "application/json", value.compact⟩

def text (status : Nat) (s : String) : Reply :=
  ⟨status, some "text/plain; charset=utf-8", s⟩

/-- A reply that carries nothing. -/
def empty (status : Nat) : Reply :=
  ⟨status, none, ""⟩

end Reply

/-- Why a request is not answered by a flow. Times are in milliseconds. -/
inductive ApiError where
  | notFound (slug tenant : String)
  | missingHost
  | noTenant
  | store (e : StoreError)
  | timeout (limit : Nat)
  | noResponse (e : Option ServiceError)

/-- A number of milliseconds as text, in seconds if it is at least one. -/
def durationText (ms : Nat) : String :=
  if ms = 0 then "0ns"
  else if ms < 1000 then toString ms ++ "ms"
  else
    let fraction := (Decimal.digitChars (1000 + ms % 1000)).drop 1
    let fraction := (fraction.reverse.dropWhile (· = '0')).reverse
    toString (ms / 1000) ++ (if fraction = [] then "" else "." ++ String.ofList fraction) ++ "s"

namespace ApiError

def status : ApiError → Nat
  | notFound _ _ => 404
  | missingHost | noTenant => 400
  | store _ => 500
  | timeout _ => 504
  | noResponse _ => 502

def code : ApiError → String
  | notFound _ _ => "not_found"
  | missingHost | noTenant => "bad_request"
  | store _ => "flow_error"
  | timeout _ => "timeout"
  | noResponse (some e) => e.code.getD e.kind
  | noResponse none => "no_response"

def message : ApiError → String
  | notFound slug tenant => "no flow '" ++ slug ++ "' for '" ++ tenant ++ "'"
  | missingHost => "missing Host header"
  | noTenant => "no tenant in Host header"
  | store e => e.message
  | timeout limit => "Flow did not respond within " ++ durationText limit
  | noResponse (some e) => e.message
  | noResponse none => "Flow finished without sending a response"

/-- The answer that tells of the error. -/
def reply (a : Ambient) (e : ApiError) : Reply :=
  .json e.status (errorEnvelope a e.status (.str e.code) e.message)

end ApiError

/-- The value of a header as text. Values with other than visible characters of ASCII, blanks and tabs do
    not read as text. -/
def headerText? (value : String) : Option String :=
  if value.toList.all fun c => c = '\t' || (0x20 ≤ c.toNat && c.toNat < 0x7F) then some value else none

/-- The name of a header in lower case. -/
def headerName (name : String) : String :=
  String.ofList (name.toList.map Char.toLower)

/-- The first label of a host: what stands before the first colon and the first dot, without blanks around
    it. -/
def hostLabel (host : String) : String :=
  let name := host.toList.takeWhile (· ≠ ':')
  String.ofList (Text.trimChars (name.takeWhile (· ≠ '.')))

/-- The tenant that a host belongs to. -/
def tenantOf (host : String) : Except ApiError String :=
  let label := hostLabel host
  if label.isEmpty then .error .missingHost
  else
    let label := Text.lower label
    if label = "www" then .error .noTenant else .ok label

/-- The tenant that a request is meant for, by its first `Host` header. -/
def tenant (r : Incoming) : Except ApiError String :=
  let host := r.headers.find? fun (name, _) => headerName name = "host"
  tenantOf ((host.bind fun (_, value) => headerText? value).getD "")

/-- A part of a query, in which a plus sign stands for a blank. -/
def queryText (cs : List Char) : String :=
  let cs := cs.map fun c => if c = '+' then ' ' else c
  Text.ofBytes (Http.unescape (Text.toBytes (String.ofList cs)))

/-- The parameters that a query gives, sorted by name; of one name the last counts. -/
def queryFields (query : List Char) : Fields String :=
  ((Text.splitChars ['&'] query).filter (· ≠ [])).foldl
    (fun fields part =>
      let name := part.takeWhile (· ≠ '=')
      fields.insertSorted (queryText name) (queryText (part.drop (name.length + 1))))
    []

/-- The body of a request: nothing, JSON, or else text. -/
def bodyValue (bytes : List UInt8) : Json :=
  if bytes = [] then .null
  else
    match (Text.ofBytes? bytes).bind fun text => (Json.read text).toOption with
    | some value => value
    | none => .str (Text.ofBytes bytes)

/-- The request that a flow sees. -/
def requestOf (r : Incoming) (slug : String) (query : List Char) : Request :=
  let base := Request.new r.method ("/api/" ++ slug)
  let request := r.headers.foldl
    (fun request (name, value) =>
      match headerText? value with
      | some value => request.withHeader name value
      | none => request)
    base
  { request with query := queryFields query, body := bodyValue r.body }

/-- What a request asks for. -/
inductive Route where
  | flow (slug : List Char) (query : List Char)
  | health
  | unknown

/-- A target without scheme and authority. -/
def originForm (target : List Char) : List Char :=
  match (Text.after? "http://".toList target).or (Text.after? "https://".toList target) with
  | some rest => rest.dropWhile fun c => c ≠ '/' ∧ c ≠ '?' ∧ c ≠ '#'
  | none => target

/-- The route of a target. A slug is one segment of a path. -/
def route (target : String) : Route :=
  let target := (originForm target.toList).takeWhile (· ≠ '#')
  let path := target.takeWhile (· ≠ '?')
  let query := target.drop (path.length + 1)
  if path = "/health".toList then .health
  else
    match Text.after? "/api/".toList path with
    | some slug => if slug = [] ∨ '/' ∈ slug then .unknown else .flow slug query
    | none => .unknown

/-- A host: its blocks, its flows and its limits. Times are in milliseconds. -/
structure Host where
  ambient : Ambient
  registry : Registry
  exchange : Http.Exchange
  root : String
  files : Files.Tree
  cache : Cache
  timeout : Nat

/-- The status that an answer is sent with: the one that was asked for, if it is one. -/
def sentStatus (status : Nat) : Nat :=
  if 100 ≤ status ∧ status ≤ 999 then status else 500

/-- The answer of a run that is over. -/
def answerOf (ambient : Ambient) (limit : Nat) (run : Run) : Reply :=
  if run.session.exchange.expired then (ApiError.timeout limit).reply ambient
  else
    match run.session.response with
    | some ⟨status, .json value⟩ => .json (sentStatus status) value
    | some ⟨status, .text s⟩ => .text (sentStatus status) s
    | none => (ApiError.noResponse run.session.context.lastError).reply ambient

/-- Answers a request to a flow. -/
def Host.serveFlow (h : Host) (now : Nat) (r : Incoming) (slug : String) (query : List Char) :
    Reply × Host :=
  match tenant r with
  | .error e => (e.reply h.ambient, h)
  | .ok tenant =>
    let (fetched, cache) := h.cache.fetch now (fetch h.root h.files tenant slug) (tenant, slug)
    let h := { h with cache }
    match fetched with
    | .error e => ((ApiError.store e).reply h.ambient, h)
    | .ok none => ((ApiError.notFound slug tenant).reply h.ambient, h)
    | .ok (some flow) =>
      let exchange := { h.exchange with remaining := some h.timeout, expired := false }
      let run := execute h.registry exchange flow (requestOf r slug query)
      (answerOf h.ambient h.timeout run, { h with exchange := run.session.exchange })

/-- Answers a request, apart from the rules that hold for its method. -/
def Host.serveRoute (h : Host) (now : Nat) (r : Incoming) : Reply × Host :=
  match route r.target with
  | .unknown => (.empty 404, h)
  | .health => (if r.method = "GET" ∨ r.method = "HEAD" then .text 200 "ok" else .empty 405, h)
  | .flow slug query =>
    match Text.ofBytes? (Http.unescape (Text.toBytes (String.ofList slug))) with
    | some slug => h.serveFlow now r slug query
    | none => (.text 400 "Invalid URL: Invalid UTF-8 in `slug`", h)

/-- Answers a request. A request for options concerns no flow, and one for headers gets no body. -/
def Host.serve (h : Host) (now : Nat) (r : Incoming) : Reply × Host :=
  if r.method = "OPTIONS" then (.empty 200, h)
  else
    let (reply, h) := h.serveRoute now r
    (if r.method = "HEAD" then { reply with body := "" } else reply, h)

end FlowTree.Server

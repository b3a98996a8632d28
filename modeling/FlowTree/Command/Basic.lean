import FlowTree.Run.Walk
import FlowTree.Settings.Location

/-! # Commands

What the command line can do: run a flow for a made-up request, fill a template, evaluate an expression, and
list the helpers and the kinds of nodes. A command gives two texts and an exit code. -/

namespace FlowTree

namespace Command

/-- How a flow is run. -/
structure RunOptions where
  flow : String
  method : String := "GET"
  path : String := "/"
  /-- Query parameters, each a name and a value with an equals sign between them. -/
  query : List String := []
  /-- Headers, in the same form. -/
  headers : List String := []
  body : Option String := none
  dumpContext : Bool := false

/-- What is to be done. -/
inductive Action where
  | run (options : RunOptions)
  | template (text : String) (context : Option String)
  | eval (expression : String)
  | helpers
  | blocks

/-- A command with the options that all commands have. -/
structure Invocation where
  settings : Option String := none
  verbose : Bool := false
  action : Action

/-- What a command gives. -/
structure Output where
  code : Nat := 0
  out : String := ""
  err : String := ""

/-- What a command uses. -/
structure Surroundings where
  ambient : Ambient
  environment : Environment
  peer : Http.Peer
  /-- Reads a file. -/
  read : String → Except Files.Fault String
  /-- The settings file of the working directory, if there is one in it or above it. -/
  nearestSettings : Option String

/-- Why a command fails. -/
inductive Error where
  | settings (e : SettingsError)
  | unreadableFlow (path : String) (fault : Files.Fault)
  | invalidFlow (path : String) (e : FlowError)
  | noPair (text : String)
  | invalidBody (e : Json.ReadError)
  | invalidContext (e : Json.ReadError)
  | contextNotObject (value : Json)
  | expression (e : Expr.TextError)
  | noResponse (e : Option ServiceError)

def Error.message : Error → String
  | settings e => e.message
  | unreadableFlow path fault => "failed to read " ++ path ++ ": " ++ fault.message
  | invalidFlow path e => path ++ ": " ++ e.message
  | noPair text => "expected KEY=VALUE, got '" ++ text ++ "'"
  | invalidBody e => "--body is not valid JSON: " ++ e.message
  | invalidContext e => "--context is not valid JSON: " ++ e.message
  | contextNotObject value => "--context must be a JSON object, got " ++ value.compact
  | expression e => e.message
  | noResponse (some e) => "flow finished without a response: " ++ e.line
  | noResponse none => "flow finished without a response"

/-- A text as a line. -/
def line (s : String) : String := s ++ "\n"

/-- The output of a command that fails. -/
def Error.output (e : Error) (err : String) : Output :=
  { code := 1, err := err ++ line ("error: " ++ e.message) }

/-- The name and the value that a text gives. -/
def pair (text : String) : Except Error (String × String) :=
  match Text.cut? ['='] text.toList with
  | some (name, value) =>
    let name := String.ofList (Text.trimChars name)
    if name.isEmpty then .error (.noPair text) else .ok (name, String.ofList value)
  | none => .error (.noPair text)

/-- The request that the options describe. -/
def RunOptions.request (o : RunOptions) : Except Error Request := do
  let query ← o.query.mapM pair
  let headers ← o.headers.mapM pair
  let r := query.foldl (fun r (name, value) => r.withQuery name value) (Request.new o.method o.path)
  let r := headers.foldl (fun r (name, value) => r.withHeader name value) r
  match o.body with
  | none => return r
  | some text =>
    match Json.read text with
    | .ok body => return r.withBody body
    | .error e => .error (.invalidBody e)

/-- The settings in the given file, or else in the nearest one; without a file, the defaults. -/
def loadSettings (s : Surroundings) (path : Option String) : Except Error Settings :=
  match path.or s.nearestSettings with
  | some path => (Settings.load path (s.read path)).mapError .settings
  | none => .ok {}

/-- The flow in a file. -/
def loadFlow (s : Surroundings) (path : String) : Except Error Flow :=
  match s.read path with
  | .error fault => .error (.unreadableFlow path fault)
  | .ok source => (Flow.parse source).mapError (.invalidFlow path)

/-- What nodes may use under the given settings. -/
def services (s : Surroundings) (settings : Settings) : Services :=
  ⟨s.ambient, s.environment, settings.openai, settings.resend⟩

/-- A response as it is shown. -/
def responseText (r : Response) : String :=
  let body : Json := match r.body with
    | .json value => value
    | .text text => .str text
  Json.pretty (.obj [("status", .ofNat r.status), ("body", body)])

/-- The outputs of a run, one a line. -/
def outputLines (outputs : List Json) : String :=
  String.join (outputs.zipIdx.map fun (output, i) =>
    line ("[output " ++ toString i ++ "] " ++ output.compact))

/-- Runs a flow and shows its response. -/
def run (s : Surroundings) (settings : Option String) (verbose : Bool) (o : RunOptions) :
    Except Error Output := do
  let settings ← loadSettings s settings
  let flow ← loadFlow s o.flow
  let request ← o.request
  let exchange : Http.Exchange := { peer := s.peer, patience := settings.httpTimeout * 1000 }
  let run := execute (Registry.standard (services s settings)) exchange flow request
  let context := run.session.context
  let err := (if verbose then outputLines run.outputs else "") ++
    (if o.dumpContext then line context.snapshot.pretty else "")
  match run.session.response with
  | some response => return { out := line (responseText response), err }
  | none => return (Error.noResponse context.lastError).output err

/-- The variables that a text gives. -/
def variablesOf : Option String → Except Error (Fields Json)
  | none => .ok []
  | some text =>
    match Json.read text with
    | .error e => .error (.invalidContext e)
    | .ok (.obj fields) => .ok fields
    | .ok value => .error (.contextNotObject value)

/-- Fills a template from variables alone. -/
def template (s : Surroundings) (text : String) (context : Option String) : Except Error Output := do
  let vars ← variablesOf context
  let c := { Context.new (.ofNode (.new "root" "start")) with vars }
  return { out := line (Template.fill s.ambient c text) }

/-- Evaluates an expression. -/
def eval (expression : String) : Except Error Output :=
  match Expr.evalText expression with
  | .ok value => .ok { out := line value.compact }
  | .error e => .error (.expression e)

/-- What an invocation gives. -/
def Invocation.perform (s : Surroundings) (i : Invocation) : Output :=
  let result : Except Error Output := match i.action with
    | .run o => run s i.settings i.verbose o
    | .template text context => template s text context
    | .eval expression => eval expression
    | .helpers => .ok { out := String.join (Helper.all.map fun h => line h.name) }
    | .blocks => do
      let settings ← loadSettings s i.settings
      let registry := Registry.standard (services s settings)
      return { out := String.join (registry.kinds.map line) }
  match result with
  | .ok output => output
  | .error e => e.output ""

end Command

end FlowTree

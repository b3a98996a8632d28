import FlowTree.Flow.Basic
import FlowTree.State.Request

/-! # The context of a run

What the nodes of a running flow read and write. The request is taken in once, on initialisation, which
also copies the parameters, the request, the endpoint and the flow among the variables. -/

namespace FlowTree

/-- The failure of an outside service. -/
structure ServiceError where
  source : String
  kind : String
  code : Option String
  message : String
  status : Option Nat

namespace ServiceError

def toJson (e : ServiceError) : Json :=
  .obj [("source", .str e.source), ("type", .str e.kind), ("code", (e.code.map .str).getD .null),
    ("message", .str e.message), ("status", (e.status.map Json.ofNat).getD .null)]

/-- The failure as one line. -/
def line (e : ServiceError) : String :=
  e.source ++ " " ++ e.kind ++
    (match e.status with
      | some status => " (" ++ toString status ++ ")"
      | none => "") ++
    ": " ++ e.message

end ServiceError

/-- The state of a running flow. -/
structure Context where
  flow : Flow
  vars : Fields Json := []
  locals : Fields Json := []
  results : Fields Json := []
  params : Fields Json := []
  endpoint : Json := .null
  /-- The request that the context was initialised with. -/
  request : Option Request := none
  lastDecision : Option Bool := none
  lastError : Option ServiceError := none

/-- A root of paths: named values or one value. -/
inductive Scope where
  | fields (fs : Fields Json)
  | value (j : Json)

def Scope.toJson : Scope → Json
  | fields fs => .obj fs
  | value j => j

namespace Context

/-- The context of a flow that has not begun. -/
def new (flow : Flow) : Context :=
  { flow }

/-- The values of parameters that the request does not give. -/
def defaults (c : Context) : Fields Json :=
  c.flow.defaults

def isInitialized (c : Context) : Bool :=
  c.request.isSome

/-- The request as JSON; null before initialisation. -/
def requestJson (c : Context) : Json :=
  (c.request.map Request.toJson).getD .null

/-- The last failure as JSON; null if there was none. -/
def errorJson (c : Context) : Json :=
  (c.lastError.map ServiceError.toJson).getD .null

/-- The parameters of a run: the declared defaults, and over them what the request gives. -/
def paramsOf (flow : Flow) (request : Request) : Fields Json :=
  flow.defaults.insertAll (request.query.map fun (k, v) => (k, .str v))

/-- The endpoint that a flow declares. -/
def endpointOf (flow : Flow) : Json :=
  .obj [("slug", .str flow.slug), ("queryParams", .arr (flow.queryParams.map QueryParam.toJson))]

/-- Takes in the request, unless one was taken in before. -/
def receive (c : Context) (request : Request) : Context :=
  if c.isInitialized then c
  else
    let params := paramsOf c.flow request
    let endpoint := endpointOf c.flow
    { c with
      params
      endpoint
      request := some request
      vars := (c.vars.insertAll params).insertAll
        [("params", .obj params), ("req", request.toJson), ("endpoint", endpoint),
          ("flow", c.flow.json)] }

def setLocal (c : Context) (name : String) (value : Json) : Context :=
  { c with locals := c.locals.insert name value }

def setVariable (c : Context) (name : String) (value : Json) : Context :=
  { c with vars := c.vars.insert name value }

/-- Gives a name to a computed value, among the locals and among the results. -/
def assign (c : Context) (name : String) (value : Json) : Context :=
  { c with locals := c.locals.insert name value, results := c.results.insert name value }

/-- Replaces the endpoint and its copy among the variables. -/
def setEndpoint (c : Context) (endpoint : Json) : Context :=
  { c with vars := c.vars.insert "endpoint" endpoint, endpoint }

def recordDecision (c : Context) (decision : Bool) : Context :=
  { c with lastDecision := some decision }

def recordError (c : Context) (e : ServiceError) : Context :=
  { c with lastError := some e }

/-- The root that a reserved name stands for. -/
def scope? (c : Context) (name : String) : Option Scope :=
  if name = "local" then some (.fields c.locals)
  else if name = "params" then some (.fields c.params)
  else if name = "result" then some (.fields c.results)
  else if name = "variables" then some (.fields c.vars)
  else if name = "flow" then some (.value c.flow.json)
  else if name = "endpoint" then some (.value c.endpoint)
  else if name = "req" then some (.value c.requestJson)
  else if name = "error" then some (.value c.errorJson)
  else none

/-- Everything a run left behind, as one object: the variables without the flow, the other maps, and the
    last decision and the last failure if there were any. -/
def snapshot (c : Context) : Json :=
  let view : Fields Json := c.vars.insertAll
    [("local", .obj c.locals), ("result", .obj c.results), ("params", .obj c.params),
      ("endpoint", c.endpoint)]
  let view : Fields Json := view.swapRemove "flow"
  let view : Fields Json := match c.lastDecision with
    | some d => Fields.insert view "lastDecision" (.bool d)
    | none => view
  .obj (match c.lastError with
    | some e => Fields.insert view "error" e.toJson
    | none => view)

end Context

end FlowTree

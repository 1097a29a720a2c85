import ProductionStack.Python.Json
import ProductionStack.Python.Program
import ProductionStack.Python.Text
import ProductionStack.Stats.RequestStats

/-!
What the request service asks of the world around it: the clock, the stats
monitor, the metrics, the tracer, the backends, service discovery, the router,
and the consumer of a streamed response. Every await and every yield is an
event, so whatever may happen there is one of its answers.
-/

namespace ProductionStack.Request

open Lib Python Stats

abbrev Headers := List (String × String)

/-- `headers.get(name, default)` of a case-insensitive header table. -/
def header (headers : Headers) (name fallback : String) : String :=
  match headers.find? (fun entry => lower entry.1 = lower name) with
  | some entry => entry.2
  | none => fallback

/-- The fields of an `aiohttp.ClientTimeout` that the router reads. -/
structure ClientTimeout where
  sockConnect : Option ℚ
  sockRead : Option ℚ

structure EndpointInfo where
  url : String
  modelNames : List String
  id : String
  modelLabel : Option String
  sleep : Bool
  deriving DecidableEq

/-- A field of a multipart form. `shown` is what `str` makes of an uploaded file. -/
inductive FormValue where
  | text (value : String)
  | file (shown : String) (content : Bytes)

/-- A request body: the bytes received; what `json.dumps` made of a value, which
`json.loads` reads back as that value; or a multipart form, either as received
or rebuilt by the router. -/
inductive Body where
  | raw (bytes : Bytes)
  | dumped (value : Json)
  | multipart (received : Bool) (form : List (String × FormValue))

def Body.loads (limit : Nat) : Body → Except PyExc Json
  | .raw bytes => jsonLoads limit bytes
  | .dumped value => .ok value
  | .multipart true _ => .error (.new .jsonDecodeError "Expecting value")
  | .multipart false _ => .error (.new .typeError "the JSON object must be str, bytes or bytearray")

/-- How the stream of a response ends. -/
inductive Ending where
  | eof
  | raises (e : PyExc)

/-- A backend's response: what its headers say, the chunks it will deliver, how
its stream ends, and the reason phrase of its status. -/
structure BackendResponse where
  status : Nat
  headers : Headers
  chunks : List Bytes
  ending : Ending
  reason : String := ""

structure BackendRequest where
  method : String
  baseUrl : String
  path : String
  headers : Headers
  data : Body
  deadline : Option ℚ

/-- How waiting for the response headers ends. When the entry deadline is what
cancelled the wait, that is `deadline`; `interrupted` is a cancellation or close
from outside, and says whether the deadline had expired as well. -/
inductive Entry where
  | response (r : BackendResponse)
  | raised (e : PyExc)
  | deadline
  | interrupted (i : Interrupt) (expired : Bool)

/-- How a suspended coroutine goes on. -/
inductive Wake where
  | resumed
  | interrupted (i : Interrupt)
  deriving DecidableEq

/-- What reading the response stream gives next. -/
inductive Arrival where
  | chunk (bytes : Bytes)
  | ending (how : Ending)

/-- What a streaming generator hands to its consumer. -/
inductive Item where
  | head (headers : Headers) (status : Nat)
  | chunk (bytes : Bytes)
  deriving DecidableEq

inductive TerminalOutcome where
  | complete
  | fail
  | abort
  deriving DecidableEq, Repr

/-- The hook `on_request_{outcome}`. -/
def TerminalOutcome.hook (outcome : TerminalOutcome) (m : RequestStatsMonitor)
    (handle : RequestHandle) (t : ℚ) : Except MonitorError Unit × RequestStatsMonitor :=
  match outcome with
  | .complete => m.onRequestComplete handle t
  | .fail => m.onRequestFail handle t
  | .abort => m.onRequestAbort handle t

inductive Metric where
  | incomingRequests (model : Json)
  | requestErrors (server : String) (model : Json) (errorType : String)
  | inputTokens (server : String) (model : Json) (amount : Json)
  | outputTokens (server : String) (model : Json) (amount : Json)
  | requestLatency (server : String) (model : Json) (status : String) (seconds : ℚ)

inductive Content where
  | json (value : Json)
  | bytes (value : Bytes)

/-- A response that is not streamed. -/
structure PlainResponse where
  status : Nat
  content : Content
  headers : Headers

/-- The ways `aiohttp` reads a whole response body. -/
inductive BodyReader where
  | read
  | json
  | text

abbrev BodyReader.Result : BodyReader → Type
  | .read => Bytes
  | .json => Json
  | .text => String

/-- The fields of a JSON object, in order. -/
abbrev JsonObject := List (String × Json)

/-- The routing logics. The priority router writes the priority it resolved into
a field of the request body. -/
inductive RouterKind where
  | roundRobin
  | session
  | kvaware
  | loadaware
  | prefixaware
  | priority (field : String)
  | disaggregatedPrefill
  | disaggregatedPrefillOrchestrated
  deriving DecidableEq

/-- What routing a request may leave in its body. -/
def RouterKind.Updates : RouterKind → JsonObject → JsonObject → Prop
  | .priority field, json, json' => ∃ priority : Int, json' = upsert field (.int priority) json
  | _, json, json' => json' = json

/-- The two kinds of engines in a disaggregated deployment. -/
inductive ServingRole where
  | prefill
  | decode
  deriving DecidableEq

/-- `buildResponse` is Starlette rendering a response's content and encoding its
headers, which may raise; `takeIndex` reads a round-robin counter of the
orchestrated router and moves it on. -/
inductive Event where
  | time
  | onNewRequest (backendUrl requestId : String) (t : ℚ)
  | onRequestResponse (handle : RequestHandle) (t : ℚ)
  | finalize (outcome : TerminalOutcome) (handle : RequestHandle) (t : ℚ)
  | metric (m : Metric)
  | startSpan (name : String)
  | endSpan (span : Nat) (error : Option Raised) (status : Option Nat)
  | injectContext (headers : Headers) (span : Nat)
  | sendRequest (request : BackendRequest)
  | nextChunk (arrival : Arrival)
  | leaveResponse
  | readBody (how : BodyReader)
  | closeResponse
  | releaseResponse
  | buildResponse
  | yields (item : Item)
  | stashStallError (e : PyExc)
  | storeInSemanticCache (endpoint method : String) (body : Body) (chunk : Bytes)
  | addPostRequestTask (response : Bytes)
  | getEndpointInfo
  | hasEverSeenModel (model : Json)
  | getRequestStats (t : ℚ)
  | routeRequest (router : RouterKind) (endpoints : List EndpointInfo) (json : JsonObject)
  | takeIndex (role : ServingRole)
  | preRequest (json : JsonObject)
  | externalProvider (json : JsonObject)

abbrev Event.Answer : Event → Type
  | .time => ℚ
  | .onNewRequest _ _ _ => RequestHandle
  | .finalize _ _ _ => Except MonitorError Unit
  | .startSpan _ => Nat
  | .injectContext _ _ => Headers
  | .sendRequest _ => Entry
  | .nextChunk _ => Wake
  | .leaveResponse => Wake
  | .readBody how => Except Raised how.Result
  | .buildResponse => Except PyExc Unit
  | .yields _ => Wake
  | .getEndpointInfo => List EndpointInfo
  | .hasEverSeenModel _ => Except Raised Bool
  | .getRequestStats _ => Except MonitorError (Dict String RequestStats)
  | .routeRequest _ _ _ => Except Raised (String × JsonObject)
  | .takeIndex _ => Nat
  | .preRequest _ => Except PyExc (Option PlainResponse)
  | .externalProvider _ => Except Raised PlainResponse
  | _ => Unit

abbrev service : Signature := ⟨Event, Event.Answer⟩

def Event.isYield : Event → Bool
  | .yields _ => true
  | _ => false

/-- An event together with the answer it got. -/
abbrev Step := (e : Event) × e.Answer

section Functions

variable {L : Type}

def note (e : Event) : Py service L e.Answer := Py.perform (S := service) e

/-- `time.time()`. -/
def time : Py service L ℚ := note .time

/-- Go on as the coroutine is woken. -/
def resume : Wake → Py service L Unit
  | .resumed => pure ()
  | .interrupted i => Py.raise (.interrupt i)

/-- `yield item`. -/
def yieldItem (item : Item) : Py service L Unit := do
  let wake ← note (.yields item)
  resume wake

def raiseError {α : Type} (e : PyExc) : Py service L α := Py.raise (.error e)

/-- A pure Python expression that may raise. -/
def eval {α : Type} (r : Except PyExc α) : Py service L α :=
  Py.ofExcept (r.mapError Raised.error)

end Functions

end ProductionStack.Request

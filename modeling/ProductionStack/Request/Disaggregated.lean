import Mathlib.Data.List.Sort
import ProductionStack.Request.RouteGeneral

/-!
The two disaggregated deployments. With the orchestrated router one request is
sent to a prefill engine and then, with what that engine answered, to a decode
engine; with the other one both engines are those of two fixed clients. And
`route_general_request` itself, which tells the routers apart.
-/

namespace ProductionStack.Request

open Lib Python Stats

/-- `await request.json()`. -/
def readJson (deployment : Deployment) (request : ClientRequest) : Py service Unit Json := do
  let body ← Py.ofExcept request.body
  eval (jsonLoads deployment.app.recursionLimit body)

/-- `json.copy()` and then `json[key] = value`: only a dictionary can do both. -/
def asDictionary : Json → Except PyExc JsonObject
  | .obj fields => .ok fields
  | .arr _ => .error (.new .typeError "list indices must be integers or slices, not str")
  | .null | .bool _ | .int _ | .float _ | .str _ =>
    .error (.new .attributeError "object has no attribute 'copy'")

/-- `json.pop(key, None)`. -/
def withoutKey (key : String) (json : JsonObject) : JsonObject :=
  json.filter fun field => field.1 ≠ key

def hasKey (key : String) (json : JsonObject) : Bool := (json.lookup key).isSome

def errorContent (status : Nat) (message : String) (requestId : String) : Response :=
  .plain (errorResponse status message requestId)

/-- `__aexit__` of a response. -/
def exitResponse {L : Type} : Py service L Unit := do
  let wake ← note .leaveResponse
  resume wake

/-! The orchestrated router. -/

structure Orchestration where
  deployment : Deployment
  request : ClientRequest
  endpoint : String

namespace Orchestration

variable (o : Orchestration)

def requestId : String := o.request.requestId

def hasLabel (labels : List String) (endpoint : EndpointInfo) : Bool :=
  endpoint.modelLabel.any labels.contains

/-- Endpoints are told apart by their labels alone. -/
def findEndpoints (endpoints : List EndpointInfo) :
    Except PyExc (List EndpointInfo × List EndpointInfo) :=
  let prefillers := endpoints.filter (hasLabel o.deployment.prefillModelLabels)
  let decoders := endpoints.filter (hasLabel o.deployment.decodeModelLabels)
  if prefillers.isEmpty then
    .error (.http 503 "PREFILL_SERVICE_UNAVAILABLE: No prefill endpoints discovered")
  else if decoders.isEmpty then
    .error (.http 503 "DECODE_SERVICE_UNAVAILABLE: No decode endpoints discovered")
  else .ok (prefillers, decoders)

/-- `sorted(endpoints, key=lambda e: e.url)`. -/
def sortedByUrl (endpoints : List EndpointInfo) : List EndpointInfo :=
  endpoints.mergeSort fun a b => decide (a.url ≤ b.url)

/-- `select_prefill_endpoint` and `select_decode_endpoint`. -/
def selectEndpoint (role : ServingRole) (endpoints : List EndpointInfo) :
    Py service Unit EndpointInfo := do
  let index ← note (.takeIndex role)
  match (sortedByUrl endpoints)[index % endpoints.length]? with
  | some endpoint => pure endpoint
  | none => raiseError (.new .valueError "No endpoints available")

/-- The request that makes the prefill engine compute and keep the cache. -/
def prefillRequestJson (json : JsonObject) : JsonObject :=
  let json := upsert "max_tokens" (.int 1) json
  let json :=
    if hasKey "max_completion_tokens" json then upsert "max_completion_tokens" (.int 1) json
    else json
  let json := upsert "kv_transfer_params" (.obj [("do_remote_decode", .bool true),
    ("do_remote_prefill", .bool false), ("remote_engine_id", .null), ("remote_block_ids", .null),
    ("remote_host", .null), ("remote_port", .null)]) json
  withoutKey "stream_options" (upsert "stream" (.bool false) json)

/-- `url.split("://")[1].split(":")[0]`. -/
def remoteHost (url : String) : Except PyExc String :=
  match splitText url "://" with
  | _ :: rest :: _ => .ok ((splitText rest ":").headD "")
  | _ => .error (.new (.derived "IndexError" .exception) "list index out of range")

/-- The request to the decode engine, with the cache's metadata if there is any. -/
def decodeRequestJson (prefillUrl : String) (json : JsonObject) (prefillData : Json) :
    Except PyExc JsonObject := do
  let params ← prefillData.get "kv_transfer_params" (.obj [])
  if params.truthy then do
    let host ← remoteHost prefillUrl
    match params with
    | .obj fields =>
      .ok (upsert "kv_transfer_params" (.obj (upsert "remote_host" (.str host) fields)) json)
    | _ => .error (.new .typeError "object does not support item assignment")
  else .ok json

def backendRequest (url : String) (json : JsonObject) : BackendRequest where
  method := "POST"
  baseUrl := url
  path := o.endpoint
  headers := [("Content-Type", "application/json"), ("X-Request-Id", o.requestId)]
  data := .dumped (.obj json)
  deadline := none

/-- A status other than 200 is handed on with the text of the response. -/
def failedResponse (what : String) (r : BackendResponse) : Py service Unit Response := do
  let answer ← note (.readBody .text)
  let text ← Py.ofExcept answer
  pure (errorContent r.status (what ++ " failed: " ++ text) o.requestId)

/-- The prefill exchange: its data, or the response that ends the request. -/
def prefill (url : String) (json : JsonObject) : Py service Unit (Response ⊕ Json) := do
  let entry ← note (.sendRequest (o.backendRequest url (prefillRequestJson json)))
  let r ← awaited entry
  Py.withExit
    (if r.status ≠ 200 then do
      let response ← o.failedResponse "Prefill" r
      pure (.inl response)
    else do
      let answer ← note (.readBody .json)
      let data ← Py.ofExcept answer
      let _ ← time
      pure (.inr data))
    fun _ => exitResponse

/-- `generate_stream`: empty chunks are not handed on. -/
def relayStream (ending : Ending) : List Bytes → Py service Unit Unit
  | [] => do
      let wake ← note (.nextChunk (.ending ending))
      resume wake
      match ending with
      | .eof => pure ()
      | .raises e => raiseError e
  | chunk :: rest => do
      let wake ← note (.nextChunk (.chunk chunk))
      resume wake
      if chunk.isEmpty then relayStream ending rest
      else do
        yieldItem (.chunk chunk)
        relayStream ending rest

def generateStream (r : BackendResponse) : Prog service (Except Raised Unit) :=
  (Py.tryFinally (relayStream r.ending r.chunks)
    (do
      note .releaseResponse
      let _ ← time
      pure ()) ()).bind fun (result, _) => .ret result

def readDecoded : Py service Unit Response := do
  let answer ← note (.readBody .read)
  let data ← Py.ofExcept answer
  let _ ← time
  let value ← eval (jsonLoads o.deployment.app.recursionLimit data)
  let built ← note .buildResponse
  eval built
  pure (.plain ⟨200, .json value, [("X-Request-Id", o.requestId)]⟩)

/-- What becomes of the response of the decode engine. -/
def decodeResponse (isStreaming : Bool) (r : BackendResponse) : Py service Unit Response :=
  Py.tryExcept
    (if r.status ≠ 200 then o.failedResponse "Decode" r
    else if isStreaming then
      pure (.streaming 200 [("X-Request-Id", o.requestId)] "text/event-stream" (generateStream r))
    else o.readDecoded)
    fun
      | .error e => do
          note .releaseResponse
          raiseError e
      | .interrupt i => Py.raise (.interrupt i)

def decode (isStreaming : Bool) (url : String) (json : JsonObject) : Py service Unit Response := do
  let entry ← note (.sendRequest (o.backendRequest url json))
  let r ← awaited entry
  o.decodeResponse isStreaming r

/-- The two exchanges. -/
def exchange (prefillUrl decodeUrl : String) (json : JsonObject) : Py service Unit Response := do
  let outcome ← o.prefill prefillUrl json
  match outcome with
  | .inl response => pure response
  | .inr data => do
      let decodeRequest ← eval (decodeRequestJson prefillUrl json data)
      o.decode ((json.lookup "stream").getD (.bool false)).truthy decodeUrl decodeRequest

def onError : Raised → Py service Unit Response
  | .error e =>
    if e.isInstance [.clientError] then
      pure (errorContent 503 ("HTTP error: " ++ e.message) o.requestId)
    else pure (errorContent 500 ("Unexpected error: " ++ e.message) o.requestId)
  | .interrupt i => Py.raise (.interrupt i)

def onDiscoveryError : Raised → Py service Unit (Response ⊕ (List EndpointInfo × List EndpointInfo))
  | .error e =>
    if e.isInstance [.valueError] then pure (.inl (errorContent 503 e.message o.requestId))
    else raiseError e
  | .interrupt i => Py.raise (.interrupt i)

/-- From the choice of the engines to the response. -/
def serve (json : Json) (prefillers decoders : List EndpointInfo) : Py service Unit Response := do
  let prefiller ← selectEndpoint .prefill prefillers
  let decoder ← selectEndpoint .decode decoders
  let json ← eval (asDictionary json)
  let _ ← time
  Py.tryExcept (o.exchange prefiller.url decoder.url json) o.onError

def routeOrchestratedDisaggregatedRequest : Py service Unit Response := do
  let _ ← time
  let json ← readJson o.deployment o.request
  let endpoints ← note .getEndpointInfo
  let found ← Py.tryExcept
    (do
      let found ← eval (o.findEndpoints endpoints)
      pure (.inr found))
    o.onDiscoveryError
  match found with
  | .inl response => pure response
  | .inr (prefillers, decoders) => o.serve json prefillers decoders

end Orchestration

/-! The router with two fixed clients. -/

structure DisaggregatedPrefill where
  deployment : Deployment
  request : ClientRequest
  endpoint : String

namespace DisaggregatedPrefill

variable (p : DisaggregatedPrefill)

def requestId : String := p.request.requestId

/-- `request.app.state.prefill_client`, which is only set once such an engine is
known. -/
def clientUrl {L : Type} (name : String) : Option String → Py service L String
  | some url => pure url
  | none => raiseError (.new .attributeError ("'State' object has no attribute '" ++ name ++ "'"))

def prefillerJson (json : JsonObject) : JsonObject :=
  let json := upsert "max_tokens" (.int 1) json
  let json :=
    if hasKey "max_completion_tokens" json then upsert "max_completion_tokens" (.int 1) json
    else json
  withoutKey "stream_options" (upsert "stream" (.bool false) (withoutKey "min_tokens" json))

def backendRequest (url : String) (json : JsonObject) : BackendRequest where
  method := "POST"
  baseUrl := url
  path := p.endpoint
  headers := [("Authorization", "Bearer " ++ p.deployment.openaiApiKey.getD "None"),
    ("X-Request-Id", p.requestId)]
  data := .dumped (.obj json)
  deadline := none

/-- `response.raise_for_status()`. -/
def raiseForStatus (r : BackendResponse) : Py service Unit Unit :=
  if 400 ≤ r.status then raiseError ⟨.clientResponseError, r.reason, some r.status⟩ else pure ()

def sendRequestToPrefiller (url : String) (json : JsonObject) : Py service Unit Json := do
  let entry ← note (.sendRequest (p.backendRequest url (prefillerJson json)))
  let r ← awaited entry
  Py.withExit
    (do
      raiseForStatus r
      let answer ← note (.readBody .json)
      Py.ofExcept answer)
    fun _ => exitResponse

def relayAll (ending : Ending) : List Bytes → Py service Unit Unit
  | [] => do
      let wake ← note (.nextChunk (.ending ending))
      resume wake
      match ending with
      | .eof => pure ()
      | .raises e => raiseError e
  | chunk :: rest => do
      let wake ← note (.nextChunk (.chunk chunk))
      resume wake
      yieldItem (.chunk chunk)
      relayAll ending rest

/-- The generator `send_request_to_decode`. -/
def sendRequestToDecode (json : JsonObject) : Py service Unit Unit := do
  let url ← clientUrl "decode_client" p.deployment.decodeClient
  let entry ← note (.sendRequest (p.backendRequest url json))
  let r ← awaited entry
  Py.withExit
    (do
      raiseForStatus r
      relayAll r.ending r.chunks)
    fun _ => exitResponse

/-- `{"error": {"message": ..., "type": ..., "code": ...}}`. -/
def errorJson (message errorType : String) (code : Nat) : Json :=
  .obj [("error", .obj [("message", .str message), ("type", .str errorType),
    ("code", .int code)])]

def errorFrame (message errorType : String) (code : Nat) : Bytes :=
  encode ("\x7b\"error\": \x7b\"message\": " ++ dumpString message ++ ", \"type\": " ++
    dumpString errorType ++ ", \"code\": " ++ toString code ++ "\x7d\x7d")

/-- The status of a `ClientResponseError`, and 500 for every other exception. -/
def errorCode (e : PyExc) : Nat :=
  if e.isInstance [.clientResponseError] then e.statusCode.getD 0 else 500

/-- `generate_stream`: what the decode engine sends, and a last chunk for an
error. A consumer that leaves in the middle leaves the inner generator to be
finalized. -/
def generateStream : Prog service (Except Raised Unit) → Prog service (Except Raised Unit)
  | .ret (.ok ()) => .ret (.ok ())
  | .ret (.error (.interrupt i)) => .ret (.error (.interrupt i))
  | .ret (.error (.error e)) =>
    (yieldItem (.chunk (errorFrame ("Decoder error: " ++ e.message) "decoder_error"
      (errorCode e))) ()).bind fun (result, _) => .ret result
  | .perform (.yields item) next => .perform (.yields item) fun
      | .resumed => generateStream (next .resumed)
      | .interrupted i =>
        (aclose (next (.interrupted .generatorExit))).bind fun _ => .ret (.error (.interrupt i))
  | .perform e next => .perform e fun answer => generateStream (next answer)

def onPrefillError : Raised → Py service Unit (Option Response)
  | .error e =>
    pure (some (.plain ⟨errorCode e, .json (errorJson ("Prefiller error: " ++ e.message)
      "prefiller_error" (errorCode e)), [("X-Request-Id", p.requestId)]⟩))
  | .interrupt i => Py.raise (.interrupt i)

/-- The first exchange: the response that ends the request, if it fails. -/
def prefill (json : JsonObject) : Py service Unit (Option Response) :=
  Py.tryExcept
    (do
      let url ← clientUrl "prefill_client" p.deployment.prefillClient
      let _ ← p.sendRequestToPrefiller url
        (withoutKey "max_completion_tokens" (upsert "max_tokens" (.int 1) json))
      let _ ← time
      pure none)
    p.onPrefillError

def bodyIterator (json : JsonObject) : Prog service (Except Raised Unit) :=
  generateStream ((p.sendRequestToDecode json ()).bind fun (result, _) => .ret result)

def routeDisaggregatedPrefillRequest : Py service Unit Response := do
  let _ ← time
  let json ← readJson p.deployment p.request
  let original ← eval (asDictionary json)
  let _ ← time
  let failed ← p.prefill original
  match failed with
  | some response => pure response
  | none => do
      let _ ← time
      pure (.streaming 200 [("X-Request-Id", p.requestId)] "application/json"
        (p.bodyIterator original))

end DisaggregatedPrefill

def routeGeneralRequest (deployment : Deployment) (request : ClientRequest) (endpoint : String) :
    Py service Unit Response :=
  match deployment.router with
  | .disaggregatedPrefill =>
    DisaggregatedPrefill.routeDisaggregatedPrefillRequest ⟨deployment, request, endpoint⟩
  | .disaggregatedPrefillOrchestrated =>
    Orchestration.routeOrchestratedDisaggregatedRequest ⟨deployment, request, endpoint⟩
  | _ => routeProxied deployment request endpoint

end ProductionStack.Request

import ProductionStack.Request.ProcessRequest

/-!
`route_general_request`: the JSON proxy path. It parses the body, finds the
endpoints that serve the requested model, and tries them one after the other
until one of them answers with headers.
-/

namespace ProductionStack.Request

open Lib Python Stats

inductive Response where
  | plain (response : PlainResponse)
  | streaming (status : Nat) (headers : Headers) (mediaType : String)
      (body : Prog service (Except Raised Unit))

def headersToStripFromResponse : List String :=
  ["content-length", "content-encoding", "transfer-encoding", "connection", "server"]

/-- Connect-phase failures rotate to another backend; read and entry timeouts do
not. `ConnectionTimeoutError` is a `TimeoutError` too. -/
def backendConnectErrors : List ExcClass := [.connectionTimeoutError, .clientConnectorError]

def errorResponse (status : Nat) (message requestId : String) : PlainResponse where
  status := status
  content := .json (.obj [("error", .str message)])
  headers := [("X-Request-Id", requestId)]

def backendErrorResponse (requestId : String) (status : Nat) (errorType code message : String) :
    PlainResponse where
  status := status
  content := .json (.obj [("error", .obj [("message", .str message), ("type", .str errorType),
    ("code", .str code), ("param", .null)])])
  headers := [("X-Request-Id", requestId), ("Retry-After", "1")]

def preHeaderTimeoutResponse (requestId : String) (timeout : ClientTimeout) (error : PyExc) :
    PlainResponse :=
  if error.isInstance [.serverTimeoutError] then
    backendErrorResponse requestId 504 "gateway_timeout" "backend_read_timeout"
      ("Upstream LLM backend timed out after " ++ formatBound timeout.sockRead ++
        " with no data received. " ++
        "The request was not completed and may be safely retried.")
  else
    backendErrorResponse requestId 504 "gateway_timeout" "backend_entry_timeout"
      ("Upstream LLM backend timed out after " ++ formatBound (backendEntryDeadline timeout) ++
        " before returning response headers. The request was not completed and " ++
        "may be safely retried.")

def backendConnectErrorResponse (requestId : String) : PlainResponse :=
  backendErrorResponse requestId 502 "bad_gateway" "backend_connect_error"
    ("Could not establish a connection to the upstream LLM backend within " ++
      "the permitted failover attempts. The request was not completed and " ++
      "may be safely retried.")

/-- The answer to `client.post`, when nothing else bounds the wait. -/
def awaited {L : Type} : Entry → Py service L BackendResponse
  | .response r => pure r
  | .raised e => raiseError e
  | .deadline => raiseError (.new .timeoutError "")
  | .interrupted i _ => Py.raise (.interrupt i)

/-- `end_span(span, error=error, status_code=status) if tracing_active else None`. -/
def endRouterSpan {L : Type} (span : Option Nat) (error : Option Raised) (status : Nat) :
    Py service L Unit :=
  match span with
  | some span => note (.endSpan span error (some status))
  | none => pure ()

/-! The body of a streaming response. -/

/-- `aclose()` of a generator that was just resumed with a `GeneratorExit`: run
it to its end, and give up on it if it yields once more. -/
def aclose : Prog service (Except Raised Unit) → Prog service Unit
  | .ret _ => .ret ()
  | .perform (.yields _) _ => .ret ()
  | .perform e next => .perform e fun answer => aclose (next answer)

/-- The span of a streamed response ends once: as failed if the stream stalled. -/
def endStreamSpan (span : Option Nat) (status : Nat) (stallError : Option PyExc) :
    Except Raised Unit → Py service Unit Unit
  | .ok () => endRouterSpan span (stallError.map .error) status
  | .error (.error e) => endRouterSpan span (some (.error e)) 500
  | .error (.interrupt _) => endRouterSpan span none 499

/-- `traced_stream`: hand on what the generator yields, and close the generator
when this one is left in the middle. `stallError` is what the generator has put
into `request.state`. -/
def tracedStream (span : Option Nat) (status : Nat) (stallError : Option PyExc) :
    Prog service (Except Raised Unit) → Prog service (Except Raised Unit)
  | .ret result => (endStreamSpan span status stallError result ()).bind fun _ => .ret result
  | .perform (.yields item) next => .perform (.yields item) fun
      | .resumed => tracedStream span status stallError (next .resumed)
      | .interrupted i =>
        (endStreamSpan span status stallError (.error (.interrupt i)) ()).bind fun _ =>
          (aclose (next (.interrupted .generatorExit))).bind fun _ =>
            .ret (.error (.interrupt i))
  | .perform (.stashStallError e) next => .perform (.stashStallError e) fun answer =>
    tracedStream span status (some e) (next answer)
  | .perform e next => .perform e fun answer => tracedStream span status stallError (next answer)

/-! The failover loop. -/

/-- What the failover loop of one request reads: where it may send the request,
and how often it may try. -/
structure Forwarding where
  app : App
  router : RouterKind
  maxInstanceFailoverRerouteAttempts : Nat
  request : HttpRequest
  requestId : String
  endpoint : String
  requestEndpoint : Option String
  endpoints : List EndpointInfo
  span : Option Nat

/-- The variables of the loop. Those without a value until an attempt succeeds
are optional. `trials` is a history variable that no statement reads: the server
of each attempt, and what waiting for its headers gave. -/
structure ForwardingLocals where
  requestJson : JsonObject
  requestBody : Body
  serverUrl : String
  errorUrls : List String
  lastError : Option PyExc
  mediaType : Option String
  headersDict : Option Headers
  status : Option Nat
  streamGenerator : Option (Prog service (Except Raised Unit))
  trials : List (String × Except Raised (Headers × Nat))

def ForwardingLocals.start (requestJson : JsonObject) (requestBody : Body) :
    ForwardingLocals where
  requestJson := requestJson
  requestBody := requestBody
  serverUrl := ""
  errorUrls := []
  lastError := none
  mediaType := none
  headersDict := none
  status := none
  streamGenerator := none
  trials := []

/-- How the loop goes on after an attempt. -/
inductive AfterAttempt where
  | stop
  | rotate
  | respond (response : PlainResponse)

/-- The headers of the backend's response that are handed on. -/
def responseHeaders (headers : Headers) (requestId : String) : Headers :=
  let kept := headers.filter fun (key, _) =>
    !(headersToStripFromResponse.contains (lower key)) && lower key ≠ "content-type"
  upsert "X-Request-Id" requestId (kept.foldl (fun d (key, value) => upsert key value d) [])

/-- `headers, status = await anext(generator)`, and the generator after it. -/
def firstItem {L : Type} (generator : Prog service (Except Raised Unit)) :
    Py service L (Headers × Nat × Prog service (Except Raised Unit)) := fun l =>
  (generator.anext Event.isYield).bind fun
    | .inl ⟨.yields (.head headers status), next⟩ => .ret (.ok (headers, status, next .resumed), l)
    | .inl _ => .ret (.error (.error (.new .valueError "too many values to unpack")), l)
    | .inr (.ok ()) => .ret (.error (.error (.new (.derived "StopAsyncIteration" .exception) "")), l)
    | .inr (.error raised) => .ret (.error raised, l)

namespace Forwarding

variable (f : Forwarding)

def maxAttempts : Nat := f.maxInstanceFailoverRerouteAttempts + 1

/-- `if request_endpoint:`, which an empty id is not. -/
def isPinned : Bool := f.requestEndpoint.any (· ≠ "")

/-- The server for the next attempt: the first endpoint if the request names one
by id, and otherwise the router's choice. -/
def pickServer (endpoints : List EndpointInfo) : Py service ForwardingLocals Unit :=
  if f.isPinned then
    match endpoints with
    | [] => raiseError (.new (.derived "IndexError" .exception) "list index out of range")
    | first :: _ => Py.update fun l => { l with serverUrl := first.url }
  else do
    let l ← Py.locals
    let routed ← note (.routeRequest f.router endpoints l.requestJson)
    let (url, json) ← Py.ofExcept routed
    Py.update fun l => { l with serverUrl := url, requestJson := json }

/-- `error_urls.add(server_url)` and `last_error = e`. -/
def recordFailure (e : PyExc) : Py service ForwardingLocals Unit :=
  Py.update fun l => { l with errorUrls := l.serverUrl :: l.errorUrls, lastError := some e }

/-- The `except` clauses of an attempt. -/
def onAttemptError : Raised → Py service ForwardingLocals AfterAttempt
  | .interrupt i => Py.raise (.interrupt i)
  | .error e =>
    if e.isInstance [.httpException] then raiseError e
    else if e.isInstance backendConnectErrors then do
      recordFailure e
      let _ ← time
      pure .rotate
    else if e.isInstance [.serverTimeoutError, .timeoutError] then do
      let _ ← time
      endRouterSpan f.span (some (.error e)) 504
      pure (.respond (preHeaderTimeoutResponse f.requestId (resolveBackendClientTimeout f.app) e))
    else do
      recordFailure e
      pure .rotate

/-- The `try` statement of an attempt: start the generator and wait for its
headers. -/
def tryServer : Py service ForwardingLocals AfterAttempt :=
  Py.tryExcept
    (do
      let l ← Py.locals
      let (headers, status, generator) ← firstItem
        (processRequest f.app f.request l.requestBody l.serverUrl f.requestId f.endpoint f.span)
      Py.update fun l => { l with
        mediaType := some (header headers "content-type" "text/event-stream")
        headersDict := some (responseHeaders headers f.requestId)
        status := some status
        streamGenerator := some generator
        lastError := none
        trials := l.trials ++ [(l.serverUrl, .ok (headers, status))] }
      pure .stop)
    fun raised => do
      Py.update fun l => { l with trials := l.trials ++ [(l.serverUrl, .error raised)] }
      f.onAttemptError raised

/-- A later attempt picks a server that has not failed yet; without one the loop
breaks. -/
def nextServer (attempt : Nat) : Py service ForwardingLocals Bool :=
  if attempt = 0 then pure true
  else do
    let l ← Py.locals
    match f.endpoints.filter (fun endpoint => !l.errorUrls.contains endpoint.url) with
    | [] => pure false
    | first :: rest => do
        f.pickServer (first :: rest)
        pure true

/-- `for attempt in range(max_attempts)`, with `left` attempts to go. What the
loop returns, if it returns, is the response of the function. -/
def attempts : Nat → Nat → Py service ForwardingLocals (Option PlainResponse)
  | 0, _ => pure none
  | left + 1, attempt => do
      let found ← f.nextServer attempt
      if found then do
        Py.update fun l => { l with mediaType := some "text/event-stream" }
        let _ ← time
        let after ← f.tryServer
        match after with
        | .stop => pure none
        | .rotate => attempts left (attempt + 1)
        | .respond response => pure (some response)
      else pure none

/-- What follows the loop. -/
def conclude : Py service ForwardingLocals Response := do
  let l ← Py.locals
  match l.lastError with
  | some e =>
    if e.isInstance backendConnectErrors then do
      endRouterSpan f.span (some (.error e)) 502
      pure (.plain (backendConnectErrorResponse f.requestId))
    else do
      endRouterSpan f.span (some (.error e)) 500
      raiseError e
  | none =>
    match l.streamGenerator, l.status, l.headersDict, l.mediaType with
    | some generator, some status, some headers, some mediaType =>
      pure (.streaming status headers mediaType (tracedStream f.span status none generator))
    | _, _, _, _ => raiseError (.new .unboundLocalError "referenced before assignment")

/-- The priority router has changed the body. -/
def dumpBody : Py service ForwardingLocals Unit :=
  match f.router with
  | .priority _ => Py.update fun l => { l with requestBody := .dumped (.obj l.requestJson) }
  | _ => pure ()

/-- From the choice of the first server to the response. -/
def forward : Py service ForwardingLocals Response := do
  f.pickServer f.endpoints
  f.dumpBody
  let response ← f.attempts f.maxAttempts 0
  match response with
  | some response => pure (.plain response)
  | none => f.conclude

end Forwarding

/-! Before the loop: which endpoints may serve the request. -/

/-- What the routing functions read of the app and of service discovery.
`aliases` is empty if there are none, `externalModels` are the ids in the
registry of external providers if there is one, and `remembersModels` says
whether service discovery has `has_ever_seen_model`. `strOf` is the builtin
`str`. The two clients of a disaggregated deployment are given by their base
URLs, and `openaiApiKey` is the environment variable. -/
structure Deployment where
  app : App
  router : RouterKind
  maxInstanceFailoverRerouteAttempts : Nat
  requestRewriter : Bool
  aliases : List (String × String)
  externalModels : Option (List String)
  remembersModels : Bool
  strOf : Json → String
  prefillModelLabels : List String
  decodeModelLabels : List String
  prefillClient : Option String
  decodeClient : Option String
  openaiApiKey : Option String

/-- A request as Starlette presents it: `body` is what `await request.body()`
gives, `queryId` the query parameter `id`, `freshId` a new UUID. -/
structure ClientRequest where
  http : HttpRequest
  body : Except Raised Bytes
  queryId : Option String
  freshId : String

/-- `request.headers.get("X-Request-Id") or str(uuid.uuid4())`. -/
def ClientRequest.requestId (r : ClientRequest) : String :=
  let given := header r.http.headers "X-Request-Id" ""
  if given = "" then r.freshId else given

/-- `j in keys`, for a dictionary with string keys: lists and objects cannot be
hashed. -/
def inKeys (keys : List String) : Json → Except PyExc Bool
  | .str s => .ok (keys.contains s)
  | .arr _ => .error (.new .typeError "unhashable type: 'list'")
  | .obj _ => .error (.new .typeError "unhashable type: 'dict'")
  | .null | .bool _ | .int _ | .float _ => .ok false

inductive ParsedBody where
  | object (fields : JsonObject)
  | invalid (message : String)

def parseRequestBody (limit : Nat) (body : Bytes) : Except PyExc ParsedBody :=
  if body.isEmpty then .ok (.object [])
  else match jsonLoads limit body with
    | .ok (.obj fields) => .ok (.object fields)
    | .ok _ => .ok (.invalid "Invalid request: request body must be a JSON object.")
    | .error e =>
      if e.isInstance [.jsonDecodeError, .unicodeDecodeError, .recursionError] then
        .ok (.invalid "Invalid request: request body must be valid JSON.")
      else .error e

/-- A request on its way through `route_general_request`. -/
structure GeneralCall where
  deployment : Deployment
  request : ClientRequest
  endpoint : String
  span : Option Nat

namespace GeneralCall

variable (c : GeneralCall)

def respond (status : Nat) (message : String) : Py service Unit Response := do
  endRouterSpan c.span none status
  pure (.plain (errorResponse status message c.request.requestId))

/-- The only rewriter returns the body as it is; it is parsed again. -/
def rewritten (body : Bytes) (json : JsonObject) : Except PyExc JsonObject :=
  if c.deployment.requestRewriter then
    match jsonLoads c.deployment.app.recursionLimit body with
    | .ok (.obj fields) => .ok fields
    | .ok _ => .error (.new .typeError "")
    | .error e =>
      if e.isInstance [.requestsJsonDecodeError] then
        .error (.http 400 "Request body is not JSON parsable.")
      else .error e
  else .ok json

/-- `if aliases and requested_model in aliases.keys()`. -/
def aliasOf (model : Json) : Except PyExc (Option String) :=
  if c.deployment.aliases.isEmpty then .ok none
  else do
    let known ← inKeys (c.deployment.aliases.map Prod.fst) model
    match known, model with
    | true, .str name => .ok (c.deployment.aliases.lookup name)
    | _, _ => .ok none

def isExternalModel (model : Json) : Except PyExc Bool :=
  match c.deployment.externalModels with
  | some models => inKeys models model
  | none => .ok false

def routeExternal (json : JsonObject) : Py service Unit Response :=
  Py.tryExcept
    (do
      let answer ← note (.externalProvider json)
      let response ← Py.ofExcept answer
      endRouterSpan c.span none response.status
      pure (.plain response))
    fun
      | .error e => do
          endRouterSpan c.span (some (.error e)) 502
          raiseError e
      | .interrupt i => Py.raise (.interrupt i)

def modelEverExisted (model : Json) : Py service Unit Bool :=
  if c.deployment.remembersModels then do
    let seen ← note (.hasEverSeenModel model)
    Py.ofExcept seen
  else pure false

/-- `if request_endpoint:`, which an empty id is not. -/
def pinnedId : Option String := c.request.queryId.filter (· ≠ "")

/-- The filter over the snapshot of the endpoints. -/
def mayServe (model : Json) (endpoint : EndpointInfo) : Bool :=
  (match model with
    | .str name => endpoint.modelNames.contains name
    | _ => false) &&
    c.pinnedId.all (endpoint.id = ·) && !endpoint.sleep

/-- The stats that the router gets; they are not read for a pinned request. -/
def readStats : Py service Unit Unit :=
  match c.pinnedId with
  | some _ => pure ()
  | none => do
      let t ← time
      let stats ← note (.getRequestStats t)
      match stats with
      | .ok _ => pure ()
      | .error _ => raiseError (.new .keyError "")

def forwarding (endpoints : List EndpointInfo) : Forwarding where
  app := c.deployment.app
  router := c.deployment.router
  maxInstanceFailoverRerouteAttempts := c.deployment.maxInstanceFailoverRerouteAttempts
  request := c.request.http
  requestId := c.request.requestId
  endpoint := c.endpoint
  requestEndpoint := c.request.queryId
  endpoints := endpoints
  span := c.span

/-- From the filter to the response. -/
def routeAmong (snapshot : List EndpointInfo) (model : Json) (json : JsonObject) (body : Body)
    (everExisted : Bool) : Py service Unit Response := do
  c.readStats
  note (.metric (.incomingRequests model))
  match snapshot.filter (c.mayServe model) with
  | [] =>
    if everExisted then
      c.respond 503 ("Model '" ++ c.deployment.strOf model ++
        "' is temporarily unavailable. Please try again later.")
    else
      c.respond 404 ("Model '" ++ c.deployment.strOf model ++
        "' not found. Available models can be listed at /v1/models.")
  | first :: rest => Py.call (c.forwarding (first :: rest)).forward (.start json body)

def routeModel (snapshot : List EndpointInfo) (model : Json) (json : JsonObject) (body : Body) :
    Py service Unit Response := do
  let external ← eval (c.isExternalModel model)
  if external then c.routeExternal json
  else do
    let everExisted ← c.modelEverExisted model
    c.routeAmong snapshot model json body everExisted

/-- An alias stands for its model, in the parsed body and in the forwarded one. -/
def routeObject (body : Bytes) (json : JsonObject) : Py service Unit Response :=
  match (json.lookup "model").getD .null with
  | .null => c.respond 400 "Invalid request: missing 'model' in request body."
  | model => do
      let json ← eval (c.rewritten body json)
      let snapshot ← note .getEndpointInfo
      let aliased ← eval (c.aliasOf model)
      match aliased with
      | some name =>
        let json := upsert "model" (.str name) json
        c.routeModel snapshot (.str name) json (.dumped (.obj json))
      | none => c.routeModel snapshot model json (.raw body)

/-- `callbacks.pre_request` may answer in place of a backend. -/
def preRequest (json : JsonObject) : Py service Unit (Option PlainResponse) :=
  if c.deployment.app.callbacks then do
    let answer ← note (.preRequest json)
    eval answer
  else pure none

def routeParsed (body : Bytes) (json : JsonObject) : Py service Unit Response := do
  let overwrite ← c.preRequest json
  match overwrite with
  | some response =>
    pure (.plain { response with
      headers := upsert "X-Request-Id" c.request.requestId response.headers })
  | none => c.routeObject body json

end GeneralCall

def openRouterSpan (app : App) (endpoint : String) : Py service Unit (Option Nat) :=
  if app.otelEnabled then do
    let span ← note (.startSpan ("router " ++ endpoint))
    pure (some span)
  else pure none

/-- `route_general_request` for the routers that serve a request with one engine. -/
def routeProxied (deployment : Deployment) (request : ClientRequest) (endpoint : String) :
    Py service Unit Response := do
  let _ ← time
  let body ← Py.ofExcept request.body
  let parsed ← eval (parseRequestBody deployment.app.recursionLimit body)
  match parsed with
  | .invalid message => pure (.plain (errorResponse 400 message request.requestId))
  | .object json => do
      let span ← openRouterSpan deployment.app endpoint
      GeneralCall.routeParsed ⟨deployment, request, endpoint, span⟩ body json

end ProductionStack.Request

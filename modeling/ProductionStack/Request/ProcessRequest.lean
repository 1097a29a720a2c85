import ProductionStack.Request.Events

/-!
`process_request`: the async generator that sends one request to one backend,
hands the response on, and retires the request's stats handle.
-/

namespace ProductionStack.Request

open Lib Python Stats

/-- What the functions of the request service read from `request.app.state`,
and how deep the interpreter lets JSON nest. -/
structure App where
  otelEnabled : Bool
  backendClientTimeout : Option ClientTimeout
  semanticCacheAvailable : Bool
  callbacks : Bool
  recursionLimit : Nat

structure HttpRequest where
  method : String
  headers : Headers

def hopByHopHeaders : List String :=
  ["host", "connection", "keep-alive", "proxy-connection", "transfer-encoding",
    "content-length", "upgrade", "te", "trailer"]

def defaultBackendClientTimeout : ClientTimeout := ⟨some 10, some 300⟩

def resolveBackendClientTimeout (app : App) : ClientTimeout :=
  app.backendClientTimeout.getD defaultBackendClientTimeout

/-- Connect, upload and header wait together; a disabled read bound disables it. -/
def backendEntryDeadline (timeout : ClientTimeout) : Option ℚ :=
  match timeout.sockRead with
  | none => none
  | some read =>
    if read ≤ 0 then none
    else match timeout.sockConnect with
      | some connect => if 0 < connect then some (read + connect) else some read
      | none => some read

def formatBound : Option ℚ → String
  | some seconds => if 0 < seconds then formatG seconds ++ "s" else "the configured bound"
  | none => "the configured bound"

def sseStallFrames (timeout : ClientTimeout) : Bytes × Bytes :=
  let message := "Upstream backend stalled mid-stream (read gap exceeded " ++
    formatBound timeout.sockRead ++ "). Partial output above is incomplete."
  let payload := "\x7b\"error\": \x7b\"message\": \"" ++ message ++
    "\", \"type\": \"gateway_timeout\", \"code\": \"backend_stream_stall\"\x7d\x7d"
  (encode ("data: " ++ payload ++ "\n\n"), encode "data: [DONE]\n\n")

def buildBackendRequestHeaders (request : HttpRequest) (requestId : String)
    (includeContentType : Bool) : Headers :=
  let kept := request.headers.filter fun (key, _) =>
    !(hopByHopHeaders.contains (lower key)) &&
      (includeContentType || lower key ≠ "content-type") && lower key ≠ "x-request-id"
  upsert "X-Request-Id" requestId (kept.foldl (fun d (key, value) => upsert key value d) [])

/-- What `asyncio.timeout` knows when its block is left: whether its deadline
expired, and whether the task was cancelled or closed by someone else. -/
structure EntryTimeout where
  expired : Bool
  foreign : Bool

structure Locals where
  firstToken : Bool
  totalLen : Nat
  fullResponse : Bytes
  lastChunk : Bytes
  requestStatus : String
  terminalOutcome : TerminalOutcome
  httpStatusCode : Option Nat
  entryTimeout : Option EntryTimeout
  headersSent : Bool
  backendContentType : String

def Locals.start : Locals where
  firstToken := false
  totalLen := 0
  fullResponse := []
  lastChunk := []
  requestStatus := "aborted"
  terminalOutcome := .abort
  httpStatusCode := none
  entryTimeout := none
  headersSent := false
  backendContentType := ""

/-- The arguments of `process_request` and the values it has fixed before its
`try` block. -/
structure BackendCall where
  app : App
  request : HttpRequest
  body : Body
  backendUrl : String
  requestId : String
  endpoint : String
  span : Option Nat
  isStreaming : Json
  modelName : Json
  startTime : ℚ
  handle : RequestHandle
  headers : Headers

namespace BackendCall

variable (a : BackendCall)

def clientTimeout : ClientTimeout := resolveBackendClientTimeout a.app

/-- `end_span(span, error=error) if tracing_active else None`. -/
def endSpan (error : Option Raised) : Py service Locals Unit :=
  match a.span with
  | some span => note (.endSpan span error none)
  | none => pure ()

def reportFirstToken : Py service Locals Unit := do
  let l ← Py.locals
  if !l.firstToken then do
    Py.update fun l => { l with firstToken := true }
    let t ← time
    note (.onRequestResponse a.handle t)
  else pure ()

/-- One received chunk: count it, report the first one, hand it on. -/
def relayChunk (chunk : Bytes) : Py service Locals Unit := do
  Py.update fun l => { l with lastChunk := chunk, totalLen := l.totalLen + chunk.length }
  a.reportFirstToken
  Py.update fun l => { l with fullResponse := l.fullResponse ++ chunk }
  yieldItem (.chunk chunk)

/-- `async for chunk in backend_response.content.iter_any()`. -/
def streamContent (ending : Ending) : List Bytes → Py service Locals Unit
  | [] => do
      let wake ← note (.nextChunk (.ending ending))
      resume wake
      match ending with
      | .eof => pure ()
      | .raises e => raiseError e
  | chunk :: rest => do
      let wake ← note (.nextChunk (.chunk chunk))
      resume wake
      a.relayChunk chunk
      streamContent ending rest

/-- The body of the response context. -/
def relayResponse (r : BackendResponse) : Py service Locals Unit := do
  Py.update fun l => { l with
    httpStatusCode := some r.status
    backendContentType := header r.headers "content-type" "" }
  yieldItem (.head r.headers r.status)
  Py.update fun l => { l with headersSent := true }
  a.streamContent r.ending r.chunks

/-- Leaving the response context releases the connection, which may wait for
the upload of the request body. -/
def leaveResponse : Py service Locals Unit := do
  let wake ← note .leaveResponse
  resume wake

def backendRequest : BackendRequest where
  method := a.request.method
  baseUrl := a.backendUrl
  path := a.endpoint
  headers := a.headers
  data := a.body
  deadline := backendEntryDeadline a.clientTimeout

/-- `async with client.request(...) as backend_response`, with the entry
deadline armed until the headers arrive. -/
def exchange : Py service Locals Unit := do
  let entry ← note (.sendRequest a.backendRequest)
  match entry with
  | .response r => Py.withExit (a.relayResponse r) fun _ => leaveResponse
  | .raised e => raiseError e
  | .deadline => do
      Py.update fun l => { l with entryTimeout := some ⟨true, false⟩ }
      Py.raise (.interrupt .cancelledError)
  | .interrupted i expired => do
      Py.update fun l => { l with entryTimeout := some ⟨expired, true⟩ }
      Py.raise (.interrupt i)

/-- Leaving `asyncio.timeout`: an expired deadline turns its own cancellation
into a `TimeoutError`. -/
def leaveTimeout (raised : Raised) : Py service Locals Unit := do
  let l ← Py.locals
  match l.entryTimeout, raised with
  | some ⟨true, false⟩, .interrupt .cancelledError => raiseError (.new .timeoutError "")
  | _, _ => Py.raise raised

/-- `async with asyncio.timeout(...) as entry_timeout`. -/
def timedExchange : Py service Locals Unit := do
  Py.update fun l => { l with entryTimeout := some ⟨false, false⟩ }
  Py.tryExcept a.exchange leaveTimeout

end BackendCall

/-- `Counter.inc(amount)` of the metrics client: a nonnegative number that can
be added to a float. -/
def counterInc : Json → Except PyExc Unit
  | .bool _ => .ok ()
  | .int n =>
    if n < 0 then
      .error (.new .valueError "Counters can only be incremented by non-negative amounts.")
    else if floatOverflow ≤ n then
      .error (.new .overflowError "int too large to convert to float")
    else .ok ()
  | .float (.finite q) =>
    if q < 0 then
      .error (.new .valueError "Counters can only be incremented by non-negative amounts.")
    else .ok ()
  | .float .negInf =>
    .error (.new .valueError "Counters can only be incremented by non-negative amounts.")
  | .float .inf | .float .nan => .ok ()
  | .null | .str _ | .arr _ | .obj _ =>
    .error (.new .typeError "'<' not supported between these instances")

namespace BackendCall

variable (a : BackendCall)

/-- `if key in usage: counter.labels(...).inc(usage[key])`. -/
def countTokens (usage : Json) (key : String) (metric : Json → Metric) :
    Py service Locals Unit := do
  let present ← eval (usage.contains key)
  if present then
    let amount ← eval (usage.item key)
    eval (counterInc amount)
    note (.metric (metric amount))

/-- `except (json.JSONDecodeError, UnicodeDecodeError, ValueError)`. -/
def onAccountingError : Raised → Py service Locals Unit
  | .error e =>
    if e.isInstance [.jsonDecodeError, .unicodeDecodeError, .valueError] then pure ()
    else raiseError e
  | raised => Py.raise raised

def trackTokens (response : Bytes) : Py service Locals Unit :=
  Py.tryExcept
    (do
      let responseData ← eval (jsonLoads a.app.recursionLimit response)
      let usage ← eval (responseData.get "usage" (.obj []))
      countTokens usage "prompt_tokens" (.inputTokens a.backendUrl a.modelName)
      countTokens usage "completion_tokens" (.outputTokens a.backendUrl a.modelName))
    onAccountingError

/-- Only a response that was not streamed is looked into. -/
def accountTokens (l : Locals) : Py service Locals Unit :=
  if !a.isStreaming.truthy && !l.fullResponse.isEmpty then a.trackTokens l.fullResponse
  else pure ()

def storeResponse (l : Locals) : Py service Locals Unit :=
  if a.app.semanticCacheAvailable then
    let cacheChunk := if !a.isStreaming.truthy then l.fullResponse else l.lastChunk
    note (.storeInSemanticCache a.endpoint a.request.method a.body cacheChunk)
  else pure ()

def addPostRequest (l : Locals) : Py service Locals Unit :=
  if a.app.callbacks then note (.addPostRequestTask l.fullResponse) else pure ()

/-- What follows the complete response inside the `try` block. -/
def afterResponse : Py service Locals Unit := do
  Py.update fun l => { l with
    terminalOutcome := .complete
    requestStatus := if l.httpStatusCode.any (400 ≤ ·) then "error" else "success" }
  let l ← Py.locals
  a.accountTokens l
  a.storeResponse l
  a.addPostRequest l

def isEventStream (contentType : String) : Bool :=
  startsWith (lower contentType) "text/event-stream"

/-- The two `except` clauses. -/
def onRaised : Raised → Py service Locals Unit
  | .interrupt i => do
      let l ← Py.locals
      if l.entryTimeout.any (·.expired) then
        Py.update fun l => { l with requestStatus := "error", terminalOutcome := .fail }
        note (.metric (.requestErrors a.backendUrl a.modelName "TimeoutError"))
        a.endSpan (some (.interrupt i))
        Py.raise (.interrupt i)
      else
        Py.update fun l => { l with requestStatus := "aborted", terminalOutcome := .abort }
        Py.raise (.interrupt i)
  | .error e => do
      Py.update fun l => { l with requestStatus := "error", terminalOutcome := .fail }
      note (.metric (.requestErrors a.backendUrl a.modelName e.cls.name))
      a.endSpan (some (.error e))
      let l ← Py.locals
      if l.headersSent && e.isInstance [.timeoutError] && isEventStream l.backendContentType then
        note (.stashStallError e)
        yieldItem (.chunk (sseStallFrames a.clientTimeout).1)
        yieldItem (.chunk (sseStallFrames a.clientTimeout).2)
      else raiseError e

/-- The `finally` clause. -/
def retire : Py service Locals Unit := do
  let l ← Py.locals
  let t ← time
  let hook ← note (.finalize l.terminalOutcome a.handle t)
  match hook with
  | .ok () => do
      let t ← time
      note (.metric (.requestLatency a.backendUrl a.modelName l.requestStatus (t - a.startTime)))
      a.endSpan none
  | .error _ => raiseError (.new .keyError a.backendUrl)

def run : Py service Locals Unit :=
  Py.tryFinally
    (Py.tryExcept
      (do
        a.timedExchange
        a.afterResponse)
      a.onRaised)
    a.retire

end BackendCall

def onParseError : Raised → Py service Locals (Json × Json)
  | .error e =>
    if e.isInstance [.requestsJsonDecodeError, .unicodeDecodeError, .valueError] then
      raiseError (.http 400 "Request body is not JSON parsable.")
    else raiseError e
  | raised => Py.raise raised

/-- `json.loads(body)` and the two fields read from it. -/
def parseBody (app : App) (body : Body) : Py service Locals (Json × Json) :=
  Py.tryExcept
    (do
      let requestJson ← eval (body.loads app.recursionLimit)
      let isStreaming ← eval (requestJson.get "stream" (.bool false))
      let modelName ← eval (requestJson.get "model" (.str "unknown"))
      pure (isStreaming, modelName))
    onParseError

def openSpan (tracingActive : Bool) : Py service Locals (Option Nat) :=
  if tracingActive then do
    let span ← note (.startSpan "process_request")
    pure (some span)
  else pure none

def tracedHeaders (headers : Headers) : Option Nat → Py service Locals Headers
  | some span => note (.injectContext headers span)
  | none => pure headers

/-- The generator, with its locals still open. -/
def processRequestBody (app : App) (request : HttpRequest) (body : Body)
    (backendUrl requestId endpoint : String) (parentSpan : Option Nat) :
    Py service Locals Unit := do
  let span ← openSpan (app.otelEnabled && parentSpan.isSome)
  let (isStreaming, modelName) ← parseBody app body
  let startTime ← time
  let handle ← note (.onNewRequest backendUrl requestId startTime)
  let headers ← tracedHeaders (buildBackendRequestHeaders request requestId true) span
  BackendCall.run {
    app, request, body, backendUrl, requestId, endpoint, span, isStreaming, modelName,
    startTime, handle, headers }

def processRequest (app : App) (request : HttpRequest) (body : Body)
    (backendUrl requestId endpoint : String) (parentSpan : Option Nat) :
    Prog service (Except Raised Unit) :=
  (processRequestBody app request body backendUrl requestId endpoint parentSpan
    Locals.start).bind fun (r, _) => .ret r

end ProductionStack.Request

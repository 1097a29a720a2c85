import ProductionStack.Request.RouteGeneral
import ProductionStack.Request.World

/-!
`proxy_multipart_request`: one attempt at one backend, for multipart forms. The
function opens a stats handle, and either retires it itself or hands it to the
generator behind a streaming response.
-/

namespace ProductionStack.Request

open Lib Python Stats Py

/-- `except (GeneratorExit, asyncio.CancelledError)` records an abort, `except
Exception` a failure. -/
def outcomeOf : Raised → TerminalOutcome
  | .interrupt _ => .abort
  | .error _ => .fail

/-- `getattr(request_stats_monitor, f"on_request_{outcome}")(handle, time.time())`. -/
def terminalHook {L : Type} (outcome : TerminalOutcome) (handle : RequestHandle) :
    Py service L Unit := do
  let t ← time
  let hook ← note (.finalize outcome handle t)
  match hook with
  | .ok () => pure ()
  | .error _ => raiseError (.new .keyError "")

/-- The `finally` clauses: close the response, then retire the handle. -/
def closeAndRetire {L : Type} (outcome : TerminalOutcome) (handle : RequestHandle) :
    Py service L Unit := do
  note .closeResponse
  terminalHook outcome handle

/-- Construct a response whose headers come from the backend. -/
def buildResponse {L α : Type} (response : α) : Py service L α := do
  let built ← note .buildResponse
  eval built
  pure response

def isJsonMediaType (contentType : String) : Bool :=
  let mediaType := lower (strip (beforeFirst contentType ';'))
  mediaType = "application/json" || endsWith mediaType "+json"

def FormValue.shown : FormValue → String
  | .text value => value
  | .file shown _ => shown

/-- `if not model`: an uploaded file is true, whatever it holds. -/
def FormValue.truthy : FormValue → Bool
  | .text value => value ≠ ""
  | .file _ _ => true

/-- `model in ep.model_names and not ep.sleep`. -/
def FormValue.servedBy (model : FormValue) (endpoint : EndpointInfo) : Bool :=
  match model with
  | .text value => endpoint.modelNames.contains value && !endpoint.sleep
  | .file _ _ => false

/-- The arguments of `proxy_multipart_request` and what it reads of the app.
`freshId` is `str(uuid.uuid4())`. -/
structure MultipartCall where
  router : RouterKind
  formData : Body
  model : Option FormValue
  endpoint : String
  request : HttpRequest
  stream : Bool
  freshId : String

/-- The variables of `traced_stream`. -/
structure StreamLocals where
  firstToken : Bool
  outcome : TerminalOutcome

namespace MultipartCall

variable (m : MultipartCall)

def requestId : String := header m.request.headers "X-Request-Id" m.freshId

/-- What the router is given of the body. Two of the routers get nothing. -/
def routingJson (model : FormValue) : JsonObject :=
  match m.router with
  | .roundRobin => []
  | .disaggregatedPrefill => []
  | _ => [("model", .str model.shown), ("prompt", .str "")]

def isBytes : Body → Bool
  | .multipart received _ => received
  | .raw _ => true
  | .dumped _ => false

def backendRequest (url : String) : BackendRequest where
  method := "POST"
  baseUrl := url
  path := m.endpoint
  headers := buildBackendRequestHeaders m.request m.requestId (isBytes m.formData)
  data := m.formData
  deadline := none

/-- `await client.post(...)`, which retires the handle when there is no response. -/
def post (url : String) (handle : RequestHandle) : Py service Unit BackendResponse :=
  Py.tryExcept
    (do
      let entry ← note (.sendRequest (m.backendRequest url))
      awaited entry)
    fun raised => do
      terminalHook (outcomeOf raised) handle
      Py.raise raised

def respHeaders (r : BackendResponse) : Headers :=
  let kept := r.headers.filter fun (key, _) => !(headersToStripFromResponse.contains (lower key))
  upsert "X-Request-Id" m.requestId (kept.foldl (fun d (key, value) => upsert key value d) [])

/-! The streaming response. -/

/-- One chunk of the backend: an empty one is not handed on. -/
def relayChunk (handle : RequestHandle) (chunk : Bytes) : Py service StreamLocals Unit :=
  if chunk.isEmpty then pure ()
  else do
    let l ← Py.locals
    if l.firstToken then yieldItem (.chunk chunk)
    else do
      Py.update fun l => { l with firstToken := true }
      let t ← time
      note (.onRequestResponse handle t)
      yieldItem (.chunk chunk)

def relayChunks (handle : RequestHandle) (ending : Ending) :
    List Bytes → Py service StreamLocals Unit
  | [] => do
      let wake ← note (.nextChunk (.ending ending))
      resume wake
      match ending with
      | .eof => pure ()
      | .raises e => raiseError e
  | chunk :: rest => do
      let wake ← note (.nextChunk (.chunk chunk))
      resume wake
      relayChunk handle chunk
      relayChunks handle ending rest

/-- The `try` block of `traced_stream` with its `except` clauses. -/
def relay (handle : RequestHandle) (r : BackendResponse) : Py service StreamLocals Unit :=
  Py.tryExcept
    (do
      relayChunks handle r.ending r.chunks
      Py.update fun l => { l with outcome := .complete })
    fun raised => do
      Py.update fun l => { l with outcome := outcomeOf raised }
      Py.raise raised

/-- The generator `traced_stream`. Nothing of it runs before its first `anext`. -/
def tracedStream (handle : RequestHandle) (r : BackendResponse) : Py service StreamLocals Unit :=
  Py.tryFinally (relay handle r)
    (do
      let l ← Py.locals
      closeAndRetire l.outcome handle)

def bodyIterator (handle : RequestHandle) (r : BackendResponse) :
    Prog service (Except Raised Unit) :=
  (tracedStream handle r ⟨false, .abort⟩).bind fun (result, _) => .ret result

def streamResponse (handle : RequestHandle) (r : BackendResponse) : Py service Unit Response :=
  Py.tryExcept
    (buildResponse (.streaming r.status (m.respHeaders r)
      (header r.headers "content-type" "text/event-stream") (bodyIterator handle r)))
    fun raised => do
      closeAndRetire (outcomeOf raised) handle
      Py.raise raised

/-! The response that is read in full. -/

/-- Formats such as plain text are opaque; JSON and HTML error pages are parsed. -/
def isOpaque (r : BackendResponse) : Bool :=
  let contentType := header r.headers "content-type" ""
  !(isJsonMediaType contentType) && lower (strip (beforeFirst contentType ';')) ≠ "text/html"

def readContent (r : BackendResponse) : Py service TerminalOutcome Content :=
  if isOpaque r then do
    let content ← note (.readBody .read)
    let bytes ← Py.ofExcept content
    pure (.bytes bytes)
  else do
    let content ← note (.readBody .json)
    let value ← Py.ofExcept content
    pure (.json value)

/-- The text of a response that is not JSON, or what the parser said about it. -/
def errorText (parseError : PyExc) : Py service TerminalOutcome String :=
  Py.tryExcept
    (do
      let content ← note (.readBody .text)
      Py.ofExcept content)
    fun
      | .error e => if e.isInstance [.clientError] then pure parseError.message else raiseError e
      | .interrupt i => Py.raise (.interrupt i)

/-- The `except` clauses of the read. -/
def onReadError (r : BackendResponse) : Raised → Py service TerminalOutcome PlainResponse
  | .error e =>
    if e.isInstance [.contentTypeError, .jsonDecodeError] then do
      let text ← errorText e
      Py.update fun _ => .complete
      buildResponse ⟨502, .json (.obj
        [("error", .str ("Backend returned non-JSON response: " ++ text))]), m.respHeaders r⟩
    else do
      Py.update fun _ => .fail
      raiseError e
  | .interrupt i => do
      Py.update fun _ => .abort
      Py.raise (.interrupt i)

/-- The `try` block of the read and its `else`. -/
def readAll (handle : RequestHandle) (r : BackendResponse) :
    Py service TerminalOutcome PlainResponse := do
  let t ← time
  note (.onRequestResponse handle t)
  let content ← readContent r
  let response ← buildResponse ⟨r.status, content, m.respHeaders r⟩
  Py.update fun _ => .complete
  pure response

def readResponse (handle : RequestHandle) (r : BackendResponse) :
    Py service TerminalOutcome PlainResponse :=
  Py.tryFinally (Py.tryExcept (m.readAll handle r) (m.onReadError r))
    (do
      let outcome ← Py.locals
      closeAndRetire outcome handle)

/-! The function. -/

/-- From the handle to the response, inside the outer `try`. -/
def proxyTo (url : String) : Py service Unit Response := do
  let t ← time
  let handle ← note (.onNewRequest url m.requestId t)
  let r ← m.post url handle
  if m.stream then m.streamResponse handle r
  else do
    let response ← Py.call (m.readResponse handle r) .abort
    pure (.plain response)

/-- The outer `except` clauses. A `ClientResponseError` has no attribute
`response`, so its clause raises. -/
def onProxyError : Raised → Py service Unit Response
  | .error e =>
    if e.isInstance [.clientResponseError] then
      raiseError (.new .attributeError
        ("'" ++ e.cls.name ++ "' object has no attribute 'response'"))
    else if e.isInstance [.clientError] then
      pure (.plain ⟨503, .json (.obj
        [("error", .str ("Failed to connect to backend: " ++ e.message))]), []⟩)
    else pure (.plain ⟨500, .json (.obj [("error", .str "Internal server error")]), []⟩)
  | .interrupt i => Py.raise (.interrupt i)

/-- Ask the router for one of the endpoints. -/
def chooseUrl (model : FormValue) (endpoints : List EndpointInfo) : Py service Unit String := do
  let t ← time
  let stats ← note (.getRequestStats t)
  match stats with
  | .error _ => raiseError (.new .keyError "")
  | .ok _ => do
      let routed ← note (.routeRequest m.router endpoints (m.routingJson model))
      let (url, _) ← Py.ofExcept routed
      pure url

def proxyModel (model : FormValue) : Py service Unit Response := do
  let endpoints ← note .getEndpointInfo
  match endpoints.filter model.servedBy with
  | [] =>
    pure (.plain ⟨404, .json (.obj
      [("error", .str ("No backend for model " ++ model.shown))]), []⟩)
  | first :: rest => do
      let url ← m.chooseUrl model (first :: rest)
      Py.tryExcept (m.proxyTo url) onProxyError

def proxyMultipartRequest : Py service Unit Response :=
  match m.model.filter (·.truthy) with
  | none =>
    pure (.plain (errorResponse 400 "Invalid request: missing 'model' in form data." m.requestId))
  | some model => m.proxyModel model

end MultipartCall

/-! What becomes of the handle and of the backend's response. -/

/-- The request has a handle that it has not retired, and has closed nothing. -/
structure Opened (handle : RequestHandle) (d : Digest) : Prop where
  issued : d.issued = [handle]
  live : d.live = [handle]
  retired : d.retired = []
  closed : d.closed = 0

/-- The handle is retired, once, and the response is closed if there was one. -/
structure Released (handle : RequestHandle) (d : Digest) : Prop where
  issued : d.issued = [handle]
  live : d.live = []
  retired : ∃ outcome, d.retired = [(outcome, handle)]
  closed : d.delivery.response.isSome → d.closed = 1

variable {handle : RequestHandle} {w : World} {d : Digest} {result : Except Raised Response}

theorem Opened.after (h : Opened handle d) {e : Event} (answer : e.Answer) (he : e.isBooked = false)
    : Opened handle (d.after ⟨e, answer⟩) := by
  have hafter : d.after ⟨e, answer⟩ = { d with delivery := d.delivery.after ⟨e, answer⟩ } :=
    Digest.after_delivery d d.delivery answer he
  rw [hafter]
  exact ⟨h.issued, h.live, h.retired, h.closed⟩

section Hooks

variable {L α : Type} {l : L} (outcome : TerminalOutcome)

/-- What books nothing leaves the handle open. -/
theorem opened_of_performs {p : Py service L α}
    (hp : Performs (fun e : Event => e.isPlain = true) p) (hw : Opened handle (digest w.log)) :
    Ensures tracked (fun _ _ => True) p l w fun _ _ w' => Opened handle (digest w'.log) := by
  refine hp.ensures (fun _ _ _ _ => trivial) ?_ hw
  intro w e answer w' hopened he hstep
  rw [digest_step hstep]
  exact hopened.after answer (Event.unbooked_of_plain he)

/-- A terminal hook returns, and books the handle as retired. -/
theorem terminalHook_spec (handle : RequestHandle) :
    Ensures tracked (fun _ _ => True) (terminalHook outcome handle) l w fun r l' w' =>
      r = .ok () ∧ l' = l ∧
        ∃ t, digest w'.log = (digest w.log).after ⟨.finalize outcome handle t, .ok ()⟩ := by
  apply ensures_note trivial
  intro t w₁ _ htime
  apply ensures_note trivial
  intro hook w₂ hstep hfinal
  have hok : hook = .ok () := by
    obtain ⟨htracked, ⟨-, -, hmoves⟩, -⟩ := hstep
    rw [← hook_ok htracked.coherent outcome handle t]
    exact (congrArg Prod.fst hmoves).symm
  have hquiet : digest w₁.log = digest w.log := htime.trans (Digest.after_silent _ _ rfl)
  subst hok
  exact ⟨rfl, rfl, t, hquiet ▸ hfinal⟩

theorem closeAndRetire_spec (hw : Opened handle (digest w.log)) :
    Ensures tracked (fun _ _ => True) (closeAndRetire outcome handle) l w fun r _ w' =>
      r = .ok () ∧ Released handle (digest w'.log) := by
  apply ensures_note trivial
  intro _ w₁ _ hclose
  refine (terminalHook_spec outcome handle).imp ?_
  rintro r l' w' ⟨rfl, -, t, hdigest⟩
  refine ⟨rfl, ?_⟩
  rw [hdigest, hclose]
  exact ⟨by simp [Digest.after, issuedBy, hw.issued], by simp [Digest.after, openAfter, hw.live],
    ⟨outcome, by simp [Digest.after, hw.retired]⟩, fun _ => by simp [Digest.after, hw.closed]⟩

end Hooks

/-! The functions that only read the response and hand it on. -/

section Plain

variable {L α : Type} {E : Event → Prop} (hplain : ∀ e : Event, e.isPlain = true → E e)

include hplain

theorem performs_note {e : Event} (he : e.isPlain = true) : Performs E (note e : Py service L _) :=
  performs_perform (hplain e he)

omit hplain in
theorem resume_performs (wake : Wake) : Performs E (resume wake : Py service L Unit) := by
  cases wake <;> exact performs_ofExcept _

theorem yieldItem_performs (item : Item) : Performs E (yieldItem item : Py service L Unit) :=
  (performs_note hplain rfl).bind fun wake => resume_performs wake

theorem nextChunk_performs {p : Py service L α} (arrival : Arrival) (hp : Performs E p) :
    Performs E (note (.nextChunk arrival) >>= fun wake => resume wake >>= fun _ => p) :=
  (performs_note hplain rfl).bind fun wake => (resume_performs wake).bind fun _ => hp

theorem buildResponse_performs (response : α) :
    Performs E (buildResponse response : Py service L α) :=
  (performs_note hplain rfl).bind fun _ =>
    (performs_ofExcept _).bind fun _ => performs_ofExcept (.ok _)

namespace MultipartCall

theorem relayChunk_performs (handle : RequestHandle) (chunk : Bytes) :
    Performs E (relayChunk handle chunk) := by
  unfold relayChunk
  split
  · exact performs_ofExcept (.ok ())
  · apply performs_locals.bind
    intro l
    split
    · exact yieldItem_performs hplain _
    · apply (performs_update _).bind
      intro _
      apply (performs_note hplain rfl).bind
      intro t
      exact (performs_note hplain rfl).bind fun _ => yieldItem_performs hplain _

theorem relayChunks_performs (handle : RequestHandle) (ending : Ending) (chunks : List Bytes) :
    Performs E (relayChunks handle ending chunks) := by
  induction chunks with
  | nil =>
    apply nextChunk_performs hplain
    cases ending <;> exact performs_ofExcept _
  | cons chunk rest ih =>
    apply nextChunk_performs hplain
    exact (relayChunk_performs hplain handle chunk).bind fun _ => ih

/-- The `try` statement of `traced_stream`. -/
theorem relay_performs (handle : RequestHandle) (r : BackendResponse) :
    Performs E (relay handle r) := by
  apply Performs.tryExcept
  · exact (relayChunks_performs hplain handle r.ending r.chunks).bind fun _ => performs_update _
  · intro raised
    exact (performs_update _).bind fun _ => performs_ofExcept _

theorem readContent_performs (r : BackendResponse) : Performs E (readContent r) := by
  unfold readContent
  split <;>
  · apply (performs_note hplain rfl).bind
    intro content
    exact (performs_ofExcept content).bind fun _ => performs_ofExcept (.ok _)

theorem errorText_performs (e : PyExc) : Performs E (errorText e) := by
  apply Performs.tryExcept
  · exact (performs_note hplain rfl).bind fun content => performs_ofExcept content
  · intro raised
    cases raised with
    | interrupt i => exact performs_ofExcept _
    | error e =>
      change Performs _ (if _ then _ else _)
      split <;> exact performs_ofExcept _

theorem onReadError_performs (m : MultipartCall) (r : BackendResponse) (raised : Raised) :
    Performs E (m.onReadError r raised) := by
  cases raised with
  | interrupt i => exact (performs_update _).bind fun _ => performs_ofExcept _
  | error e =>
    change Performs _ (if _ then _ else _)
    split
    · apply (errorText_performs hplain e).bind
      intro text
      exact (performs_update _).bind fun _ => buildResponse_performs hplain _
    · exact (performs_update _).bind fun _ => performs_ofExcept _

theorem readAll_performs (m : MultipartCall) (handle : RequestHandle) (r : BackendResponse) :
    Performs E (m.readAll handle r) := by
  apply (performs_note hplain rfl).bind
  intro t
  apply (performs_note hplain rfl).bind
  intro _
  apply (readContent_performs hplain r).bind
  intro content
  apply (buildResponse_performs hplain _).bind
  intro response
  exact (performs_update _).bind fun _ => performs_ofExcept (.ok _)

end MultipartCall

end Plain

namespace MultipartCall

variable (m : MultipartCall) {l : Unit} (url : String) (r : BackendResponse) (model : FormValue)
  (endpoints : List EndpointInfo)

/-- Without a response the handle is retired right away. -/
theorem post_spec (hw : Opened handle (digest w.log)) :
    Ensures tracked (fun _ _ => True) (m.post url handle) l w fun r _ w' => match r with
      | .ok _ => Opened handle (digest w'.log)
      | .error _ => Released handle (digest w'.log) := by
  apply ensures_note trivial
  intro entry w₁ _ hsent
  have hopened : Opened handle (digest w₁.log) := by
    rw [hsent]
    exact ⟨by simp [Digest.after, issuedBy, hw.issued], by simp [Digest.after, openAfter, hw.live],
      by simp [Digest.after, hw.retired], by simp [Digest.after, hw.closed]⟩
  have hresponse : (digest w₁.log).delivery.response = entry.response? := by
    rw [hsent]
    rfl
  have hfailed (raised : Raised) (hnone : entry.response? = none) :
      Ensures tracked (fun _ _ => True)
        (do terminalHook (outcomeOf raised) handle; Py.raise raised : Py service Unit BackendResponse)
        l w₁ fun r _ w' => match r with
          | .ok _ => Opened handle (digest w'.log)
          | .error _ => Released handle (digest w'.log) := by
    apply ensures_seq (terminalHook_spec (outcomeOf raised) handle)
    · rintro _ _ w₂ ⟨-, -, t, hdigest⟩
      change Released handle (digest w₂.log)
      rw [hdigest]
      refine ⟨?_, ?_, ⟨outcomeOf raised, ?_⟩, ?_⟩
      · simp [Digest.after, issuedBy, hopened.issued]
      · simp [Digest.after, openAfter, hopened.live]
      · simp [Digest.after, hopened.retired]
      · simp [Digest.after, Delivery.after, hresponse, hnone]
    · rintro _ _ _ ⟨h, -⟩
      cases h
  cases entry with
  | response r => exact hopened
  | raised e => exact hfailed (.error e) rfl
  | deadline => exact hfailed (.error _) rfl
  | interrupted i expired => exact hfailed (.interrupt i) rfl

/-! The streaming response. -/

/-- A `try` statement that keeps the handle open, and a `finally` clause that
closes the response and retires the handle. -/
theorem released_finally {L α : Type} {l : L} {body : Py service L α}
    (outcome : L → TerminalOutcome) (hbody : Performs (fun e : Event => e.isPlain = true) body)
    (hw : Opened handle (digest w.log)) : Ensures tracked (fun _ _ => True) (Py.tryFinally body do
        let l ← Py.locals
        closeAndRetire (outcome l) handle) l w
      fun _ _ w' => Released handle (digest w'.log) := by
  apply ensures_withExit.mpr
  refine (opened_of_performs hbody hw).imp ?_
  intro r l₁ w₁ hopened
  apply ensures_locals_bind
  refine (closeAndRetire_spec (outcome l₁) hopened).imp ?_
  rintro _ _ _ ⟨rfl, hreleased⟩
  exact hreleased

/-- Once started, the generator releases what it was given, however it ends. -/
theorem bodyIterator_releases (hw : Opened handle (digest w.log)) :
    Prog.Always tracked (fun _ _ => True) (fun w' _ => Released handle (digest w'.log))
      (bodyIterator handle r) w := by
  apply (Prog.always_bind _ _ _).mpr
  exact released_finally StreamLocals.outcome (relay_performs (fun _ h => h) handle r) hw

/-- Whether the caller gets a body iterator. -/
def streams : Except Raised Response → Bool
  | .ok (.streaming _ _ _ _) => true
  | _ => false

/-- What a call leaves behind: nothing, a released handle, or a body iterator
that owns the handle. -/
inductive Leaves : Except Raised Response → Digest → Prop where
  | nothing {result : Except Raised Response} {d : Digest} (hplain : streams result = false)
      (h : d = .start) : Leaves result d
  | released {result : Except Raised Response} {d : Digest} {handle : RequestHandle}
      (hplain : streams result = false) (h : Released handle d) : Leaves result d
  | iterator {d : Digest} {handle : RequestHandle} (status : Nat) (headers : Headers)
      (mediaType : String) (r : BackendResponse) (h : Opened handle d) :
      Leaves (.ok (.streaming status headers mediaType (bodyIterator handle r))) d

/-- A handler that answers instead leaves the same behind. -/
theorem Leaves.answered {raised : Raised}
    (h : Leaves (.error raised) d) (hplain : streams result = false) : Leaves result d := by
  cases h with
  | nothing _ h => exact .nothing hplain h
  | released _ h => exact .released hplain h

theorem streamResponse_spec (hw : Opened handle (digest w.log)) :
    Ensures tracked (fun _ _ => True) (m.streamResponse handle r) l w fun result _ w' =>
      Leaves result (digest w'.log) := by
  apply ensures_tryExcept.mpr
  apply ensures_note trivial
  intro built w₁ _ hdigest
  have hopened : Opened handle (digest w₁.log) := hdigest ▸ hw.after (e := .buildResponse) built rfl
  cases built with
  | ok _ => exact .iterator _ _ _ r hopened
  | error e =>
    apply ensures_eval_error rfl
    apply ensures_seq (closeAndRetire_spec (outcomeOf (.error e)) hopened)
    · rintro _ _ w₂ ⟨-, hreleased⟩
      exact .released rfl hreleased
    · rintro _ _ _ ⟨h, -⟩
      cases h

/-! The response that is read in full. -/

theorem readResponse_releases {l : TerminalOutcome} (hw : Opened handle (digest w.log)) :
    Ensures tracked (fun _ _ => True) (m.readResponse handle r) l w fun _ _ w' =>
      Released handle (digest w'.log) := by
  apply released_finally (fun outcome => outcome) ?_ hw
  exact (readAll_performs (fun _ h => h) m handle r).tryExcept
    (onReadError_performs (fun _ h => h) m r)

/-! The function. -/

theorem proxyTo_spec (hw : digest w.log = .start) :
    Ensures tracked (fun _ _ => True) (m.proxyTo url) l w fun result _ w' =>
      Leaves result (digest w'.log) := by
  apply ensures_note trivial
  intro t w₁ _ htime
  apply ensures_note trivial
  intro handle w₂ _ hissued
  have hopened : Opened handle (digest w₂.log) := by
    rw [hissued, htime, hw]
    exact ⟨rfl, rfl, rfl, rfl⟩
  apply ensures_seq (m.post_spec url hopened)
  · intro r l w₃ hopened
    split
    · exact m.streamResponse_spec r hopened
    · apply ensures_bind.mpr
      apply ensures_call.mpr
      refine (m.readResponse_releases r hopened).imp ?_
      intro result _ w₄ hreleased
      cases result with
      | ok response | error raised => exact .released rfl hreleased
  · intro e _ _ hreleased
    exact .released rfl hreleased

/-- The outer handlers answer or raise; they never stream. -/
theorem onProxyError_spec (raised : Raised) (l : Unit) :
    Ensures tracked (fun _ _ => True) (onProxyError raised) l w fun result _ w' =>
      streams result = false ∧ w' = w := by
  cases raised with
  | interrupt i => exact ⟨rfl, rfl⟩
  | error e =>
    change Ensures _ _ (if _ then _ else if _ then _ else _) _ _ _
    split
    · exact ⟨rfl, rfl⟩
    · split <;> exact ⟨rfl, rfl⟩

theorem chooseUrl_silent :
    Performs (fun e : Event => e.isSilent = true) (m.chooseUrl model endpoints) := by
  have hnote {e : Event} (he : e.isSilent = true) :
      Performs (fun e : Event => e.isSilent = true) (note e : Py service Unit _) :=
    performs_perform he
  apply (hnote rfl).bind
  intro t
  apply (hnote rfl).bind
  intro stats
  cases stats with
  | error e => exact performs_ofExcept _
  | ok stats =>
    apply (hnote rfl).bind
    intro routed
    exact (performs_ofExcept routed).bind fun _ => performs_ofExcept (.ok _)

theorem chooseUrl_start (hw : digest w.log = .start) :
    Ensures tracked (fun _ _ => True) (m.chooseUrl model endpoints) l w fun _ _ w' =>
      digest w'.log = .start := by
  refine (m.chooseUrl_silent model endpoints).ensures (fun _ _ _ _ => trivial) ?_ hw
  intro w e answer w' hstart he hstep
  rw [digest_step hstep, Digest.after_silent _ _ he, hstart]

theorem proxyMultipartRequest_spec (hw : digest w.log = .start) :
    Ensures tracked (fun _ _ => True) m.proxyMultipartRequest l w fun result _ w' =>
      Leaves result (digest w'.log) := by
  unfold proxyMultipartRequest
  split
  · exact Leaves.nothing rfl hw
  · rename_i model _
    apply ensures_note trivial
    intro endpoints w₁ _ hendpoints
    have hstart : digest w₁.log = .start := by
      rw [hendpoints, hw]
      rfl
    split
    · exact Leaves.nothing rfl hstart
    · apply ensures_seq (m.chooseUrl_start model _ hstart)
      · intro url l w₂ hstart
        apply ensures_tryExcept.mpr
        refine (m.proxyTo_spec url hstart).imp ?_
        intro result l w₃ hleaves
        cases result with
        | ok response => exact hleaves
        | error raised =>
          refine (onProxyError_spec raised l).imp ?_
          rintro result _ _ ⟨hplain, rfl⟩
          exact hleaves.answered hplain
      · intro raised _ w₂ hstart
        exact .nothing rfl hstart

end MultipartCall

/-! The caller. -/

/-- What the caller does with a body iterator: iterate it, until it ends, the
caller stops or is cancelled; or drop or close it without ever starting it. -/
inductive Treatment where
  | iterate
  | discard
  deriving DecidableEq

def treatBody (treatment : Treatment) : Response → Prog service (Except Raised Unit)
  | .plain _ => .ret (.ok ())
  | .streaming _ _ _ body =>
    match treatment with
    | .iterate => body
    | .discard => .ret (.ok ())

/-- A call of a routing function, and then its caller. -/
def serveResponse (treatment : Treatment) (p : Py service Unit Response) :
    Prog service (Except Raised Response) :=
  (p ()).bind fun
    | (.ok response, _) => (treatBody treatment response).bind fun _ => .ret (.ok response)
    | (.error raised, _) => .ret (.error raised)

def MultipartCall.serve (m : MultipartCall) (treatment : Treatment) :
    Prog service (Except Raised Response) :=
  serveResponse treatment m.proxyMultipartRequest

/-- Every handle the request opened is retired exactly once, and the response it
got, if it got one, is closed. -/
structure AllReleased (w : World) : Prop where
  retiredOnce : ∀ handle ∈ (digest w.log).issued,
    (((digest w.log).retired.map Prod.snd).count handle = 1 ∧
      handle ∉ w.monitor.activeRequests)
  responseClosed : (digest w.log).delivery.response.isSome → 0 < (digest w.log).closed

theorem allReleased_of_start (h : digest w.log = .start) : AllReleased w := by
  constructor
  · intro handle member
    rw [h] at member
    cases member
  · intro hsome
    rw [h] at hsome
    cases hsome

theorem allReleased_of_released (hw : Tracked w) (h : Released handle (digest w.log)) :
    AllReleased w := by
  obtain ⟨outcome, hretired⟩ := h.retired
  constructor
  · intro other member
    have hissued : other ∈ issuedHandles w.log := digest_issued w.log ▸ member
    rw [h.issued, List.mem_singleton] at member
    subst member
    constructor
    · simp [hretired]
    · rw [hw.active other hissued, ← digest_live, h.live]
      exact List.not_mem_nil
  · intro hsome
    have hclosed := h.closed hsome
    omega

theorem not_allReleased_of_opened (h : Opened handle (digest w.log)) : ¬ AllReleased w := by
  intro hreleased
  have member : handle ∈ (digest w.log).issued := by simp [h.issued]
  have hcount := (hreleased.retiredOnce handle member).1
  simp [h.retired] at hcount

variable {treatment : Treatment}

/-- The caller got a body iterator and never starts it. -/
def Unstarted (treatment : Treatment) (result : Except Raised Response) : Prop :=
  treatment = .discard ∧ MultipartCall.streams result = true

/-- What a call and its caller leave behind. -/
inductive HandedOver (treatment : Treatment) (result : Except Raised Response) (d : Digest) :
    Prop where
  | nothing (hstarted : ¬ Unstarted treatment result) (h : d = .start)
  | released (hstarted : ¬ Unstarted treatment result) {handle : RequestHandle}
      (h : Released handle d)
  | abandoned (hunstarted : Unstarted treatment result) {handle : RequestHandle}
      (h : Opened handle d)

theorem not_unstarted (h : MultipartCall.streams result = false) :
    ¬ Unstarted treatment result := by
  rintro ⟨-, hstreams⟩
  rw [h] at hstreams
  cases hstreams

/-- Without a body iterator the caller has nothing to do. -/
theorem handedOver_of_plain (h : MultipartCall.Leaves result d)
    (hplain : MultipartCall.streams result = false) : HandedOver treatment result d := by
  cases h with
  | nothing _ h => exact .nothing (not_unstarted hplain) h
  | released _ h => exact .released (not_unstarted hplain) h
  | iterator status headers mediaType r h => cases hplain

theorem treatBody_spec (treatment : Treatment) {response : Response}
    (h : MultipartCall.Leaves (.ok response) (digest w.log)) : Prog.Always tracked (fun _ _ => True)
      (fun w' _ => HandedOver treatment (.ok response) (digest w'.log))
      (treatBody treatment response) w := by
  cases response with
  | plain response => exact handedOver_of_plain h rfl
  | streaming status headers mediaType body =>
    cases h with
    | nothing hplain _ => cases hplain
    | released hplain _ => cases hplain
    | iterator _ _ _ r h =>
      cases treatment with
      | discard => exact HandedOver.abandoned ⟨rfl, rfl⟩ h
      | iterate =>
        refine (MultipartCall.bodyIterator_releases r h).imp ?_
        intro w' _ hreleased
        refine .released ?_ hreleased
        rintro ⟨htreatment, -⟩
        cases htreatment

theorem serve_spec (m : MultipartCall) (treatment : Treatment) (hw : digest w.log = .start) :
    Prog.Always tracked (fun _ _ => True)
      (fun w' result => HandedOver treatment result (digest w'.log)) (m.serve treatment) w := by
  apply (Prog.always_bind _ _ _).mpr
  refine Prog.Always.imp (m.proxyMultipartRequest_spec hw) ?_
  rintro w₁ ⟨result, l⟩ hleaves
  cases result with
  | ok response =>
    apply (Prog.always_bind _ _ _).mpr
    exact treatBody_spec treatment hleaves
  | error raised => exact handedOver_of_plain hleaves rfl

/-- In every run of a call and its caller, the handle is retired exactly once and
the backend's response closed, unless the caller never starts the body iterator
it was given. -/
theorem multipart_settled_iff (m : MultipartCall) (treatment : Treatment) (window : ℚ)
    (earlier : List Op) (result : Except Raised Response) (w : World)
    (hrun : Prog.Reaches allows (m.serve treatment) (.start window earlier) (.ret result) w) :
    AllReleased w ↔ ¬ (treatment = .discard ∧ MultipartCall.streams result = true) := by
  have htracked : Tracked w := tracked_of_reaches hrun
  have hhanded : HandedOver treatment result (digest w.log) :=
    (serve_spec m treatment rfl).returned (reaches_tracked hrun)
  cases hhanded with
  | nothing hstarted h => exact iff_of_true (allReleased_of_start h) hstarted
  | released hstarted h => exact iff_of_true (allReleased_of_released htracked h) hstarted
  | abandoned hunstarted h =>
    exact iff_of_false (not_allReleased_of_opened h) (not_not_intro hunstarted)

def transcription : MultipartCall where
  router := .roundRobin
  formData := .multipart false [("model", .text "whisper"), ("stream", .text "true")]
  model := some (.text "whisper")
  endpoint := "/v1/audio/transcriptions"
  request := ⟨"POST", []⟩
  stream := true
  freshId := "r"

/-- One engine serves the model and answers with one chunk. -/
def transcribes : (e : Event) → e.Answer
  | .getEndpointInfo => [⟨"http://a", ["whisper"], "a", none, false⟩]
  | .sendRequest _ => Entry.response ⟨200, [], [encode "text"], .eof, "OK"⟩
  | e => calm e

theorem transcribes_answerable (e : Event) : answerable e (transcribes e) := by
  cases e with
  | sendRequest _ => exact trivial
  | getEndpointInfo => exact trivial
  | _ => exact calm_answerable _

theorem multipart_settled_iterated : ∃ result w,
    Prog.Reaches allows (transcription.serve .iterate) (.start 60 []) (.ret result) w ∧
    (digest w.log).retired = [(.complete, ⟨0⟩)] ∧ AllReleased w := by
  have hrun := scripted_reaches transcribes transcribes_answerable
    (transcription.serve .iterate) (.start 60 [])
  refine ⟨_, _, hrun, rfl, ?_⟩
  exact (multipart_settled_iff transcription .iterate 60 [] _ _ hrun).mpr (by simp)

/-- The client is gone before the body iterator is started: the handle stays
open and so does the response. -/
theorem multipart_abandoned_unstarted : ∃ result w,
    Prog.Reaches allows (transcription.serve .discard) (.start 60 []) (.ret result) w ∧
    (digest w.log).issued = [⟨0⟩] ∧ (digest w.log).retired = [] ∧
    (digest w.log).delivery.response.isSome ∧ (digest w.log).closed = 0 ∧ ¬ AllReleased w := by
  have hrun := scripted_reaches transcribes transcribes_answerable
    (transcription.serve .discard) (.start 60 [])
  refine ⟨_, _, hrun, rfl, rfl, rfl, rfl, ?_⟩
  exact not_allReleased_of_opened ⟨rfl, rfl, rfl, rfl⟩

end ProductionStack.Request

import ProductionStack.Request.Footprint

/-!
Errors against the status of the response. A backend that answers with an error
status, or fails before its headers, should not be reported as a success. Every
path that waits for the headers before it responds reports it; the one that asks
the decode engine from within the body of its response cannot.
-/

namespace ProductionStack.Request

open Lib Python Stats Py

/-- The status FastAPI answers with for an exception of a route. -/
def httpStatus (e : PyExc) : Nat :=
  if e.isInstance [.httpException] then e.statusCode.getD 500 else 500

/-- The status that the client receives, if it receives a response. -/
def clientStatus : Except Raised Response → Option Nat
  | .ok (.plain response) => some response.status
  | .ok (.streaming status _ _ _) => some status
  | .error (.error e) => some (httpStatus e)
  | .error (.interrupt _) => none

/-- The backend answers with an error status, or fails before its headers. -/
def Entry.Failed : Entry → Prop
  | .response r => 400 ≤ r.status
  | .raised _ => True
  | .deadline => True
  | .interrupted _ _ => False

/-- What the HTTP client and the routers raise is no `HTTPException` of a status that
is not an error. -/
def civil : (e : Event) → e.Answer → Prop
  | .sendRequest _, .raised e => 400 ≤ httpStatus e
  | .readBody _, .error (.error e) => 400 ≤ httpStatus e
  | .routeRequest _ _ _, .error (.error e) => 400 ≤ httpStatus e
  | _, _ => True

def entriesOf : (e : Event) → e.Answer → List Entry
  | .sendRequest _, entry => [entry]
  | _, _ => []

/-- The state is what the backends answered so far. -/
def exchanges : Env service (List Entry) := fun entries e answer entries' =>
  civil e answer ∧ entries' = entries ++ entriesOf e answer

/-- What every run brings about; nothing is asked of its events. -/
abbrev Brings {L α : Type} (p : Py service L α) (l : L) (entries : List Entry)
    (post : Except Raised α → L → List Entry → Prop) : Prop :=
  Ensures exchanges (fun _ _ => True) p l entries post

/-- A request from its arrival to the end of the response's body. -/
def toClient (route : Py service Unit Response) : Prog service (Option Nat) :=
  (route ()).bind fun (result, _) =>
    match result with
    | .ok (.streaming status _ _ body) => body.bind fun _ => .ret (some status)
    | result => .ret (clientStatus result)

/-- The proxy paths. `route_general_request` tells three of them apart by the router. -/
inductive ProxyPath where
  | json (deployment : Deployment) (request : ClientRequest) (endpoint : String)
  | multipart (call : MultipartCall)

namespace ProxyPath

def route : ProxyPath → Py service Unit Response
  | json deployment request endpoint => routeGeneralRequest deployment request endpoint
  | multipart call => call.proxyMultipartRequest

/-- The router with two fixed clients. -/
def usesFixedClients : ProxyPath → Bool
  | json deployment _ _ => deployment.router = .disaggregatedPrefill
  | multipart _ => false

/-- What the backend answered that produces the client's content: the decode engine of
the router with two fixed clients, and otherwise the last backend that was asked. -/
def producer (path : ProxyPath) (entries : List Entry) : Option Entry :=
  if path.usesFixedClients then entries[1]? else entries.getLast?

end ProxyPath

/-! Results that report an error of the last backend. -/

/-- If the last backend failed, the client receives an error status, and the body of the
response asks no further backend. -/
structure Reports (result : Except Raised Response) (entries : List Entry) : Prop where
  status : ∀ entry ∈ entries.getLast?, entry.Failed → ∀ status ∈ clientStatus result, 400 ≤ status
  body : ∀ status headers mediaType body, result = .ok (.streaming status headers mediaType body) →
    body.Performs (Sends fun _ => False)

/-- Whatever is answered, the route reports errors. -/
def Reporting {L : Type} (p : Py service L Response) : Prop :=
  ∀ l, Ensures exchanges (fun _ _ => True) p l [] fun r _ entries => Reports r entries

def Event.isSend : Event → Bool
  | .sendRequest _ => true
  | _ => false

variable {e : Event} {L α : Type} {entries : List Entry} {raised : Raised} {r : BackendResponse}
  {l : ForwardingLocals} {Q : BackendRequest → Prop}

theorem entriesOf_unsent (he : e.isSend = false) (answer : e.Answer) : entriesOf e answer = [] := by
  cases e with
  | sendRequest _ => cases he
  | _ => rfl

theorem unsent_of_sends (he : Sends (fun _ => False) e) : e.isSend = false := by
  cases e with
  | sendRequest _ => exact absurd he id
  | _ => rfl

section Rules

variable {l : L} {p : Py service L α} {E : Event → Prop}
  {post : Except Raised α → L → List Entry → Prop} {f : α → Py service L Response}
  (response : PlainResponse)

/-- What sends nothing leaves the answers of the backends as they are. -/
theorem ensures_unsent (hE : ∀ e, E e → e.isSend = false) (hp : Performs E p) :
    Brings p l entries fun _ _ entries' => entries' = entries := by
  refine hp.ensures (fun _ _ _ _ => trivial) ?_ rfl
  intro entries₁ e answer entries₂ hsame he hstep
  rw [hstep.2, entriesOf_unsent (hE e he), List.append_nil, hsame]

/-- One event that sends nothing. -/
theorem ensures_note_unsent (he : e.isSend = false) {f : e.Answer → Py service L α}
    (h : ∀ answer, civil e answer → Brings (f answer) l entries post) :
    Brings (note e >>= f) l entries post := by
  apply ensures_perform_bind trivial
  intro answer entries' hstep
  rw [hstep.2, entriesOf_unsent he, List.append_nil]
  exact h answer hstep.1

theorem ensures_span_unsent {span : Option Nat} {error : Option Raised} {status : Nat}
    {f : Unit → Py service L α} (h : Brings (f ()) l entries post) :
    Brings (endRouterSpan span error status >>= f) l entries post := by
  cases span with
  | some span => exact ensures_note_unsent rfl fun _ _ => h
  | none => exact ensures_bind.mpr h

theorem reports_plain {response : PlainResponse} (h : 400 ≤ response.status) :
    Reports (.ok (.plain response)) entries := by
  refine ⟨?_, ?_⟩
  · intro _ _ _ status hstatus
    cases hstatus
    exact h
  · intro _ _ _ _ hbody
    cases hbody

theorem reports_raised (h : ∀ e, raised = .error e → 400 ≤ httpStatus e) :
    Reports (.error raised) entries := by
  refine ⟨?_, ?_⟩
  · intro _ _ _ status hstatus
    cases raised with
    | error e =>
      cases hstatus
      exact h e rfl
    | interrupt i => cases hstatus
  · intro _ _ _ _ hbody
    cases hbody

/-- Before a backend was asked there is nothing to report. -/
theorem reports_raised_nil (raised : Raised) : Reports (.error raised) [] := by
  refine ⟨?_, ?_⟩
  · intro _ hentry
    cases hentry
  · intro _ _ _ _ hbody
    cases hbody

theorem reports_plain_nil : Reports (.ok (.plain response)) [] := by
  refine ⟨?_, ?_⟩
  · intro _ hentry
    cases hentry
  · intro _ _ _ _ hbody
    cases hbody

/-- The status of the response is that of the last backend. -/
theorem reports_of_last {result : Except Raised Response}
    (hlast : entries.getLast? = some (.response r))
    (hstatus : ∀ status ∈ clientStatus result, 400 ≤ r.status → 400 ≤ status)
    (hbody : ∀ status headers mediaType body,
      result = .ok (.streaming status headers mediaType body) →
        body.Performs (Sends fun _ => False)) : Reports result entries := by
  refine ⟨?_, hbody⟩
  intro entry hentry hfailed status hclient
  rw [hlast] at hentry
  cases hentry
  exact hstatus status hclient hfailed

/-- The first part sends nothing, and what it returns meets `Q`. -/
theorem Reporting.afterReturns {Q : α → Prop} (hE : ∀ e, E e → e.isSend = false) (hp : Performs E p)
    (hQ : Returns Q p) (hf : ∀ a, Q a → Reporting (f a)) : Reporting (p >>= f) := by
  intro l
  apply ensures_seq ((ensures_unsent hE hp).and (hQ.run _ exchanges l []))
  · rintro a l entries ⟨rfl, ha⟩
    exact hf a (ha a rfl) l
  · rintro e l entries ⟨rfl, -⟩
    exact reports_raised_nil e

theorem Reporting.after (hp : Performs (fun e : Event => e.isSend = false) p)
    (hf : ∀ a, Reporting (f a)) : Reporting (p >>= f) :=
  Reporting.afterReturns (fun _ h => h) hp (returns_any p) fun a _ => hf a

theorem reporting_pure : Reporting (pure (.plain response) : Py service L Response) :=
  fun _ => reports_plain_nil response

end Rules

/-! The generator of the general path, up to its first yield. -/

/-- A head that is yielded is that of the last backend. -/
def HeadKnown (entries : List Entry) (e : Event) : Prop :=
  ∀ headers status, e = .yields (.head headers status) →
    ∃ r, entries.getLast? = some (.response r) ∧ r.status = status

/-- What is raised is answered with an error status. -/
def Polite {α : Type} (r : Except Raised α) : Prop :=
  ∀ e, r = .error (.error e) → 400 ≤ httpStatus e

/-- Up to the first yield: the head is known, and what is raised is answered with an
error status. -/
def PoliteUntilYield {L α : Type} (p : Py service L α) : Prop :=
  ∀ l entries, Ensures (exchanges.before Event.isYield) HeadKnown p l entries fun r _ _ => Polite r

/-- No `HTTPException` at all. -/
theorem httpStatus_ge {e : PyExc} (h : e.isInstance [.httpException] = false) :
    400 ≤ httpStatus e := by
  unfold httpStatus
  rw [h]
  simp

theorem polite_new {cls : ExcClass} (message : String)
    (h : cls.mro.contains .httpException = false) : 400 ≤ httpStatus (.new cls message) := by
  apply httpStatus_ge
  simpa [PyExc.isInstance, PyExc.new] using h

theorem polite_of_loadsError {e : PyExc} (h : LoadsError e) : 400 ≤ httpStatus e := by
  apply httpStatus_ge
  unfold PyExc.isInstance
  simp only [LoadsError, List.mem_cons, List.not_mem_nil, or_false] at h
  rcases h with h | h | h | h <;> rw [h] <;> decide

theorem polite_get {j : Json} {key : String} {fallback : Json} (e : PyExc)
    (h : j.get key fallback = .error e) : 400 ≤ httpStatus e := by
  unfold Json.get at h
  split at h
  · cases h
  · cases h
    decide

theorem polite_loads {limit : Nat} {body : Body} (e : PyExc)
    (h : body.loads limit = .error e) : 400 ≤ httpStatus e := by
  cases body with
  | raw bytes => exact polite_of_loadsError (onlyLoadsErrors_jsonLoads limit bytes e h)
  | dumped value => cases h
  | multipart isBytes form =>
    cases isBytes <;> cases h <;> decide

section Polite

variable {β : Type} {body : Py service L α}

theorem polite_ok (a : α) : Polite (.ok a) := by
  intro e h
  cases h

theorem polite_error {e : PyExc} (h : 400 ≤ httpStatus e) :
    Polite (.error (.error e) : Except Raised α) := by
  intro e' he
  cases he
  exact h

theorem polite_interrupt (i : Interrupt) : Polite (.error (.interrupt i) : Except Raised α) := by
  intro e h
  cases h

theorem Polite.of_error (h : Polite (.error raised : Except Raised α)) :
    Polite (.error raised : Except Raised β) := by
  intro e he
  cases he
  exact h e rfl

theorem polite_ofExcept {r : Except Raised α} (h : Polite r) :
    PoliteUntilYield (Py.ofExcept r : Py service L α) := fun _ _ => h

theorem polite_eval {r : Except PyExc α} (h : ∀ e, r = .error e → 400 ≤ httpStatus e) :
    PoliteUntilYield (eval r : Py service L α) := by
  apply polite_ofExcept
  cases r with
  | ok a => exact polite_ok a
  | error e => exact polite_error (h e rfl)

theorem polite_note (he : e.isYield = false) : PoliteUntilYield (note e : Py service L _) := by
  intro l entries
  refine ⟨?_, fun _ _ _ => polite_ok _⟩
  intro headers status hhead
  rw [hhead] at he
  cases he

theorem polite_yieldChunk (chunk : Bytes) :
    PoliteUntilYield (yieldItem (.chunk chunk) : Py service L Unit) := by
  intro l entries
  refine ⟨?_, ?_⟩
  · intro headers status hhead
    cases hhead
  · intro _ _ hstep
    exact absurd hstep.1 (by simp [Event.isYield])

theorem PoliteUntilYield.bind {p : Py service L α} {f : α → Py service L β}
    (hp : PoliteUntilYield p) (hf : ∀ a, PoliteUntilYield (f a)) : PoliteUntilYield (p >>= f) := by
  intro l entries
  apply ensures_seq (hp l entries)
  · intro a l entries _
    exact hf a l entries
  · intro raised _ _ hraised
    exact hraised.of_error

theorem PoliteUntilYield.tryExcept {handler : Raised → Py service L α}
    (hbody : PoliteUntilYield body) (hhandler : ∀ raised, Polite (.error raised : Except Raised α) →
      PoliteUntilYield (handler raised)) : PoliteUntilYield (Py.tryExcept body handler) := by
  intro l entries
  apply ensures_tryExcept.mpr
  refine (hbody l entries).imp ?_
  intro r l entries hr
  cases r with
  | ok a => exact hr
  | error raised => exact hhandler raised hr l entries

theorem PoliteUntilYield.tryFinally {final : Py service L Unit}
    (hbody : PoliteUntilYield body) (hfinal : PoliteUntilYield final) :
    PoliteUntilYield (Py.tryFinally body final) := by
  intro l entries
  apply ensures_withExit.mpr
  refine (hbody l entries).imp ?_
  intro r l entries hr
  refine (hfinal l entries).imp ?_
  intro r' _ _ hr'
  cases r' with
  | ok _ => exact hr
  | error raised => exact hr'.of_error

end Polite

namespace BackendCall

variable (a : BackendCall) (l : Locals)

theorem endSpan_polite (error : Option Raised) : PoliteUntilYield (a.endSpan error) := by
  unfold endSpan
  split
  · exact polite_note rfl
  · exact polite_ofExcept (polite_ok ())

/-- Before the first yield the exchange does not end normally. -/
theorem exchange_polite (entries : List Entry) :
    Ensures (exchanges.before Event.isYield) HeadKnown a.exchange l entries
      fun r _ _ => (∀ u, r ≠ .ok u) ∧ Polite r := by
  apply ensures_perform_bind
  · intro headers status hhead
    cases hhead
  · rintro entry entries' ⟨-, hcivil, rfl⟩
    cases entry with
    | response r =>
      apply ensures_withExit.mpr
      apply ensures_update_bind
      -- The head is the first yield.
      apply ensures_perform_bind
      · rintro headers status ⟨⟩
        exact ⟨r, by simp [entriesOf], rfl⟩
      · intro _ _ hstep
        exact absurd hstep.1 (by simp [Event.isYield])
    | raised e => exact ⟨nofun, polite_error hcivil⟩
    | deadline => exact ⟨nofun, polite_interrupt _⟩
    | interrupted i expired => exact ⟨nofun, polite_interrupt i⟩

theorem timedExchange_polite (entries : List Entry) :
    Ensures (exchanges.before Event.isYield) HeadKnown a.timedExchange l entries
      fun r _ _ => (∀ u, r ≠ .ok u) ∧ Polite r := by
  apply ensures_update_bind
  apply ensures_tryExcept.mpr
  refine (a.exchange_polite _ _).imp ?_
  rintro r l entries ⟨hraised, hpolite⟩
  cases r with
  | ok u => exact absurd rfl (hraised u)
  | error raised =>
    apply ensures_locals_bind
    split
    · exact ⟨nofun, polite_error (by decide)⟩
    · exact ⟨nofun, hpolite⟩

theorem onRaised_polite (h : Polite (.error raised : Except Raised Unit)) :
    PoliteUntilYield (a.onRaised raised) := by
  cases raised with
  | interrupt i =>
    intro l entries
    apply ensures_locals_bind
    split
    · apply ensures_update_bind
      refine PoliteUntilYield.bind (polite_note rfl) (fun _ => ?_) _ _
      exact (a.endSpan_polite _).bind fun _ => polite_ofExcept (polite_interrupt i)
    · exact polite_interrupt i
  | error e =>
    intro l entries
    apply ensures_update_bind
    refine PoliteUntilYield.bind (polite_note rfl) (fun _ => ?_) _ _
    refine (a.endSpan_polite _).bind fun _ => ?_
    intro l entries
    apply ensures_locals_bind
    split
    · refine PoliteUntilYield.bind (polite_note rfl) (fun _ => ?_) _ _
      exact (polite_yieldChunk _).bind fun _ => polite_yieldChunk _
    · exact h

theorem retire_polite : PoliteUntilYield a.retire := by
  intro l entries
  apply ensures_locals_bind
  refine PoliteUntilYield.bind (polite_note rfl) (fun t => ?_) _ _
  refine PoliteUntilYield.bind (polite_note rfl) fun hook => ?_
  cases hook with
  | ok _ =>
    refine PoliteUntilYield.bind (polite_note rfl) fun t => ?_
    exact PoliteUntilYield.bind (polite_note rfl) fun _ => a.endSpan_polite none
  | error e => exact polite_ofExcept (polite_error (polite_new _ (by decide)))

theorem run_polite : PoliteUntilYield a.run := by
  apply PoliteUntilYield.tryFinally
  · apply PoliteUntilYield.tryExcept
    · intro l entries
      apply ensures_seq (a.timedExchange_polite l entries)
      · rintro u l entries ⟨hraised, -⟩
        exact absurd rfl (hraised u)
      · rintro raised _ _ ⟨-, hpolite⟩
        exact hpolite.of_error
    · intro raised hraised
      exact a.onRaised_polite hraised
  · exact a.retire_polite

/-- The request is sent before the first yield, and only there. -/
theorem run_thenSends : ThenPerforms Event.isYield (Sends fun _ => False) a.run := by
  apply ThenPerforms.tryFinally _ a.retire_sends
  apply ThenPerforms.tryExcept _ a.onRaised_sends
  apply ThenPerforms.bind _ fun _ => a.afterResponse_performs sends_of_aside
  apply ThenPerforms.after (performs_update _)
  intro _
  apply ThenPerforms.tryExcept
  · apply ThenPerforms.after (performs_perform rfl)
    intro entry
    apply Performs.thenPerforms
    cases entry with
    | response r => exact (a.relayResponse_sends r).withExit fun _ => leaveResponse_performs sends_of_aside
    | raised e => exact performs_ofExcept _
    | deadline | interrupted i expired =>
      exact (performs_update _).bind fun _ => performs_ofExcept _
  · intro raised
    apply performs_locals.bind
    intro l
    split <;> exact performs_ofExcept _

end BackendCall

section Generator

variable (app : App) (request : HttpRequest) (body : Body) (backendUrl requestId endpoint : String)
  (parentSpan : Option Nat)

theorem parseBody_polite : PoliteUntilYield (parseBody app body) := by
  apply PoliteUntilYield.tryExcept
  · refine (polite_eval polite_loads).bind fun requestJson => ?_
    refine (polite_eval polite_get).bind fun isStreaming => ?_
    exact (polite_eval polite_get).bind fun _ => polite_ofExcept (polite_ok _)
  · intro raised hraised
    cases raised with
    | interrupt i => exact polite_ofExcept (polite_interrupt i)
    | error e =>
      change PoliteUntilYield (if _ then _ else _)
      split
      · exact polite_ofExcept (polite_error (by decide))
      · exact polite_ofExcept hraised

theorem processRequestBody_polite : PoliteUntilYield
    (processRequestBody app request body backendUrl requestId endpoint parentSpan) := by
  have hspan : PoliteUntilYield (openSpan (app.otelEnabled && parentSpan.isSome)) := by
    unfold openSpan
    split
    · exact PoliteUntilYield.bind (polite_note rfl) fun _ => polite_ofExcept (polite_ok _)
    · exact polite_ofExcept (polite_ok _)
  refine hspan.bind fun span => ?_
  refine (parseBody_polite app body).bind fun parsed => ?_
  refine PoliteUntilYield.bind (polite_note rfl) fun startTime => ?_
  refine PoliteUntilYield.bind (polite_note rfl) fun handle => ?_
  have hheaders : PoliteUntilYield
      (tracedHeaders (buildBackendRequestHeaders request requestId true) span) := by
    cases span with
    | some span => exact polite_note rfl
    | none => exact polite_ofExcept (polite_ok _)
  exact hheaders.bind fun headers => BackendCall.run_polite _

theorem processRequest_thenSends :
    (processRequest app request body backendUrl requestId endpoint parentSpan).ThenPerforms
      Event.isYield (Sends fun _ => False) := by
  have hbody : ThenPerforms Event.isYield (Sends fun _ => False)
      (processRequestBody app request body backendUrl requestId endpoint parentSpan) := by
    refine ThenPerforms.after (openSpan_performs _ fun _ => rfl) fun span => ?_
    refine ThenPerforms.after (parseBody_performs app body) fun parsed => ?_
    refine ThenPerforms.after (performs_perform rfl) fun startTime => ?_
    refine ThenPerforms.after (performs_perform rfl) fun handle => ?_
    refine ThenPerforms.after (tracedHeaders_performs _ span fun _ => rfl) fun headers => ?_
    exact BackendCall.run_thenSends _
  exact (hbody.run Locals.start).bind fun _ => trivial

/-- What `anext` of the generator gives: the head of the last backend, with a rest that
asks no other; or an exception that is answered with an error status. -/
theorem firstItem_reports (l : L) (entries : List Entry) :
    Brings (firstItem (processRequest app request body backendUrl requestId endpoint parentSpan)) l
      entries fun r _ entries => match r with
        | .ok (_, status, rest) => rest.Performs (Sends fun _ => False) ∧
            ∃ r, entries.getLast? = some (.response r) ∧ r.status = status
        | .error raised => Polite (.error raised : Except Raised Unit) := by
  have hpolite : Prog.Always (exchanges.before Event.isYield) HeadKnown (fun _ r => Polite r)
      (processRequest app request body backendUrl requestId endpoint parentSpan) entries := by
    unfold processRequest
    rw [Prog.always_bind]
    exact processRequestBody_polite app request body backendUrl requestId endpoint parentSpan _ _
  have hfirst := Prog.always_anext_first hpolite
    (processRequest_thenSends app request body backendUrl requestId endpoint parentSpan)
  unfold Brings Ensures firstItem
  rw [Prog.always_bind]
  refine hfirst.imp ?_
  intro entries r hr
  cases r with
  | inr result =>
    cases result with
    | ok _ => exact polite_error (polite_new _ (by decide))
    | error raised => exact hr
  | inl stopped =>
    obtain ⟨e, next⟩ := stopped
    cases e with
    | yields item =>
      cases item with
      | head headers status => exact ⟨hr.2 .resumed, hr.1 headers status rfl⟩
      | chunk _ => exact polite_error (polite_new _ (by decide))
    | _ => exact polite_error (polite_new _ (by decide))

end Generator

/-! The failover loop. -/

/-- Between the loop and the response: the error of the last attempt is answered with an
error status, and without one the status is that of the last backend. -/
def ForwardingLocals.Settled (l : ForwardingLocals) (entries : List Entry) : Prop :=
  match l.lastError with
  | some e => 400 ≤ httpStatus e
  | none => ∃ generator r, l.streamGenerator = some generator ∧ l.status = some r.status ∧
      generator.Performs (Sends fun _ => False) ∧ entries.getLast? = some (.response r)

/-- There is an error to report, if there was an attempt. -/
def ForwardingLocals.Failing (l : ForwardingLocals) : Prop :=
  ∃ e, l.lastError = some e ∧ 400 ≤ httpStatus e

theorem ForwardingLocals.Failing.settled (h : l.Failing) : l.Settled entries := by
  obtain ⟨e, he, hstatus⟩ := h
  unfold ForwardingLocals.Settled
  rw [he]
  exact hstatus

namespace Forwarding

variable (f : Forwarding)

theorem preHeaderTimeoutResponse_status (requestId : String) (timeout : ClientTimeout)
    (e : PyExc) : 400 ≤ (preHeaderTimeoutResponse requestId timeout e).status := by
  unfold preHeaderTimeoutResponse
  split <;> exact (by decide : 400 ≤ 504)

theorem pickServer_reports (endpoints : List EndpointInfo) :
    Brings (f.pickServer endpoints) l entries fun r l' entries' =>
      Polite r ∧ l'.lastError = l.lastError ∧ entries' = entries := by
  unfold pickServer
  split
  · cases endpoints with
    | nil => exact ⟨polite_error (by decide), rfl, rfl⟩
    | cons first rest => exact ⟨polite_ok (), rfl, rfl⟩
  · apply ensures_locals_bind
    apply ensures_note_unsent rfl
    intro routed hcivil
    cases routed with
    | ok choice => exact ⟨polite_ok (), rfl, rfl⟩
    | error raised =>
      refine ⟨?_, rfl, rfl⟩
      cases raised with
      | error e => exact polite_error hcivil
      | interrupt i => exact polite_interrupt i

/-- What an attempt leaves behind. -/
def Attempted (r : Except Raised AfterAttempt) (l : ForwardingLocals) (entries : List Entry) :
    Prop :=
  match r with
  | .ok .stop => l.Settled entries
  | .ok .rotate => l.Failing
  | .ok (.respond response) => 400 ≤ response.status
  | .error raised => Polite (.error raised : Except Raised Unit)

theorem onAttemptError_reports (hraised : Polite (.error raised : Except Raised Unit)) :
    Brings (f.onAttemptError raised) l entries Attempted := by
  cases raised with
  | interrupt i => exact polite_interrupt i
  | error e =>
    have hstatus : 400 ≤ httpStatus e := hraised e rfl
    change Ensures _ _ (if _ then _ else if _ then _ else if _ then _ else _) _ _ _
    split
    · exact hraised
    split
    · apply ensures_update_bind
      apply ensures_note_unsent rfl
      intro _ _
      exact ⟨e, rfl, hstatus⟩
    split
    · apply ensures_note_unsent rfl
      intro _ _
      apply ensures_span_unsent
      exact preHeaderTimeoutResponse_status _ _ e
    · apply ensures_update_bind
      exact ⟨e, rfl, hstatus⟩

theorem tryServer_reports : Brings f.tryServer l entries Attempted := by
  apply ensures_tryExcept.mpr
  apply ensures_locals_bind
  apply ensures_seq (firstItem_reports f.app f.request l.requestBody l.serverUrl f.requestId
    f.endpoint f.span l entries)
  · rintro ⟨headers, status, generator⟩ l entries ⟨hrest, r, hlast, rfl⟩
    exact ⟨generator, r, rfl, rfl, hrest, hlast⟩
  · intro raised l entries hraised
    exact f.onAttemptError_reports hraised

/-- What the loop leaves behind. -/
def LoopEnds (r : Except Raised (Option PlainResponse)) (l : ForwardingLocals)
    (entries : List Entry) : Prop :=
  match r with
  | .ok none => l.Settled entries
  | .ok (some response) => 400 ≤ response.status
  | .error raised => Polite (.error raised : Except Raised Unit)

theorem nextServer_reports (attempt : Nat) (h : attempt ≠ 0 → l.Failing) :
    Brings (f.nextServer attempt) l entries fun r l' _ =>
      Polite r ∧ (attempt ≠ 0 → l'.Failing) ∧ (r = .ok false → attempt ≠ 0) := by
  unfold nextServer
  split
  · next hzero =>
      refine ⟨polite_ok true, h, ?_⟩
      intro hfalse
      cases hfalse
  · next hlater =>
      apply ensures_locals_bind
      split
      · exact ⟨polite_ok false, h, fun _ => hlater⟩
      · apply ensures_seq (f.pickServer_reports _)
        · rintro _ l' entries' ⟨-, hsame, -⟩
          refine ⟨polite_ok true, ?_, fun _ => hlater⟩
          intro hattempt
          unfold ForwardingLocals.Failing
          rw [hsame]
          exact h hattempt
        · rintro raised l' entries' ⟨hpolite, hsame, -⟩
          refine ⟨hpolite.of_error, ?_, fun _ => hlater⟩
          intro hattempt
          unfold ForwardingLocals.Failing
          rw [hsame]
          exact h hattempt

/-- Induction on the attempts that are left; the first one is always made. -/
theorem attempts_reports (left attempt : Nat) (hleft : attempt = 0 → left ≠ 0)
    (h : attempt ≠ 0 → l.Failing) : Brings (f.attempts left attempt) l entries LoopEnds := by
  induction left generalizing attempt l entries with
  | zero =>
    have hattempt : attempt ≠ 0 := fun hzero => hleft hzero rfl
    exact (h hattempt).settled
  | succ left ih =>
    apply ensures_seq (f.nextServer_reports attempt h)
    · rintro found l entries ⟨-, hfailing, hfalse⟩
      cases found with
      | false => exact (hfailing (hfalse rfl)).settled
      | true =>
        apply ensures_note_unsent rfl
        intro _ _
        apply ensures_seq f.tryServer_reports
        · intro after l entries hafter
          cases after with
          | stop => exact hafter
          | rotate => exact ih (attempt + 1) nofun fun _ => hafter
          | respond response => exact hafter
        · intro raised l entries hraised
          exact hraised
    · rintro raised l entries ⟨hpolite, -⟩
      exact hpolite.of_error

theorem conclude_reports (h : l.Settled entries) :
    Brings f.conclude l entries fun r _ => Reports r := by
  apply ensures_locals_bind
  unfold ForwardingLocals.Settled at h
  cases he : l.lastError with
  | some e =>
    rw [he] at h
    dsimp only
    split
    · apply ensures_span_unsent
      exact reports_plain (by decide : 400 ≤ 502)
    · apply ensures_span_unsent
      apply reports_raised
      rintro _ ⟨⟩
      exact h
  | none =>
    rw [he] at h
    obtain ⟨generator, r, hgenerator, hstatus, hrest, hlast⟩ := h
    dsimp only
    split
    · next generator' status headers mediaType hgenerator' hstatus' _ _ =>
        rw [hgenerator] at hgenerator'
        rw [hstatus] at hstatus'
        cases hgenerator'
        cases hstatus'
        apply reports_of_last hlast
        · intro status hclient hfailed
          cases hclient
          exact hfailed
        · rintro _ _ _ _ ⟨⟩
          exact tracedStream_sends _ _ _ hrest
    · apply reports_raised
      rintro _ ⟨⟩
      decide

theorem attempts_conclude_reports (l : ForwardingLocals) :
    Brings (f.attempts f.maxAttempts 0 >>= fun response => match response with
        | some response => pure (.plain response)
        | none => f.conclude) l [] fun r _ => Reports r := by
  apply ensures_seq (f.attempts_reports f.maxAttempts 0 (by simp [maxAttempts]) nofun)
  · intro response l entries hends
    cases response with
    | none => exact f.conclude_reports hends
    | some response => exact reports_plain hends
  · intro raised l entries hraised
    exact reports_raised fun e he => hraised e (congrArg Except.error he)

theorem forward_reporting : Reporting f.forward := by
  intro l
  apply ensures_seq (f.pickServer_reports f.endpoints)
  · rintro _ l entries ⟨-, -, rfl⟩
    unfold dumpBody
    split
    · exact ensures_update_bind (f.attempts_conclude_reports _)
    · exact ensures_bind.mpr (f.attempts_conclude_reports _)
  · rintro raised l entries ⟨hpolite, -, rfl⟩
    exact reports_raised_nil raised

end Forwarding

/-! The general path. -/

namespace GeneralCall

variable (c : GeneralCall) (json : JsonObject)

theorem respond_reporting (status : Nat) (message : String) :
    Reporting (c.respond status message) :=
  Reporting.after (endRouterSpan_performs _ _ _ fun _ _ _ => rfl) fun _ => reporting_pure _

theorem routeExternal_reporting : Reporting (c.routeExternal json) := by
  have hunsent : Performs (fun e : Event => e.isSend = false) (c.routeExternal json) := by
    apply Performs.tryExcept
    · refine Performs.bind (performs_perform rfl) fun answer => ?_
      refine Performs.bind (performs_ofExcept answer) fun response => ?_
      exact (endRouterSpan_performs _ _ _ fun _ _ _ => rfl).bind fun _ => performs_ofExcept (.ok _)
    · intro raised
      cases raised with
      | error e =>
        exact (endRouterSpan_performs _ _ _ fun _ _ _ => rfl).bind fun _ => performs_ofExcept _
      | interrupt i => exact performs_ofExcept _
  have hplain : Returns (fun response => ∃ plain, response = .plain plain)
      (c.routeExternal json) := by
    apply Returns.tryExcept
    · refine returns_then fun answer => returns_then fun response => returns_then fun _ => ?_
      exact returns_pure ⟨response, rfl⟩
    · intro raised
      cases raised with
      | error e => exact returns_then fun _ => returns_raise _
      | interrupt i => exact returns_raise _
  intro l
  refine ((ensures_unsent (fun _ h => h) hunsent).and (hplain.run _ exchanges l [])).imp ?_
  rintro r l entries ⟨rfl, hr⟩
  cases r with
  | error raised => exact reports_raised_nil raised
  | ok response =>
    obtain ⟨plain, rfl⟩ := hr response rfl
    exact reports_plain_nil plain

variable (snapshot : List EndpointInfo) (model : Json)

theorem routeAmong_reporting (body : Body) (everExisted : Bool) :
    Reporting (c.routeAmong snapshot model json body everExisted) := by
  refine Reporting.after (c.readStats_performs rfl fun _ => rfl) fun _ => ?_
  refine Reporting.after (performs_perform rfl) fun _ => ?_
  split
  · split <;> exact c.respond_reporting _ _
  · intro l
    apply ensures_call.mpr
    exact Forwarding.forward_reporting _ _

theorem routeModel_reporting (body : Body) :
    Reporting (c.routeModel snapshot model json body) := by
  refine Reporting.after (performs_ofExcept _) fun external => ?_
  split
  · exact c.routeExternal_reporting json
  · refine Reporting.after (c.modelEverExisted_performs model rfl) fun everExisted => ?_
    exact c.routeAmong_reporting _ _ _ _ _

theorem routeObject_reporting (body : Bytes) (json : JsonObject) :
    Reporting (c.routeObject body json) := by
  unfold routeObject
  split
  · exact c.respond_reporting _ _
  · refine Reporting.after (performs_ofExcept _) fun json => ?_
    refine Reporting.after (performs_perform rfl) fun snapshot => ?_
    refine Reporting.after (performs_ofExcept _) fun aliased => ?_
    cases aliased with
    | some name | none => exact c.routeModel_reporting _ _ _ _

end GeneralCall

theorem routeProxied_reporting (deployment : Deployment) (request : ClientRequest)
    (endpoint : String) : Reporting (routeProxied deployment request endpoint) := by
  refine Reporting.after (performs_perform rfl) fun _ => ?_
  refine Reporting.after (performs_ofExcept _) fun body => ?_
  refine Reporting.after (performs_ofExcept _) fun parsed => ?_
  cases parsed with
  | invalid message => exact reporting_pure _
  | object json =>
    refine Reporting.after (openRouterSpan_performs _ _ fun _ => rfl) fun span => ?_
    refine Reporting.after (GeneralCall.preRequest_performs _ _ rfl) fun overwrite => ?_
    cases overwrite with
    | some response => exact reporting_pure _
    | none => exact GeneralCall.routeObject_reporting _ body json

/-! The paths with a response in hand. -/

/-- A response that hands an error status of the backend on. -/
structure PassesOn (r : BackendResponse) (response : Response) : Prop where
  status : ∀ status ∈ clientStatus (.ok response), 400 ≤ r.status → 400 ≤ status
  body : ∀ status headers mediaType body, response = .streaming status headers mediaType body →
    body.Performs (Sends fun _ => False)

/-- What is returned reports errors. What is raised is up to the handlers. -/
def ReportsReturned (r : Except Raised Response) (entries : List Entry) : Prop :=
  ∀ response, r = .ok response → Reports r entries

section PassesOn

variable {l : L}

theorem passesOn_plain {response : PlainResponse} (h : 400 ≤ r.status → 400 ≤ response.status) :
    PassesOn r (.plain response) := by
  refine ⟨?_, ?_⟩
  · intro status hstatus
    cases hstatus
    exact h
  · intro _ _ _ _ hbody
    cases hbody

theorem reportsReturned_raised (raised : Raised) : ReportsReturned (.error raised) entries := by
  intro response h
  cases h

theorem PassesOn.reports {response : Response} (h : PassesOn r response)
    (hlast : entries.getLast? = some (.response r)) : Reports (.ok response) entries := by
  apply reports_of_last hlast h.status
  intro status headers mediaType body hbody
  exact h.body status headers mediaType body (Except.ok.inj hbody)

theorem ensures_returned {Q : α → Prop} {p : Py service L α}
    (hp : Performs (Sends fun _ => False) p) (hQ : Returns Q p) :
    Brings p l entries fun result _ entries' =>
      entries' = entries ∧ ∀ a, result = .ok a → Q a :=
  (ensures_unsent (fun _ => unsent_of_sends) hp).and (hQ.run _ exchanges l entries)

theorem ensures_passesOn {p : Py service L Response} (hp : Performs (Sends fun _ => False) p)
    (hreturns : Returns (PassesOn r) p) (hlast : entries.getLast? = some (.response r)) :
    Brings p l entries fun r _ => ReportsReturned r := by
  refine (ensures_returned hp hreturns).imp ?_
  rintro result l entries' ⟨rfl, hresult⟩ response rfl
  exact (hresult response rfl).reports hlast

/-- `await client.post(...)`: what it gives is what the backend answered last. -/
theorem ensures_awaited {request : BackendRequest} {f : BackendResponse → Py service L α}
    {post : Except Raised α → L → List Entry → Prop}
    (hok : ∀ r entries, entries.getLast? = some (.response r) → Brings (f r) l entries post)
    (herror : ∀ raised entries, post (.error raised) l entries) :
    Brings (note (.sendRequest request) >>= fun entry => awaited entry >>= f) l entries post := by
  apply ensures_perform_bind trivial
  rintro entry entries' ⟨-, rfl⟩
  cases entry with
  | response r => exact hok r _ (by simp [entriesOf])
  | _ => exact herror _ _

/-- A handler that answers every exception with an error status. -/
theorem reporting_tryExcept {body : Py service L Response} {handler : Raised → Py service L Response}
    (hbody : Brings body l entries fun r _ => ReportsReturned r) (hhandler : ∀ raised l entries,
      Brings (handler raised) l entries fun r _ => Reports r) :
    Brings (Py.tryExcept body handler) l entries fun r _ => Reports r := by
  apply ensures_tryExcept.mpr
  refine hbody.imp ?_
  intro r l entries hr
  cases r with
  | ok response => exact hr response rfl
  | error raised => exact hhandler raised l entries

end PassesOn

/-! The multipart path. -/

namespace MultipartCall

variable (m : MultipartCall) (handle : RequestHandle) (url : String)

theorem buildResponse_returns (response : α) :
    Returns (· = response) (buildResponse response : Py service L α) :=
  returns_then fun _ => returns_then fun _ => returns_pure rfl

theorem readResponse_returns (r : BackendResponse) :
    Returns (fun response => 400 ≤ r.status → 400 ≤ response.status) (m.readResponse handle r) := by
  apply Returns.tryFinally
  apply Returns.tryExcept
  · refine returns_then fun t => returns_then fun _ => returns_then fun content => ?_
    refine (buildResponse_returns _).bind ?_
    rintro _ rfl
    exact returns_then fun _ => returns_pure id
  · intro raised
    cases raised with
    | interrupt i => exact returns_then fun _ => returns_raise _
    | error e =>
      change Returns _ (if _ then _ else _)
      split
      · refine returns_then fun text => returns_then fun _ => ?_
        refine returns_then fun built => returns_then fun _ => returns_pure ?_
        intro _
        exact (by decide : 400 ≤ 502)
      · exact returns_then fun _ => returns_raise _

theorem streamResponse_sends (r : BackendResponse) :
    Performs (Sends fun _ => False) (m.streamResponse handle r) := by
  apply Performs.tryExcept
  · exact buildResponse_performs sends_of_plain _
  · intro raised
    exact (closeAndRetire_sends _ handle).bind fun _ => performs_ofExcept _

theorem streamResponse_returns (r : BackendResponse) :
    Returns (PassesOn r) (m.streamResponse handle r) := by
  apply Returns.tryExcept
  · refine returns_then fun built => returns_then fun _ => returns_pure ⟨?_, ?_⟩
    · intro status hstatus
      cases hstatus
      exact id
    · rintro _ _ _ _ ⟨⟩
      exact bodyIterator_sends handle r
  · intro raised
    exact returns_then fun _ => returns_raise _

/-- What `post` gives is what the backend answered last. -/
theorem post_last (handle : RequestHandle) (l : Unit) (entries : List Entry) :
    Brings (m.post url handle) l entries fun r _ entries =>
      ∀ response, r = .ok response → entries.getLast? = some (.response response) := by
  have hraised (raised : Raised) (entries : List Entry) : Brings
      (do terminalHook (outcomeOf raised) handle; Py.raise raised : Py service Unit BackendResponse)
      l entries fun r _ entries =>
        ∀ response, r = .ok response → entries.getLast? = some (.response response) := by
    have hnever : Returns (fun _ => False) (do
        terminalHook (outcomeOf raised) handle
        Py.raise raised : Py service Unit BackendResponse) :=
      returns_then fun _ => returns_raise _
    refine (hnever.run _ exchanges l entries).imp ?_
    intro r _ _ hr response hresponse
    exact (hr response hresponse).elim
  apply ensures_perform_bind trivial
  rintro entry entries' ⟨-, rfl⟩
  cases entry with
  | response r =>
    rintro _ ⟨⟩
    simp [entriesOf]
  | raised e => exact hraised _ _
  | deadline => exact hraised _ _
  | interrupted i expired => exact hraised _ _

theorem proxyTo_reports (l : Unit) (entries : List Entry) :
    Brings (m.proxyTo url) l entries fun r _ => ReportsReturned r := by
  apply ensures_note_unsent rfl
  intro t _
  apply ensures_note_unsent rfl
  intro handle _
  apply ensures_seq (m.post_last url handle l entries)
  · intro r l entries hlast
    replace hlast := hlast r rfl
    split
    · exact ensures_passesOn (m.streamResponse_sends handle r) (m.streamResponse_returns handle r)
        hlast
    · apply ensures_passesOn _ _ hlast
      · exact ((m.readResponse_sends handle r).call _).bind fun _ => performs_ofExcept (.ok _)
      · refine ((m.readResponse_returns handle r).call _).bind ?_
        intro response hresponse
        exact returns_pure (passesOn_plain hresponse)
  · intro raised l entries _
    exact reportsReturned_raised raised

theorem onProxyError_reports (raised : Raised) (l : Unit) (entries : List Entry) :
    Brings (onProxyError raised) l entries fun r _ => Reports r := by
  cases raised with
  | interrupt i => exact reports_raised nofun
  | error e =>
    change Ensures _ _ (if _ then _ else if _ then _ else _) _ _ _
    split
    · apply reports_raised
      rintro _ ⟨⟩
      exact polite_new _ (by decide)
    split
    · exact reports_plain (by decide : 400 ≤ 503)
    · exact reports_plain (by decide : 400 ≤ 500)

theorem chooseUrl_unsent (model : FormValue) (endpoints : List EndpointInfo) :
    Performs (fun e : Event => e.isSend = false) (m.chooseUrl model endpoints) := by
  refine Performs.bind (performs_perform rfl) fun t => ?_
  refine Performs.bind (performs_perform rfl) fun stats => ?_
  cases stats with
  | error e => exact performs_ofExcept _
  | ok _ =>
    refine Performs.bind (performs_perform rfl) fun routed => ?_
    exact (performs_ofExcept routed).bind fun _ => performs_ofExcept (.ok _)

theorem proxyMultipartRequest_reporting : Reporting m.proxyMultipartRequest := by
  unfold proxyMultipartRequest
  split
  · exact reporting_pure _
  · next model _ =>
      refine Reporting.after (performs_perform rfl) fun endpoints => ?_
      split
      · exact reporting_pure _
      · refine Reporting.after (m.chooseUrl_unsent model _) fun url => ?_
        intro l
        exact reporting_tryExcept (m.proxyTo_reports url l []) onProxyError_reports

end MultipartCall

/-! The orchestrated router. -/

namespace Orchestration

variable (o : Orchestration) (what : String) (isStreaming : Bool) (r : BackendResponse)
  (url : String) (json : JsonObject)

theorem failedResponse_sends : Performs (Sends Q) (o.failedResponse what r) := by
  refine Performs.bind (note_sends rfl) fun answer => ?_
  exact (performs_ofExcept answer).bind fun _ => performs_ofExcept (.ok _)

theorem failedResponse_returns : Returns (PassesOn r) (o.failedResponse what r) :=
  returns_then fun _ => returns_then fun _ => returns_pure (passesOn_plain id)

theorem decodeResponse_sends : Performs (Sends Q) (o.decodeResponse isStreaming r) := by
  apply Performs.tryExcept
  · split
    · exact o.failedResponse_sends _ r
    split
    · exact performs_ofExcept (.ok _)
    · refine Performs.bind (note_sends rfl) fun answer => ?_
      refine Performs.bind (performs_ofExcept answer) fun data => ?_
      refine Performs.bind (note_sends rfl) fun _ => ?_
      refine Performs.bind (eval_sends _) fun value => ?_
      refine Performs.bind (note_sends rfl) fun built => ?_
      exact (eval_sends built).bind fun _ => performs_ofExcept (.ok _)
  · intro raised
    cases raised with
    | error e => exact (note_sends rfl).bind fun _ => performs_ofExcept _
    | interrupt i => exact performs_ofExcept _

/-- A response of status 200 stands for one of the decode engine. -/
theorem decodeResponse_returns : Returns (PassesOn r) (o.decodeResponse isStreaming r) := by
  apply Returns.tryExcept
  · split
    · exact o.failedResponse_returns _ r
    · next hstatus =>
        have hok : ¬ 400 ≤ r.status := by
          rw [not_not.mp hstatus]
          decide
        split
        · refine returns_pure ⟨fun _ _ hfailed => absurd hfailed hok, ?_⟩
          rintro _ _ _ _ ⟨⟩
          exact generateStream_sends r
        · refine returns_then fun _ => returns_then fun _ => returns_then fun _ => ?_
          refine returns_then fun value => returns_then fun _ => returns_then fun _ => ?_
          exact returns_pure (passesOn_plain fun hfailed => absurd hfailed hok)
  · intro raised
    cases raised with
    | error e => exact returns_then fun _ => returns_raise _
    | interrupt i => exact returns_raise _

theorem decode_reports (l : Unit) (entries : List Entry) :
    Brings (o.decode isStreaming url json) l entries fun r _ => ReportsReturned r := by
  apply ensures_awaited
  · intro r entries hlast
    exact ensures_passesOn (o.decodeResponse_sends isStreaming r)
      (o.decodeResponse_returns isStreaming r) hlast
  · intro raised entries
    exact reportsReturned_raised raised

theorem readPrefill_sends : Performs (Sends Q) (Py.withExit (if r.status ≠ 200 then do
        let response ← o.failedResponse "Prefill" r
        pure (.inl response)
      else do
        let answer ← note (.readBody .json)
        let data ← Py.ofExcept answer
        let _ ← time
        pure (.inr data))
      fun _ => exitResponse : Py service Unit (Response ⊕ Json)) := by
  apply Performs.withExit _ fun _ => exitResponse_sends
  split
  · exact (o.failedResponse_sends _ r).bind fun _ => performs_ofExcept (.ok _)
  · refine Performs.bind (note_sends rfl) fun answer => ?_
    refine Performs.bind (performs_ofExcept answer) fun data => ?_
    exact (note_sends rfl).bind fun _ => performs_ofExcept (.ok _)

theorem readPrefill_returns :
    Returns (fun outcome => ∀ response, outcome = .inl response → PassesOn r response) (Py.withExit
      (if r.status ≠ 200 then do
        let response ← o.failedResponse "Prefill" r
        pure (.inl response)
      else do
        let answer ← note (.readBody .json)
        let data ← Py.ofExcept answer
        let _ ← time
        pure (.inr data))
      fun _ => exitResponse : Py service Unit (Response ⊕ Json)) := by
  apply Returns.withExit
  split
  · refine (o.failedResponse_returns _ r).bind ?_
    intro response hresponse
    apply returns_pure
    rintro _ ⟨⟩
    exact hresponse
  · refine returns_then fun _ => returns_then fun _ => returns_then fun _ => returns_pure ?_
    rintro _ ⟨⟩

/-- The response that ends the request after the first exchange. -/
theorem prefill_reports (l : Unit) (entries : List Entry) :
    Brings (o.prefill url json) l entries
      fun r _ entries => ∀ response, r = .ok (.inl response) → Reports (.ok response) entries := by
  apply ensures_awaited
  · intro r entries hlast
    refine (ensures_returned (o.readPrefill_sends r) (o.readPrefill_returns r)).imp ?_
    rintro result _ _ ⟨rfl, hresult⟩ response rfl
    exact (hresult _ rfl response rfl).reports hlast
  · rintro raised entries response ⟨⟩

theorem exchange_reports (prefillUrl decodeUrl : String) (json : JsonObject) (l : Unit)
    (entries : List Entry) : Brings (o.exchange prefillUrl decodeUrl json) l entries
      fun r _ => ReportsReturned r := by
  apply ensures_seq (o.prefill_reports prefillUrl json l entries)
  · intro outcome l entries houtcome
    cases outcome with
    | inl response =>
      rintro _ ⟨⟩
      exact houtcome response rfl
    | inr data =>
      apply ensures_ofExcept_bind
      · intro decodeRequest _
        exact o.decode_reports _ _ _ l entries
      · intro e _
        exact reportsReturned_raised _
  · intro raised l entries _
    exact reportsReturned_raised raised

theorem onError_reports (raised : Raised) (l : Unit) (entries : List Entry) :
    Brings (o.onError raised) l entries fun r _ => Reports r := by
  cases raised with
  | interrupt i => exact reports_raised nofun
  | error e =>
    change Ensures _ _ (if _ then _ else _) _ _ _
    split
    · exact reports_plain (by decide : 400 ≤ 503)
    · exact reports_plain (by decide : 400 ≤ 500)

theorem selectEndpoint_unsent (role : ServingRole) (endpoints : List EndpointInfo) :
    Performs (fun e : Event => e.isSend = false) (selectEndpoint role endpoints) := by
  refine Performs.bind (performs_perform rfl) fun index => ?_
  split <;> exact performs_ofExcept _

theorem serve_reporting (json : Json) (prefillers decoders : List EndpointInfo) :
    Reporting (o.serve json prefillers decoders) := by
  refine Reporting.after (selectEndpoint_unsent _ _) fun prefiller => ?_
  refine Reporting.after (selectEndpoint_unsent _ _) fun decoder => ?_
  refine Reporting.after (performs_ofExcept _) fun json => ?_
  refine Reporting.after (performs_perform rfl) fun _ => ?_
  intro l
  exact reporting_tryExcept (o.exchange_reports _ _ json l []) o.onError_reports

theorem route_reporting : Reporting o.routeOrchestratedDisaggregatedRequest := by
  refine Reporting.after (performs_perform rfl) fun _ => ?_
  refine Reporting.after ((performs_ofExcept _).bind fun _ => performs_ofExcept _) fun json => ?_
  refine Reporting.after (performs_perform rfl) fun endpoints => ?_
  cases o.findEndpoints endpoints with
  | error e =>
    intro l
    change Ensures _ _ ((if _ then _ else _) >>= _) _ _ _
    split
    · exact reports_plain_nil _
    · exact reports_raised_nil _
  | ok engines => exact o.serve_reporting json engines.1 engines.2

end Orchestration

/-! The router with two fixed clients. -/

namespace DisaggregatedPrefill

variable (p : DisaggregatedPrefill)

theorem raiseForStatus_sends (r : BackendResponse) : Performs (Sends Q) (raiseForStatus r) := by
  unfold raiseForStatus
  split <;> exact performs_ofExcept _

theorem sendRequestToPrefiller_entries (url : String) (json : JsonObject) (l : Unit) :
    Brings (p.sendRequestToPrefiller url json) l [] fun _ _ entries =>
      entries.length ≤ 1 := by
  apply ensures_perform_bind trivial
  rintro entry entries ⟨-, rfl⟩
  refine (ensures_unsent (fun _ => unsent_of_sends) ?_).imp ?_
  · refine Performs.bind (awaited_sends entry) fun r => ?_
    apply Performs.withExit _ fun _ => exitResponse_sends
    exact (raiseForStatus_sends r).bind fun _ =>
      (note_sends rfl).bind fun answer => performs_ofExcept answer
  · rintro _ _ _ rfl
    simp [entriesOf]

/-- The first exchange asks one backend, and the response that ends the request is no
stream. -/
def PrefillEnds (r : Except Raised (Option Response)) (entries : List Entry) : Prop :=
  entries.length ≤ 1 ∧ ∀ response, r = .ok (some response) → ∃ plain, response = .plain plain

theorem prefill_entries (json : JsonObject) (l : Unit) :
    Brings (p.prefill json) l [] fun r _ => PrefillEnds r := by
  have hcatch (raised : Raised) (l : Unit) (entries : List Entry) (h : entries.length ≤ 1) :
      Brings (p.onPrefillError raised) l entries fun r _ => PrefillEnds r := by
    cases raised with
    | interrupt i => exact ⟨h, nofun⟩
    | error e =>
      refine ⟨h, ?_⟩
      rintro _ ⟨⟩
      exact ⟨_, rfl⟩
  apply ensures_tryExcept.mpr
  apply ensures_bind.mpr
  cases p.deployment.prefillClient with
  | none => exact hcatch _ _ _ (Nat.zero_le _)
  | some url =>
    apply (ensures_pure url _).mpr
    apply ensures_seq (p.sendRequestToPrefiller_entries url _ l)
    · intro _ l entries hentries
      apply ensures_note_unsent rfl
      intro _ _
      exact ⟨hentries, nofun⟩
    · intro raised l entries hentries
      exact hcatch raised l entries hentries

/-- A stream has status 200, and no more than one backend was asked before it. -/
theorem route_entries (l : Unit) : Brings p.routeDisaggregatedPrefillRequest l [] fun r _ entries =>
      entries.length ≤ 1 ∧ ∀ status headers mediaType body,
        r = .ok (.streaming status headers mediaType body) → status = 200 := by
  have hnil (raised : Raised) : ([] : List Entry).length ≤ 1 ∧ ∀ status headers mediaType body,
      (.error raised : Except Raised Response) = .ok (.streaming status headers mediaType body) →
        status = 200 := ⟨Nat.zero_le 1, nofun⟩
  apply ensures_note_unsent rfl
  intro _ _
  have hread : Performs (Sends fun _ => False) (readJson p.deployment p.request) :=
    (performs_ofExcept _).bind fun _ => eval_sends _
  apply ensures_seq (ensures_unsent (fun _ => unsent_of_sends) hread)
  · rintro json l _ rfl
    apply ensures_ofExcept_bind
    · intro original _
      apply ensures_note_unsent rfl
      intro _ _
      apply ensures_seq (p.prefill_entries original l)
      · rintro failed l entries ⟨hentries, hfailed⟩
        cases failed with
        | some response =>
          obtain ⟨plain, rfl⟩ := hfailed response rfl
          exact ⟨hentries, nofun⟩
        | none =>
          apply ensures_note_unsent rfl
          intro _ _
          refine ⟨hentries, ?_⟩
          rintro _ _ _ _ ⟨⟩
          rfl
      · rintro raised l entries ⟨hentries, -⟩
        exact ⟨hentries, nofun⟩
    · intro e _
      exact hnil _
  · rintro raised l _ rfl
    exact hnil raised

end DisaggregatedPrefill

/-! What the client receives. -/

/-- A route that reports errors, and then the body of its response. -/
theorem toClient_reports {route : Py service Unit Response} (h : Reporting route) :
    Prog.Always exchanges (fun _ _ => True) (fun entries status =>
      ∀ entry ∈ entries.getLast?, entry.Failed → ∀ s ∈ status, 400 ≤ s) (toClient route) [] := by
  unfold toClient
  rw [Prog.always_bind]
  refine Prog.Always.imp (h ()) ?_
  rintro entries ⟨result, _⟩ hreports
  dsimp only at hreports ⊢
  split
  · next status headers mediaType body =>
      rw [Prog.always_bind]
      have hquiet := hreports.body status headers mediaType body rfl
      have hsame (entries₁ : List Entry) (e : Event) (answer : e.Answer) (entries₂ : List Entry)
          (h : entries₁ = entries) (he : Sends (fun _ => False) e)
          (hstep : exchanges entries₁ e answer entries₂) : entries₂ = entries := by
        rw [hstep.2, entriesOf_unsent (unsent_of_sends he), List.append_nil, h]
      refine (hquiet.always (fun _ _ _ _ => trivial) hsame rfl).imp ?_
      intro entries' _ hentries
      rw [hentries]
      exact hreports.status
  · exact hreports.status

/-- With the fixed clients, a request that asks a second backend is answered with 200. -/
theorem toClient_fixedClients (p : DisaggregatedPrefill) :
    Prog.Always exchanges (fun _ _ => True) (fun entries status =>
      entries[1]? ≠ none → status = some 200) (toClient p.routeDisaggregatedPrefillRequest) [] := by
  unfold toClient
  rw [Prog.always_bind]
  refine Prog.Always.imp (p.route_entries ()) ?_
  rintro entries ⟨result, _⟩ ⟨hentries, hstatus⟩
  dsimp only at hstatus ⊢
  split
  · next status headers mediaType body =>
      rw [Prog.always_bind, hstatus status headers mediaType body rfl]
      exact (Prog.always_of_performed fun _ _ _ _ => trivial).imp fun _ _ _ _ => rfl
  · intro hsecond
    exact absurd (List.getElem?_eq_none (by omega)) hsecond

theorem ProxyPath.reporting {path : ProxyPath} (h : path.usesFixedClients = false) :
    Reporting path.route := by
  cases path with
  | multipart call => exact call.proxyMultipartRequest_reporting
  | json deployment request endpoint =>
    unfold route routeGeneralRequest
    dsimp only
    split
    · next hrouter => simp [usesFixedClients, hrouter] at h
    · exact Orchestration.route_reporting _
    · exact routeProxied_reporting deployment request endpoint

/-! Runs in which the engine at `http://p` succeeds and every other one fails. -/

def partlyBroken : (e : Event) → e.Answer
  | .sendRequest request =>
    if request.baseUrl = "http://p" then Entry.response ⟨200, [], [], .eof, ""⟩
    else Entry.response ⟨500, [], [], .eof, "Internal Server Error"⟩
  | .getEndpointInfo => [⟨"http://d", ["m"], "d", none, false⟩]
  | e => calm e

def answerPartlyBroken (e : Event) (entries : List Entry) : e.Answer × List Entry :=
  (partlyBroken e, entries ++ entriesOf e (partlyBroken e))

theorem partlyBroken_reaches (p : Prog service α) :
    Prog.Reaches exchanges p [] (.ret (p.interpret answerPartlyBroken []).1)
      (p.interpret answerPartlyBroken []).2 := by
  apply Prog.interpret_reaches
  intro e entries
  refine ⟨?_, rfl⟩
  cases e with
  | sendRequest request =>
    simp only [answerPartlyBroken, partlyBroken]
    split <;> exact trivial
  | readBody how => cases how <;> exact trivial
  | routeRequest router endpoints json =>
    cases endpoints with
    | nil => exact (by decide : 400 ≤ httpStatus (.new .runtimeError ""))
    | cons endpoint rest => exact trivial
  | _ => exact trivial

/-- A request for the model `m` to a deployment with this router. -/
def chatOver (router : RouterKind) : ProxyPath := .json
  { app := ⟨false, none, false, false, 100⟩
    router := router
    maxInstanceFailoverRerouteAttempts := 0
    requestRewriter := false
    aliases := []
    externalModels := none
    remembersModels := true
    strOf := fun _ => ""
    prefillModelLabels := []
    decodeModelLabels := []
    prefillClient := some "http://p"
    decodeClient := some "http://d"
    openaiApiKey := none }
  ⟨⟨"POST", []⟩, .ok [123, 34, 109, 111, 100, 101, 108, 34, 58, 34, 109, 34, 125], none, "r"⟩
  "/v1/completions"

/-- Errors are reported as errors, unless the decode engine of the router with two fixed
clients fails: its status comes too late. -/
theorem errors_reported_iff (path : ProxyPath) {status : Option Nat} {entries : List Entry}
    (hrun : Prog.Reaches exchanges (toClient path.route) [] (.ret status) entries) :
    (∀ entry ∈ path.producer entries, entry.Failed → ∀ s ∈ status, 400 ≤ s) ↔
      ¬ (path.usesFixedClients = true ∧ ∃ entry ∈ path.producer entries, entry.Failed) := by
  cases hpath : path.usesFixedClients with
  | false =>
    have hreports := (toClient_reports (path.reporting hpath)).returned hrun
    simp only [ProxyPath.producer, hpath, Bool.false_eq_true, if_false, false_and,
      not_false_eq_true, iff_true]
    exact hreports
  | true =>
    have hsecond : ∀ entry ∈ path.producer entries, status = some 200 := by
      intro entry hentry
      simp only [ProxyPath.producer, hpath, if_true] at hentry
      cases path with
      | multipart call => cases hpath
      | json deployment request endpoint =>
        have hrouter : deployment.router = .disaggregatedPrefill := by
          simpa [ProxyPath.usesFixedClients] using hpath
        simp only [ProxyPath.route, routeGeneralRequest, hrouter] at hrun
        apply (toClient_fixedClients _).returned hrun
        rw [hentry]
        exact nofun
    constructor
    · rintro h ⟨-, entry, hentry, hfailed⟩
      have hstatus := h entry hentry hfailed 200 (hsecond entry hentry)
      omega
    · intro h entry hentry hfailed
      exact absurd ⟨rfl, entry, hentry, hfailed⟩ h

theorem errors_reported_round_robin : ∃ status entries,
    Prog.Reaches exchanges (toClient (chatOver .roundRobin).route) [] (.ret status) entries ∧
      ∀ entry ∈ (chatOver .roundRobin).producer entries, entry.Failed → ∀ s ∈ status, 400 ≤ s := by
  refine ⟨_, _, partlyBroken_reaches _, ?_⟩
  apply (errors_reported_iff (chatOver .roundRobin) (partlyBroken_reaches _)).mpr
  rintro ⟨hfixed, -⟩
  exact absurd hfixed (by decide)

/-- The decode engine answers with 500, and the client receives 200. -/
theorem decode_error_reported_as_success : ∃ entries,
    Prog.Reaches exchanges (toClient (chatOver .disaggregatedPrefill).route) [] (.ret (some 200))
        entries ∧
      ∃ entry ∈ (chatOver .disaggregatedPrefill).producer entries, entry.Failed := by
  have hrun := partlyBroken_reaches (toClient (chatOver .disaggregatedPrefill).route)
  have hstatus : ((toClient (chatOver .disaggregatedPrefill).route).interpret
      answerPartlyBroken []).1 = some 200 := by decide +kernel
  have hentries : (((toClient (chatOver .disaggregatedPrefill).route).interpret
      answerPartlyBroken []).2[1]?.bind (·.response?)).map (·.status) = some 500 := by
    decide +kernel
  obtain ⟨r, hresponse, hfailed⟩ := Option.map_eq_some_iff.mp hentries
  obtain ⟨entry, hentry, hr⟩ := Option.bind_eq_some_iff.mp hresponse
  refine ⟨_, hrun, entry, hentry, ?_⟩
  cases entry with
  | response r' =>
    rw [← Option.some.inj hr] at hfailed
    simp [Entry.Failed, hfailed]
  | _ => cases hr

end ProductionStack.Request

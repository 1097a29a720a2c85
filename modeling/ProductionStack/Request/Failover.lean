import Mathlib.Data.List.Dedup
import ProductionStack.Request.Delivery
import ProductionStack.Request.RouteGeneral

/-!
The failover loop of `route_general_request`, over every way its attempts can
end: which servers are tried, when the loop stops, and what the client gets.
-/

namespace ProductionStack.Request

open Lib Python Stats Py

/-- What the loop tells apart among the exceptions of an attempt. -/
inductive FailureClass where
  | http
  | connect
  | timeout
  | other
  deriving DecidableEq

def failureClass (e : PyExc) : FailureClass :=
  if e.isInstance [.httpException] then .http
  else if e.isInstance backendConnectErrors then .connect
  else if e.isInstance [.serverTimeoutError, .timeoutError] then .timeout
  else .other

/-- The loop goes on after connect-class and other errors only. -/
def Rotates : Except Raised (Headers × Nat) → Prop
  | .error (.error e) => failureClass e = .connect ∨ failureClass e = .other
  | _ => False

/-! Waiting for the headers of one attempt. -/

/-- The request was sent once more, to `url`. -/
def SentTo (url : String) (body : Body) (d d' : Digest) : Prop :=
  ∃ request, request.baseUrl = url ∧ request.data = body ∧ d'.sent = d.sent ++ [request]

variable {body : Body} {d' : Digest} {w : World} {e : PyExc} {result : Except Raised Response}
  {L : Type} {asserts : World → Event → Prop} {l' : ForwardingLocals}
  {last : Except Raised (Headers × Nat)} {r : Except Raised (Option PlainResponse)}

section Attempt

variable {app : App} {request : HttpRequest} {url requestId endpoint : String} {a : BackendCall}

/-- Without a yield an attempt can only have raised. -/
theorem Settled.raised {result : Except Raised Unit} {outcome : TerminalOutcome} {v : Delivery}
    (h : Settled a result outcome v) (hv : v.yielded = []) : ∃ raised, result = .error raised := by
  cases h with
  | completed r _ _ => cases hv
  | stalled r _ => cases hv
  | _ => exact ⟨_, rfl⟩

end Attempt

/-! The loop. -/

/-- What holds of the attempts made so far, however the last one ended: each went
to another server of the list, and sent the request there at most once. -/
structure Tries (f : Forwarding) (body : Body) (l : ForwardingLocals) (d : Digest) : Prop where
  nodup : (l.trials.map Prod.fst).Nodup
  known : ∀ trial ∈ l.trials, trial.1 ∈ f.endpoints.map (·.url)
  sent : (d.sent.map (·.baseUrl)).Sublist (l.trials.map Prod.fst)
  data : ∀ request ∈ d.sent, request.data = body
  requestBody : l.requestBody = body

/-- Between two attempts: all have failed in a way that rotates, and none has
left a handle open. -/
structure Between (f : Forwarding) (body : Body) (l : ForwardingLocals) (d : Digest) : Prop where
  tries : Tries f body l d
  live : d.live = []
  yielded : d.delivery.yielded = []
  failed : ∀ trial ∈ l.trials, Rotates trial.2
  errors : ∀ url, url ∈ l.errorUrls ↔ url ∈ l.trials.map Prod.fst
  last : ∀ trial, l.trials.getLast? = some trial →
    ∃ e, trial.2 = .error (.error e) ∧ l.lastError = some e

/-- A server is chosen that was not tried yet. -/
structure Chosen (f : Forwarding) (l : ForwardingLocals) : Prop where
  known : l.serverUrl ∈ f.endpoints.map (·.url)
  fresh : l.serverUrl ∉ l.trials.map Prod.fst

variable {f : Forwarding} {l : ForwardingLocals} {d : Digest}

theorem Tries.attempt (h : Tries f body l d) (hchosen : Chosen f l)
    (htrials : l'.trials = l.trials ++ [(l.serverUrl, last)])
    (hbody : l'.requestBody = l.requestBody)
    (hsent : d'.sent = d.sent ∨ SentTo l.serverUrl l.requestBody d d') : Tries f body l' d' where
  nodup := by
    have hnodup := h.nodup.concat hchosen.fresh
    rw [List.concat_eq_append] at hnodup
    rw [htrials, List.map_append, List.map_singleton]
    exact hnodup
  known := by
    intro trial member
    rw [htrials, List.mem_append, List.mem_singleton] at member
    rcases member with member | rfl
    · exact h.known trial member
    · exact hchosen.known
  sent := by
    rw [htrials, List.map_append, List.map_singleton]
    rcases hsent with hsent | ⟨request, hurl, -, hsent⟩
    · rw [hsent]
      exact h.sent.trans (List.sublist_append_left _ _)
    · rw [hsent, List.map_append, List.map_singleton, hurl]
      exact h.sent.append (List.Sublist.refl _)
  data := by
    intro request member
    rcases hsent with hsent | ⟨last, -, hdata, hsent⟩
    · rw [hsent] at member
      exact h.data request member
    · rw [hsent, List.mem_append, List.mem_singleton] at member
      rcases member with member | rfl
      · exact h.data request member
      · exact hdata.trans h.requestBody
  requestBody := hbody.trans h.requestBody

/-- There are no more attempts than servers. -/
theorem Tries.length_le (h : Tries f body l d) :
    l.trials.length ≤ (f.endpoints.map (·.url)).dedup.length := by
  have hsubset : l.trials.map Prod.fst ⊆ (f.endpoints.map (·.url)).dedup := by
    intro url member
    obtain ⟨trial, htrial, rfl⟩ := List.mem_map.mp member
    exact List.mem_dedup.mpr (h.known trial htrial)
  have hle := (List.subperm_of_subset h.nodup hsubset).length_le
  rwa [List.length_map] at hle

/-- How an attempt can end the loop. -/
inductive Stops (f : Forwarding) (l : ForwardingLocals) (d : Digest) :
    Except Raised (Headers × Nat) → Except Raised (Option PlainResponse) → Prop where
  | answered (headers : Headers) (status : Nat) (generator : Prog service (Except Raised Unit))
      (handle : RequestHandle) (hlive : d.live = [handle]) (hlast : l.lastError = none)
      (hgenerator : l.streamGenerator = some generator) (hstatus : l.status = some status)
      (hheaders : l.headersDict = some (responseHeaders headers f.requestId))
      (hmedia : l.mediaType = some (header headers "content-type" "text/event-stream")) :
      Stops f l d (.ok (headers, status)) (.ok none)
  | timedOut (e : PyExc) (hlive : d.live = []) (hclass : failureClass e = .timeout) :
      Stops f l d (.error (.error e)) (.ok (some
        (preHeaderTimeoutResponse f.requestId (resolveBackendClientTimeout f.app) e)))
  | http (e : PyExc) (hlive : d.live = []) (hclass : failureClass e = .http) :
      Stops f l d (.error (.error e)) (.error (.error e))
  | interrupted (i : Interrupt) (hlive : d.live = []) :
      Stops f l d (.error (.interrupt i)) (.error (.interrupt i))

/-- The attempts of a loop that its last attempt has ended. -/
def Stopped (f : Forwarding) (body : Body) (l : ForwardingLocals) (d : Digest)
    (r : Except Raised (Option PlainResponse)) : Prop :=
  Tries f body l d ∧ ∃ prior url last, l.trials = prior ++ [(url, last)] ∧
    (∀ trial ∈ prior, Rotates trial.2) ∧ Stops f l d last r

/-- What one attempt leads to. -/
def Attempted (f : Forwarding) (body : Body) (l l' : ForwardingLocals) (d : Digest)
    (r : Except Raised AfterAttempt) : Prop :=
  l'.trials.length = l.trials.length + 1 ∧ match r with
    | .ok .rotate => Between f body l' d
    | .ok .stop => Stopped f body l' d (.ok none)
    | .ok (.respond response) => Stopped f body l' d (.ok (some response))
    | .error raised => Stopped f body l' d (.error raised)

section Loop

/-- A failed attempt whose error rotates. -/
theorem Between.rotate (h : Between f body l d) (hchosen : Chosen f l)
    (hclass : failureClass e = .connect ∨ failureClass e = .other) (hlive : d'.live = d.live)
    (hsent : d'.sent = d.sent ∨ SentTo l.serverUrl l.requestBody d d')
    (hyielded : d'.delivery.yielded = []) : Between f body { l with
      trials := l.trials ++ [(l.serverUrl, .error (.error e))]
      errorUrls := l.serverUrl :: l.errorUrls
      lastError := some e } d' where
  tries := h.tries.attempt hchosen rfl rfl hsent
  live := hlive.trans h.live
  yielded := hyielded
  failed := by
    intro trial member
    rw [List.mem_append, List.mem_singleton] at member
    rcases member with member | rfl
    · exact h.failed trial member
    · exact hclass
  errors := by
    intro url
    rw [List.mem_cons, List.map_append, List.mem_append, List.map_singleton, List.mem_singleton,
      h.errors, or_comm]
  last := by
    intro trial hlast
    rw [List.getLast?_concat] at hlast
    obtain rfl := Option.some.inj hlast
    exact ⟨e, rfl, rfl⟩

theorem Between.stopped (h : Between f body l d) (hchosen : Chosen f l)
    (htrials : l'.trials = l.trials ++ [(l.serverUrl, last)])
    (hbody : l'.requestBody = l.requestBody)
    (hsent : d'.sent = d.sent ∨ SentTo l.serverUrl l.requestBody d d')
    (hstops : Stops f l' d' last r) : Stopped f body l' d' r :=
  ⟨h.tries.attempt hchosen htrials hbody hsent, l.trials, l.serverUrl, last, htrials, h.failed,
    hstops⟩

/-- Only four of the variables matter between attempts. -/
theorem Between.congr (h : Between f body l d) (htrials : l'.trials = l.trials)
    (herrors : l'.errorUrls = l.errorUrls) (hlast : l'.lastError = l.lastError)
    (hbody : l'.requestBody = l.requestBody) : Between f body l' d := by
  obtain ⟨⟨hnodup, hknown, hsent, hdata, hrequest⟩, hlive, hyielded, hfailed, hurls, herror⟩ := h
  rw [← htrials] at hnodup hknown hsent hfailed hurls herror
  rw [← hbody] at hrequest
  rw [← herrors] at hurls
  rw [← hlast] at herror
  exact ⟨⟨hnodup, hknown, hsent, hdata, hrequest⟩, hlive, hyielded, hfailed, hurls, herror⟩

end Loop

/-! The response. -/

def isStreaming : Except Raised Response → Bool
  | .ok (.streaming _ _ _ _) => true
  | _ => false

section Forward

variable {json : JsonObject}

end Forward

/-- A handle that was issued to this request and that the monitor still holds. -/
def World.Holds (w : World) (handle : RequestHandle) : Prop :=
  handle ∈ (digest w.log).issued ∧ handle ∈ w.monitor.activeRequests

end ProductionStack.Request

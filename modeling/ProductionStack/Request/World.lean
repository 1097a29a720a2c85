import Mathlib.Data.List.Induction
import ProductionStack.Request.Events
import ProductionStack.Stats.Lifecycle

/-!
The environment of one proxied request: the shared stats monitor and the log of
what this request did. While the request is suspended other requests may move
the monitor on, but they only retire handles of their own.
-/

namespace ProductionStack.Request

open Lib Python Stats RequestStatsMonitor Py

structure World where
  monitor : RequestStatsMonitor
  log : List Step

def openAfter (handles : List RequestHandle) : Step → List RequestHandle
  | ⟨.onNewRequest _ _ _, (handle : RequestHandle)⟩ => handles ++ [handle]
  | ⟨.finalize _ handle _, _⟩ => handles.filter (· ≠ handle)
  | _ => handles

/-- The handles a request was given and has not retired. -/
def openHandles (log : List Step) : List RequestHandle := log.foldl openAfter []

def issuedBy : Step → Option RequestHandle
  | ⟨.onNewRequest _ _ _, (handle : RequestHandle)⟩ => some handle
  | _ => none

def issuedHandles (log : List Step) : List RequestHandle := log.filterMap issuedBy

/-- Other requests ran in the meantime, none of them on a handle of `own`. -/
def Elsewhere (own : List RequestHandle) (m m' : RequestStatsMonitor) : Prop :=
  ∃ ops : List Op, (∀ op ∈ ops, ∀ handle ∈ own, op.retires handle = false) ∧ m' = m.run ops

/-- How the monitor moves with an event. Only where the coroutine is suspended
can other requests run. -/
def monitorMoves (own : List RequestHandle) (m : RequestStatsMonitor) :
    (e : Event) → e.Answer → RequestStatsMonitor → Prop
  | .onNewRequest url rid t, handle, m' => m.onNewRequest url rid t = (handle, m')
  | .onRequestResponse handle t, _, m' => m' = m.onRequestResponse handle t
  | .finalize outcome handle t, result, m' => outcome.hook m handle t = (result, m')
  | .getRequestStats t, result, m' => m.getRequestStats t = (result, m')
  | .sendRequest _, _, m' => Elsewhere own m m'
  | .nextChunk _, _, m' => Elsewhere own m m'
  | .leaveResponse, _, m' => Elsewhere own m m'
  | .readBody _, _, m' => Elsewhere own m m'
  | .yields _, _, m' => Elsewhere own m m'
  | .routeRequest _ _ _, _, m' => Elsewhere own m m'
  | .externalProvider _, _, m' => Elsewhere own m m'
  | _, _, m' => m' = m

/-- What the answers are known to satisfy: a deadline that is not set does not
expire, and the router answers with the URL of an endpoint it was given and
leaves the body as it was, but for the priority. -/
def answerable : (e : Event) → e.Answer → Prop
  | .sendRequest request, .deadline => request.deadline.isSome
  | .sendRequest request, .interrupted _ expired => expired = true → request.deadline.isSome
  | .routeRequest router endpoints json, .ok (url, json') =>
    url ∈ endpoints.map (·.url) ∧ router.Updates json json'
  | _, _ => True

def allows : Env service World := fun w e answer w' =>
  w'.log = w.log ++ [⟨e, answer⟩] ∧ answerable e answer ∧
    monitorMoves (issuedHandles w.log) w.monitor e answer w'.monitor

/-- The monitor is coherent and knows which of the request's handles are open. -/
structure Tracked (w : World) : Prop where
  coherent : Coherent w.monitor
  below : ∀ handle ∈ issuedHandles w.log, handle.value < w.monitor.nextHandle
  active : ∀ handle ∈ issuedHandles w.log,
    handle ∈ w.monitor.activeRequests ↔ handle ∈ openHandles w.log

/-- A request arrives at a router that has already served others. -/
def World.start (window : ℚ) (earlier : List Op) : World := ⟨(init window).run earlier, []⟩

theorem tracked_start (window : ℚ) (earlier : List Op) : Tracked (.start window earlier) where
  coherent := coherent_run (coherent_init window) earlier
  below _ h := by cases h
  active _ h := by cases h

variable {m' : RequestStatsMonitor} {w' : World} {window : ℚ} {earlier : List Op}
  (log : List Step) (step : Step)

theorem openHandles_append : openHandles (log ++ [step]) = openAfter (openHandles log) step := by
  simp only [openHandles, List.foldl_append, List.foldl_cons, List.foldl_nil]

theorem issuedHandles_append :
    issuedHandles (log ++ [step]) = issuedHandles log ++ (issuedBy step).toList := by
  cases h : issuedBy step <;> simp [issuedHandles, h]

theorem openHandles_subset (handle : RequestHandle) (h : handle ∈ openHandles log) :
    handle ∈ issuedHandles log := by
  induction log using List.reverseRecOn with
  | nil => simp [openHandles] at h
  | append_singleton log step ih =>
    rw [openHandles_append] at h
    rw [issuedHandles_append, List.mem_append]
    unfold openAfter at h
    split at h
    · rw [List.mem_append, List.mem_singleton] at h
      rcases h with h | rfl
      · exact Or.inl (ih h)
      · exact Or.inr (by simp [issuedBy])
    · exact Or.inl (ih (List.mem_of_mem_filter h))
    · exact Or.inl (ih h)

/-- The monitor call an event is, if it is one. -/
def Event.op? : Event → Option Op
  | .onNewRequest url rid t => some (.newRequest url rid t)
  | .onRequestResponse handle t => some (.response handle t)
  | .finalize .complete handle t => some (.complete handle t)
  | .finalize .fail handle t => some (.fail handle t)
  | .finalize .abort handle t => some (.abort handle t)
  | .getRequestStats t => some (.requestStats t)
  | _ => none

theorem Elsewhere.refl (own : List RequestHandle) (m : RequestStatsMonitor) :
    Elsewhere own m m := ⟨[], by simp, rfl⟩

variable {own : List RequestHandle} {m : RequestStatsMonitor} {e : Event} {answer : e.Answer}

/-- An event is a call of the monitor, or leaves it to the other requests. -/
theorem monitorMoves_cases (h : monitorMoves own m e answer m') :
    (∃ op, e.op? = some op ∧ m' = (m.step op).2) ∨ (e.op? = none ∧ Elsewhere own m m') := by
  cases e with
  | onNewRequest url rid t => exact Or.inl ⟨_, rfl, (congrArg Prod.snd h).symm⟩
  | onRequestResponse handle t => exact Or.inl ⟨_, rfl, h⟩
  | finalize outcome handle t =>
    cases outcome <;> exact Or.inl ⟨_, rfl, (congrArg Prod.snd h).symm⟩
  | getRequestStats t =>
    refine Or.inl ⟨_, rfl, ?_⟩
    have hstats : m.getRequestStats t = (answer, m') := h
    simp only [step, hstats]
    cases answer <;> rfl
  | sendRequest _ | nextChunk _ | leaveResponse | readBody _ | yields _ | routeRequest _ _ _
  | externalProvider _ => exact Or.inr ⟨rfl, h⟩
  | _ => exact Or.inr ⟨rfl, h ▸ Elsewhere.refl own m⟩

/-- An event that is no call of the monitor may leave it as it is. -/
theorem monitorMoves_still (answer : e.Answer) (h : e.op? = none) :
    monitorMoves own m e answer m := by
  cases e with
  | onNewRequest _ _ _ | onRequestResponse _ _ | getRequestStats _ => cases h
  | finalize outcome _ _ => cases outcome <;> cases h
  | sendRequest _ | nextChunk _ | leaveResponse | readBody _ | yields _ | routeRequest _ _ _
  | externalProvider _ => exact Elsewhere.refl own m
  | _ => rfl

theorem issuedBy_some {handle : RequestHandle}
    (h : monitorMoves own m e answer m') (hissued : issuedBy ⟨e, answer⟩ = some handle) :
    (∃ url rid t, e.op? = some (.newRequest url rid t)) ∧ handle = ⟨m.nextHandle⟩ := by
  cases e with
  | onNewRequest url rid t =>
    obtain rfl : answer = handle := Option.some.inj hissued
    exact ⟨⟨url, rid, t, rfl⟩, (congrArg Prod.fst h).symm⟩
  | _ => cases hissued

theorem issuedBy_none (answer : e.Answer) (h : ∀ url rid t, e.op? ≠ some (.newRequest url rid t)) :
    issuedBy ⟨e, answer⟩ = none := by
  cases e with
  | onNewRequest url rid t => exact absurd rfl (h url rid t)
  | _ => rfl

theorem mem_openAfter (handles : List RequestHandle) (e : Event) (answer : e.Answer)
    (handle : RequestHandle) : handle ∈ openAfter handles ⟨e, answer⟩ ↔
      (handle ∈ handles ∧ ∀ op, e.op? = some op → op.retires handle = false) ∨
        issuedBy ⟨e, answer⟩ = some handle := by
  cases e with
  | onNewRequest url rid t =>
    simp only [openAfter, issuedBy, Event.op?, List.mem_append, List.mem_singleton,
      Option.some.injEq, forall_eq', Op.retires, and_true]
    exact or_congr_right eq_comm
  | finalize outcome h t =>
    cases outcome <;>
    · simp only [openAfter, issuedBy, Event.op?, List.mem_filter, decide_eq_true_eq,
        Option.some.injEq, forall_eq', Op.retires, decide_eq_false_iff_not, reduceCtorEq,
        or_false, ne_eq]
      exact and_congr_right fun _ => not_congr eq_comm
  | _ => simp [openAfter, issuedBy, Event.op?, Op.retires]

variable {w : World} {L α : Type}

theorem tracked_step (h : Tracked w) (hstep : allows w e answer w') : Tracked w' := by
  obtain ⟨hlog, -, hmoves⟩ := hstep
  have hopen (handle : RequestHandle) : handle ∈ openHandles w'.log ↔
      handle ∈ openAfter (openHandles w.log) ⟨e, answer⟩ := by
    rw [hlog, openHandles_append]
  simp only [mem_openAfter] at hopen
  have hissued (handle : RequestHandle) : handle ∈ issuedHandles w'.log ↔
      handle ∈ issuedHandles w.log ∨ issuedBy ⟨e, answer⟩ = some handle := by
    rw [hlog, issuedHandles_append, List.mem_append, Option.mem_toList]
  rcases monitorMoves_cases hmoves with ⟨op, hop, hm'⟩ | ⟨hop, ops, hforeign, hm'⟩
  · have hnext := nextHandle_step h.coherent op
    have hnew {handle : RequestHandle} (hby : issuedBy ⟨e, answer⟩ = some handle) :
        op.isNewRequest = true ∧ handle = ⟨w.monitor.nextHandle⟩ := by
      obtain ⟨⟨url, rid, t, hnew⟩, rfl⟩ := issuedBy_some hmoves hby
      rw [hop] at hnew
      obtain rfl := Option.some.inj hnew
      exact ⟨rfl, rfl⟩
    refine ⟨hm' ▸ coherent_step h.coherent op, ?_, ?_⟩
    · intro handle member
      rw [hm', hnext]
      rcases (hissued handle).mp member with member | hby
      · exact Nat.lt_add_right _ (h.below handle member)
      · obtain ⟨hop, rfl⟩ := hnew hby
        simp [hop]
    · intro handle member
      rw [hm', mem_active_step h.coherent op, hopen]
      rcases (hissued handle).mp member with member | hby
      · have hne : handle ≠ ⟨w.monitor.nextHandle⟩ := by
          rintro rfl
          exact Nat.lt_irrefl _ (h.below _ member)
        have hby : issuedBy ⟨e, answer⟩ ≠ some handle := fun hby => hne (hnew hby).2
        simp [hne, hby, hop, h.active handle member]
      · exact iff_of_true (Or.inr (hnew hby)) (Or.inr hby)
  · have hby := issuedBy_none answer (by simp [hop])
    simp only [hby, reduceCtorEq, or_false] at hissued
    refine ⟨hm' ▸ coherent_run h.coherent ops, ?_, ?_⟩
    · intro handle member
      have hle := nextHandle_le_run h.coherent ops
      have hbelow := h.below handle ((hissued handle).mp member)
      rw [hm']
      omega
    · intro handle member
      have member := (hissued handle).mp member
      rw [hm', mem_active_run h.coherent ops handle (h.below handle member)
        (fun op hop => hforeign op hop handle member), hopen, h.active handle member]
      simp [hop, hby]

/-- A terminal hook does not raise. -/
theorem hook_ok (hm : Coherent m) (outcome : TerminalOutcome) (handle : RequestHandle) (t : ℚ) :
    (outcome.hook m handle t).1 = .ok () := by
  have hfinal (completed : Bool) : (m.finalizeRequest handle t completed).1 = .ok () := by
    cases hfound : m.activeRequests.get? handle with
    | none => simp only [finalizeRequest, hfound]
    | some request => exact (finalize_effect hm t completed hfound).1
  cases outcome with
  | complete => exact hfinal true
  | fail => exact hfinal false
  | abort => exact hfinal false

/-! What a log shows. -/

/-- What first kept a response from being delivered in full: the backend (an
error, a timeout or the entry deadline), or the consumer's side (its generator
closed or its task cancelled). -/
inductive Trouble where
  | backend
  | consumer
  deriving DecidableEq

def Entry.response? : Entry → Option BackendResponse
  | .response r => some r
  | _ => none

def Entry.trouble : Entry → Option Trouble
  | .response _ => none
  | .raised _ => some .backend
  | .deadline => some .backend
  | .interrupted _ expired => some (if expired then .backend else .consumer)

def Entry.isInterrupted : Entry → Bool
  | .interrupted _ _ => true
  | _ => false

def Wake.isInterrupted : Wake → Bool
  | .interrupted _ => true
  | .resumed => false

def Wake.trouble : Wake → Option Trouble
  | .interrupted _ => some .consumer
  | .resumed => none

def Arrival.trouble : Arrival → Wake → Option Trouble
  | .ending (.raises _), .resumed => some .backend
  | _, wake => wake.trouble

/-- What has happened since the latest handle was issued. -/
structure Delivery where
  response : Option BackendResponse
  yielded : List Item
  trouble : Option Trouble
  interrupted : Bool
  releaseInterrupted : Bool

def Delivery.start : Delivery := ⟨none, [], none, false, false⟩

structure Digest where
  issued : List RequestHandle
  live : List RequestHandle
  retired : List (TerminalOutcome × RequestHandle)
  sent : List BackendRequest
  closed : Nat
  delivery : Delivery

def Digest.start : Digest := ⟨[], [], [], [], 0, .start⟩

def Delivery.after (v : Delivery) : Step → Delivery
  | ⟨.onNewRequest _ _ _, _⟩ => .start
  | ⟨.sendRequest _, (entry : Entry)⟩ => { v with
      response := entry.response?
      trouble := v.trouble.or entry.trouble
      interrupted := v.interrupted || entry.isInterrupted }
  | ⟨.nextChunk arrival, (wake : Wake)⟩ => { v with
      trouble := v.trouble.or (arrival.trouble wake)
      interrupted := v.interrupted || wake.isInterrupted }
  | ⟨.yields item, (wake : Wake)⟩ => { v with
      yielded := v.yielded ++ [item]
      trouble := v.trouble.or wake.trouble
      interrupted := v.interrupted || wake.isInterrupted }
  | ⟨.leaveResponse, (wake : Wake)⟩ => { v with
      trouble := v.trouble.or wake.trouble
      interrupted := v.interrupted || wake.isInterrupted
      releaseInterrupted := v.releaseInterrupted || wake.isInterrupted }
  | _ => v

def Digest.after (d : Digest) (step : Step) : Digest where
  issued := d.issued ++ (issuedBy step).toList
  live := openAfter d.live step
  retired := match step with
    | ⟨.finalize outcome handle _, _⟩ => d.retired ++ [(outcome, handle)]
    | _ => d.retired
  sent := match step with
    | ⟨.sendRequest request, _⟩ => d.sent ++ [request]
    | _ => d.sent
  closed := match step with
    | ⟨.closeResponse, _⟩ => d.closed + 1
    | _ => d.closed
  delivery := d.delivery.after step

def digest (log : List Step) : Digest := log.foldl Digest.after .start

variable (d : Digest)

theorem digest_append : digest (log ++ [step]) = (digest log).after step := by
  simp only [digest, List.foldl_append, List.foldl_cons, List.foldl_nil]

/-- The events that issue, retire, send or close; all others only show in the
delivery. -/
def Event.isBooked : Event → Bool
  | .onNewRequest _ _ _ | .finalize _ _ _ | .sendRequest _ | .closeResponse => true
  | _ => false

theorem Digest.after_delivery (v : Delivery) (answer : e.Answer) (h : e.isBooked = false) :
    Digest.after { d with delivery := v } ⟨e, answer⟩ =
      { d with delivery := v.after ⟨e, answer⟩ } := by
  cases e with
  | onNewRequest _ _ _ | finalize _ _ _ | sendRequest _ | closeResponse => cases h
  | _ => simp [Digest.after, issuedBy, openAfter]

/-- The unbooked events, but for the reading of service discovery. -/
def Event.isPlain : Event → Bool
  | .getEndpointInfo => false
  | e => !e.isBooked

theorem Event.unbooked_of_plain (h : e.isPlain = true) : e.isBooked = false := by
  cases e with
  | onNewRequest _ _ _ | finalize _ _ _ | sendRequest _ | closeResponse => cases h
  | _ => rfl

/-- The events a digest does not show at all. -/
def Event.isSilent : Event → Bool
  | .onNewRequest _ _ _ | .finalize _ _ _ | .sendRequest _ | .closeResponse => false
  | .nextChunk _ | .leaveResponse | .yields _ => false
  | _ => true

theorem Digest.after_silent (answer : e.Answer) (h : e.isSilent = true) :
    d.after ⟨e, answer⟩ = d := by
  cases e with
  | onNewRequest _ _ _ | finalize _ _ _ | sendRequest _ | closeResponse => cases h
  | nextChunk _ | leaveResponse | yields _ => cases h
  | _ => simp [Digest.after, Delivery.after, issuedBy, openAfter]

theorem Event.not_yield_of_silent (h : e.isSilent = true) : e.isYield = false := by
  cases e with
  | yields _ => cases h
  | _ => rfl

theorem digest_issued : (digest log).issued = issuedHandles log := by
  induction log using List.reverseRecOn with
  | nil => rfl
  | append_singleton log step ih =>
    rw [digest_append, issuedHandles_append, ← ih]
    rfl

theorem digest_live : (digest log).live = openHandles log := by
  induction log using List.reverseRecOn with
  | nil => rfl
  | append_singleton log step ih =>
    rw [digest_append, openHandles_append, ← ih]
    rfl

/-- The environment with the monitor tracked. -/
def tracked : Env service World := allows.within Tracked

theorem allows_keeps_tracked : ∀ w e answer w', Tracked w → allows w e answer w' → Tracked w' :=
  fun _ _ _ _ => tracked_step

theorem reaches_tracked {p p' : Prog service α}
    (h : Prog.Reaches allows p (.start window earlier) p' w) :
    Prog.Reaches tracked p (.start window earlier) p' w :=
  h.within allows_keeps_tracked (tracked_start window earlier)

theorem tracked_of_reaches {p p' : Prog service α}
    (h : Prog.Reaches allows p (.start window earlier) p' w) : Tracked w :=
  h.invariant allows_keeps_tracked (tracked_start window earlier)

theorem digest_step (h : tracked w e answer w') :
    digest w'.log = (digest w.log).after ⟨e, answer⟩ := by
  rw [h.2.1.1, digest_append]

section Expressions

variable {σ : Type} {env : Env service σ} {asserts : σ → Event → Prop} {l : L} {s : σ} {β : Type}
  {x : Except PyExc α} {f : α → Py service L β} {post : Except Raised β → L → σ → Prop}

theorem ensures_eval_ok {a : α}
    (hx : x = .ok a)
    (h : Ensures env asserts (f a) l s post) : Ensures env asserts (eval x >>= f) l s post := by
  subst hx
  exact h

theorem ensures_eval_error {e : PyExc}
    (hx : x = .error e)
    (h : post (.error (.error e)) l s) : Ensures env asserts (eval x >>= f) l s post := by
  subst hx
  exact h

end Expressions

section Rules

variable {asserts : World → Event → Prop} {l : L} {f : e.Answer → Py service L α}
  {post : Except Raised α → L → World → Prop} {d : Digest} {v : Delivery}

/-- An event, and then the rest of the function with its answer. -/
theorem ensures_note (hassert : asserts w e)
    (h : ∀ answer w', tracked w e answer w' → digest w'.log = (digest w.log).after ⟨e, answer⟩ →
      Ensures tracked asserts (f answer) l w' post) :
    Ensures tracked asserts (note e >>= f) l w post := by
  refine ⟨hassert, ?_⟩
  intro answer w' hstep
  exact h answer w' hstep (digest_step hstep)

/-- The log shows `d`, with this delivery. -/
abbrev World.Shows (w : World) (d : Digest) (v : Delivery) : Prop :=
  digest w.log = { d with delivery := v }

/-- Nothing is asserted but at yields. -/
abbrev Quiet (asserts : World → Event → Prop) : Prop :=
  ∀ w e, e.isYield = false → asserts w e

/-- An event that only shows in the delivery. -/
theorem ensures_unbooked (hw : w.Shows d v) (he : e.isBooked = false) (hassert : asserts w e)
    (h : ∀ answer w', w'.Shows d (v.after ⟨e, answer⟩) →
      Ensures tracked asserts (f answer) l w' post) :
    Ensures tracked asserts (note e >>= f) l w post := by
  apply ensures_note hassert
  intro answer w' _ hdigest
  apply h
  change digest w'.log = _
  rw [hdigest, hw, Digest.after_delivery d v answer he]

/-- A function that raises nothing, leaves the locals alone and does nothing that
a digest shows. -/
def Silent (p : Py service L α) : Prop :=
  ∀ (asserts : World → Event → Prop) (l : L) (w : World),
    Quiet asserts →
    Ensures tracked asserts p l w fun r l' w' =>
      (∃ a, r = .ok a) ∧ l' = l ∧ digest w'.log = digest w.log

theorem silent_pure (a : α) : Silent (pure a : Py service L α) := by
  intro asserts l w _
  exact ⟨⟨a, rfl⟩, rfl, rfl⟩

theorem silent_note (he : e.isSilent = true) : Silent (note e : Py service L _) := by
  intro asserts l w hquiet
  refine ⟨hquiet w e (Event.not_yield_of_silent he), ?_⟩
  intro answer w' hstep
  refine ⟨⟨answer, rfl⟩, rfl, ?_⟩
  rw [digest_step hstep, Digest.after_silent _ _ he]

theorem Silent.then {β : Type} {p : Py service L α} {f : α → Py service L β}
    {post : Except Raised β → L → World → Prop} (hp : Silent p) (hquiet : Quiet asserts)
    (h : ∀ a w', digest w'.log = digest w.log → Ensures tracked asserts (f a) l w' post) :
    Ensures tracked asserts (p >>= f) l w post := by
  apply ensures_bind.mpr
  refine (hp asserts l w hquiet).imp ?_
  rintro r l' w' ⟨⟨a, rfl⟩, rfl, hdigest⟩
  exact h a w' hdigest

theorem yieldItem_spec (item : Item) (hw : w.Shows d v) (hassert : asserts w (.yields item)) :
    Ensures tracked asserts (yieldItem item) l w fun r l' w' => l' = l ∧
      ((r = .ok () ∧
        digest w'.log = { d with delivery := { v with yielded := v.yielded ++ [item] } }) ∨
      ∃ i, r = .error (.interrupt i) ∧
        digest w'.log = { d with delivery := { v with
          yielded := v.yielded ++ [item]
          trouble := v.trouble.or (some .consumer)
          interrupted := true } }) := by
  apply ensures_unbooked hw rfl hassert
  intro wake w' h'
  cases wake with
  | resumed =>
    refine ⟨rfl, Or.inl ⟨rfl, ?_⟩⟩
    simpa [Delivery.after, Wake.trouble, Wake.isInterrupted] using h'
  | interrupted i =>
    refine ⟨rfl, Or.inr ⟨i, rfl, ?_⟩⟩
    simpa [Delivery.after, Wake.trouble, Wake.isInterrupted] using h'

end Rules

/-! One run at a time: answers from a script, with nobody else about. -/

/-- The monitor's own part of a step. -/
def monitorAnswer (script : (e : Event) → e.Answer) (m : RequestStatsMonitor) :
    (e : Event) → e.Answer × RequestStatsMonitor
  | .onNewRequest url rid t => m.onNewRequest url rid t
  | .onRequestResponse handle t => ((), m.onRequestResponse handle t)
  | .finalize outcome handle t => outcome.hook m handle t
  | .getRequestStats t => m.getRequestStats t
  | e => (script e, m)

def scripted (script : (e : Event) → e.Answer) (e : Event) (w : World) : e.Answer × World :=
  ((monitorAnswer script w.monitor e).1,
    ⟨(monitorAnswer script w.monitor e).2, w.log ++ [⟨e, (monitorAnswer script w.monitor e).1⟩]⟩)

/-- A script whose answers are possible gives one of the runs. -/
theorem scripted_reaches (script : (e : Event) → e.Answer)
    (hscript : ∀ e, answerable e (script e)) (p : Prog service α) (w : World) :
    Prog.Reaches allows p w (.ret (p.interpret (scripted script) w).1)
      (p.interpret (scripted script) w).2 := by
  refine Prog.interpret_reaches ?_ p w
  intro e w
  have hsame := Elsewhere.refl (issuedHandles w.log) w.monitor
  refine ⟨rfl, ?_, ?_⟩
  · cases e with
    | onNewRequest _ _ _ | onRequestResponse _ _ | finalize _ _ _ | getRequestStats _ =>
      exact trivial
    | _ => exact hscript _
  · cases e with
    | sendRequest _ | nextChunk _ | leaveResponse | readBody _ | yields _ | routeRequest _ _ _
    | externalProvider _ => exact hsame
    | _ => rfl

/-- A backend that refuses and a consumer that never interrupts; scripts say
what they do instead. -/
def calm : (e : Event) → e.Answer
  | .time => (0 : ℚ)
  | .onNewRequest _ _ _ => (⟨0⟩ : RequestHandle)
  | .finalize _ _ _ => Except.ok ()
  | .startSpan _ => (0 : Nat)
  | .injectContext headers _ => headers
  | .sendRequest _ => Entry.raised (.new .clientConnectorError "")
  | .nextChunk _ => Wake.resumed
  | .leaveResponse => Wake.resumed
  | .readBody .read => Except.ok ([] : Bytes)
  | .readBody .json => Except.ok Json.null
  | .readBody .text => Except.ok ""
  | .buildResponse => Except.ok ()
  | .yields _ => Wake.resumed
  | .getEndpointInfo => ([] : List EndpointInfo)
  | .hasEverSeenModel _ => Except.ok false
  | .getRequestStats _ => Except.ok (Dict.empty)
  | .routeRequest router endpoints json =>
    match endpoints with
    | [] => Except.error (.error (.new .runtimeError ""))
    | endpoint :: _ => Except.ok (endpoint.url, match router with
        | .priority field => upsert field (.int 0) json
        | _ => json)
  | .takeIndex _ => (0 : Nat)
  | .preRequest _ => Except.ok (none : Option PlainResponse)
  | .externalProvider _ => Except.error (.error (.new .runtimeError ""))
  | .onRequestResponse _ _ | .metric _ | .endSpan _ _ _ | .closeResponse | .releaseResponse
  | .stashStallError _ | .storeInSemanticCache _ _ _ _ | .addPostRequestTask _ => ()

theorem calm_answerable (e : Event) : answerable e (calm e) := by
  cases e with
  | routeRequest router endpoints json =>
    cases endpoints with
    | nil => exact trivial
    | cons endpoint rest =>
      refine ⟨List.mem_cons_self, ?_⟩
      cases router with
      | priority field => exact ⟨0, rfl⟩
      | _ => rfl
  | _ => exact trivial

end ProductionStack.Request

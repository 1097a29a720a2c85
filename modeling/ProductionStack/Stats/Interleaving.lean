import ProductionStack.Lib.Schedule
import ProductionStack.Stats.Lifecycle

/-!
Concurrent request attempts over one monitor. Each attempt calls
`on_new_request` and then its own callbacks on the handle it was given; a
schedule says whose call comes next. The monitor tracks one automaton per
attempt, so its counters do not depend on the schedule.
-/

namespace ProductionStack.Stats

open Lib RequestStatsMonitor

/-- A callback of an attempt on the handle it was given. -/
inductive HandleEvent where
  | response (timestamp : ℚ)
  | complete (timestamp : ℚ)
  | fail (timestamp : ℚ)
  | abort (timestamp : ℚ)

def HandleEvent.op (handle : RequestHandle) : HandleEvent → Op
  | .response t => .response handle t
  | .complete t => .complete handle t
  | .fail t => .fail handle t
  | .abort t => .abort handle t

/-- The arguments of the attempt's `on_new_request`, and its later callbacks in
their order. -/
structure Attempt where
  engineUrl : String
  requestId : String
  startTime : ℚ
  events : List HandleEvent

def Attempt.firstRecord (attempt : Attempt) : ActiveRequest :=
  ⟨.prefill, attempt.engineUrl, attempt.requestId, attempt.startTime, none⟩

/-- The shared monitor, the handle each started attempt holds, and the
callbacks each attempt has not made yet. -/
structure Attempts (ι : Type) where
  monitor : RequestStatsMonitor
  handles : ι → Option RequestHandle
  pending : ι → List HandleEvent

variable {ι : Type}

namespace Attempts

def start (monitor : RequestStatsMonitor) (attempts : ι → Attempt) : Attempts ι :=
  ⟨monitor, fun _ => none, fun i => (attempts i).events⟩

/-- Attempt `i` makes its next call. -/
def step [DecidableEq ι] (attempts : ι → Attempt) (c : Attempts ι) (i : ι) : Attempts ι :=
  match c.handles i with
  | none =>
    let (handle, monitor) := c.monitor.onNewRequest (attempts i).engineUrl
      (attempts i).requestId (attempts i).startTime
    { c with monitor := monitor, handles := Function.update c.handles i (some handle) }
  | some handle =>
    match c.pending i with
    | [] => c
    | event :: rest =>
      { c with
        monitor := (c.monitor.step (event.op handle)).2
        pending := Function.update c.pending i rest }

/-- The active record of attempt `i`, whichever handle it was given. -/
def record (c : Attempts ι) (i : ι) : Option ActiveRequest :=
  (c.handles i).bind c.monitor.activeRequests.get?

end Attempts

/-- The schedule makes every call of every attempt: its `on_new_request` and
all its callbacks. -/
def Interleaves [DecidableEq ι] (attempts : ι → Attempt) (schedule : List ι) : Prop :=
  ∀ i, schedule.count i = (attempts i).events.length + 1

/-- Where one attempt stands by its own calls alone. -/
inductive Progress where
  | idle
  | active (request : ActiveRequest)
  | finished (engineUrl : String)
  | dropped

namespace Progress

def record : Progress → Option ActiveRequest
  | .active request => some request
  | _ => none

def next : Progress → HandleEvent → Progress
  | .active request, .response t =>
    if request.stage = .prefill then
      .active { request with stage := .decoding, firstTokenTime := some t }
    else .active request
  | .active request, .complete _ => .finished request.engineUrl
  | .active _, .fail _ => .dropped
  | .active _, .abort _ => .dropped
  | progress, _ => progress

/-- What the attempt adds to the engine's counter of one stage. -/
def inStage (stage : Stage) (url : String) : Progress → Int
  | .active request => if stage = request.stage ∧ url = request.engineUrl then 1 else 0
  | _ => 0

def isFinished (url : String) : Progress → Int
  | .finished engineUrl => if url = engineUrl then 1 else 0
  | _ => 0

end Progress

structure AttemptState where
  attempt : Attempt
  progress : Progress
  pending : List HandleEvent

def AttemptState.start (attempt : Attempt) : AttemptState :=
  ⟨attempt, .idle, attempt.events⟩

def AttemptState.step (a : AttemptState) : AttemptState :=
  match a.progress with
  | .idle => { a with progress := .active a.attempt.firstRecord }
  | progress =>
    match a.pending with
    | [] => a
    | event :: rest => { a with progress := progress.next event, pending := rest }

variable {a : AttemptState}

theorem AttemptState.step_of_idle (h : a.progress = .idle) :
    a.step = ⟨a.attempt, .active a.attempt.firstRecord, a.pending⟩ := by
  simp only [AttemptState.step, h]

theorem AttemptState.step_of_nil (h : a.progress ≠ .idle) (hpending : a.pending = []) :
    a.step = a := by
  cases a with
  | mk attempt progress pending =>
    cases progress with
    | idle => exact absurd rfl h
    | active _ | finished _ | dropped => simp_all [AttemptState.step]

theorem AttemptState.step_of_cons (h : a.progress ≠ .idle) {event : HandleEvent}
    {rest : List HandleEvent} (hpending : a.pending = event :: rest) :
    a.step = ⟨a.attempt, a.progress.next event, rest⟩ := by
  cases a with
  | mk attempt progress pending =>
    cases progress with
    | idle => exact absurd rfl h
    | active _ | finished _ | dropped => simp_all [AttemptState.step]

theorem Progress.next_ne_idle {p : Progress} (h : p ≠ .idle) (event : HandleEvent) :
    p.next event ≠ .idle := by
  cases p with
  | idle => exact absurd rfl h
  | active request =>
    cases event with
    | response t =>
      simp only [Progress.next]
      split <;> simp
    | complete _ | fail _ | abort _ => exact nofun
  | finished _ | dropped => exact nofun

/-- One call moved the attempt behind `handle` from `p` to `p'` and left every
other handle alone. -/
structure Moves (m m' : RequestStatsMonitor) (handle : RequestHandle)
    (p p' : Progress) : Prop where
  coherent : Coherent m'
  record : m'.activeRequests.get? handle = p'.record
  others : ∀ other, other ≠ handle →
    m'.activeRequests.get? other = m.activeRequests.get? other
  counts : ∀ stage url, counted m' stage url =
    counted m stage url + (p'.inStage stage url - p.inStage stage url)
  finished : ∀ url, m'.finishedRequests.getD url 0 =
    m.finishedRequests.getD url 0 + (p'.isFinished url - p.isFinished url)
  next : m.nextHandle ≤ m'.nextHandle

section Moves

variable {m m' : RequestStatsMonitor} {handle : RequestHandle} {request : ActiveRequest}
  {p : Progress}

theorem Keeps.moves (h : Keeps m m') (hm : Coherent m)
    (hrecord : m.activeRequests.get? handle = p.record) : Moves m m' handle p p where
  coherent := h.coherent hm
  record := by rw [h.active, hrecord]
  others other _ := by rw [h.active]
  counts stage url := by
    cases stage <;> simp [counted, h.prefill, h.decoding]
  finished url := by simp [h.finished]
  next := h.next.ge

theorem Admits.moves (h : Admits m handle request m') (hm : Coherent m) :
    Moves m m' handle .idle (.active request) where
  coherent := h.coherent hm
  record := by rw [h.active, Dict.get?_set_self]; rfl
  others other hother := by rw [h.active, Dict.get?_set_of_ne _ _ hother]
  counts stage url := by
    cases stage with
    | prefill =>
      simp only [counted, h.prefill, getD_addTo, Progress.inStage, h.stage, true_and]
      split <;> omega
    | decoding => simp [counted, h.decoding, Progress.inStage, h.stage]
  finished url := by simp [h.finished, Progress.isFinished]
  next := by rw [h.next]; exact Nat.le_succ _

theorem Advances.moves {t : ℚ} (h : Advances m handle request t m') (hm : Coherent m) :
    Moves m m' handle (.active request)
      (.active { request with stage := .decoding, firstTokenTime := some t }) where
  coherent := h.coherent hm
  record := by rw [h.active, Dict.get?_set_self]; rfl
  others other hother := by rw [h.active, Dict.get?_set_of_ne _ _ hother]
  counts stage url := by
    cases stage with
    | prefill =>
      simp only [counted, h.prefill, getD_addTo, Progress.inStage, h.stage, true_and]
      split <;> simp
    | decoding =>
      simp only [counted, h.decoding, getD_addTo, Progress.inStage, h.stage, true_and]
      split <;> simp
  finished url := by simp [h.finished, Progress.isFinished]
  next := h.next.ge

theorem Retires.moves {completed : Bool} (h : Retires m handle request completed m')
    (hm : Coherent m) : Moves m m' handle (.active request)
      (if completed then .finished request.engineUrl else .dropped) where
  coherent := h.coherent hm
  record := by
    rw [h.active, Dict.get?_erase_self]
    cases completed <;> rfl
  others other hother := by rw [h.active, Dict.get?_erase_of_ne _ hother]
  counts stage url := by
    rw [h.released]
    cases completed <;> simp [Progress.inStage] <;> omega
  finished url := by
    rw [h.finished]
    cases completed with
    | true =>
      simp only [if_true, getD_addTo, Progress.isFinished]
      split <;> omega
    | false => simp [Progress.isFinished]
  next := h.next.ge

/-- A callback moves the attempt as its own automaton says. -/
theorem event_moves (hm : Coherent m)
    (hrecord : m.activeRequests.get? handle = p.record) (event : HandleEvent) :
    Moves m (m.step (event.op handle)).2 handle p (p.next event) := by
  have heffect := step_effect hm (event.op handle)
  cases hp : p with
  | active request =>
    rw [hp] at hrecord
    have hfound : m.activeRequests.get? handle = some request := hrecord
    cases event with
    | response t =>
      simp only [HandleEvent.op, effectOf, hfound] at heffect
      by_cases hstage : request.stage = .prefill
      · rw [if_pos hstage] at heffect
        simp only [Progress.next, if_pos hstage]
        exact Advances.moves heffect hm
      · rw [if_neg hstage] at heffect
        simp only [Progress.next, if_neg hstage]
        exact Keeps.moves heffect hm hrecord
    | complete t | fail t | abort t =>
      simp only [HandleEvent.op, effectOf, hfound] at heffect
      exact Retires.moves heffect hm
  | idle | finished _ | dropped =>
    rw [hp] at hrecord
    have hfound : m.activeRequests.get? handle = none := hrecord
    cases event <;>
    · simp only [HandleEvent.op, effectOf, hfound] at heffect
      exact Keeps.moves heffect hm hrecord

end Moves

variable [Fintype ι]

/-- The monitor, started from `base`, tracks the automata of all attempts. -/
structure Tracks (base : RequestStatsMonitor) (attempts : ι → Attempt)
    (c : Attempts ι) (states : ι → AttemptState) : Prop where
  coherent : Coherent c.monitor
  attempt : ∀ i, (states i).attempt = attempts i
  pending : ∀ i, (states i).pending = c.pending i
  started : ∀ i, c.handles i = none ↔ (states i).progress = .idle
  record : ∀ i handle, c.handles i = some handle →
    c.monitor.activeRequests.get? handle = (states i).progress.record
  distinct : ∀ i j handle, c.handles i = some handle → c.handles j = some handle → i = j
  below : ∀ i handle, c.handles i = some handle → handle.value < c.monitor.nextHandle
  counts : ∀ stage url, counted c.monitor stage url =
    counted base stage url + ∑ i, (states i).progress.inStage stage url
  finished : ∀ url, c.monitor.finishedRequests.getD url 0 =
    base.finishedRequests.getD url 0 + ∑ i, (states i).progress.isFinished url

variable {base : RequestStatsMonitor}

theorem tracks_start (hbase : Coherent base) (attempts : ι → Attempt) :
    Tracks base attempts (.start base attempts) (fun i => .start (attempts i)) where
  coherent := hbase
  attempt _ := rfl
  pending _ := rfl
  started _ := iff_of_true rfl rfl
  record _ _ h := by cases h
  distinct _ _ _ h := by cases h
  below _ _ h := by cases h
  counts stage url := by
    simp [Attempts.start, AttemptState.start, Progress.inStage]
  finished url := by
    simp [Attempts.start, AttemptState.start, Progress.isFinished]

variable {c : Attempts ι} {states : ι → AttemptState} {attempts : ι → Attempt}

theorem Tracks.record_eq (h : Tracks base attempts c states) (i : ι) :
    c.record i = (states i).progress.record := by
  unfold Attempts.record
  cases hhandle : c.handles i with
  | none =>
    rw [(h.started i).mp hhandle]
    rfl
  | some handle => exact h.record i handle hhandle

variable [DecidableEq ι]

/-- When a call moves attempt `i` through a handle that is its own or new, the
monitor tracks the moved automaton. -/
theorem Tracks.move (h : Tracks base attempts c states) (i : ι) (handle : RequestHandle)
    (monitor : RequestStatsMonitor) (progress : Progress) (rest : List HandleEvent)
    (hmoves : Moves c.monitor monitor handle (states i).progress progress)
    (hactive : progress ≠ .idle) (hbelow : handle.value < monitor.nextHandle)
    (hown : ∀ j, c.handles j = some handle → j = i) : Tracks base attempts
      ⟨monitor, Function.update c.handles i (some handle), Function.update c.pending i rest⟩
      (Function.update states i ⟨attempts i, progress, rest⟩) where
  coherent := hmoves.coherent
  attempt j := by
    rcases eq_or_ne j i with rfl | hj
    · rw [Function.update_self]
    · rw [Function.update_of_ne hj, h.attempt]
  pending j := by
    rcases eq_or_ne j i with rfl | hj
    · simp only [Function.update_self]
    · simp only [Function.update_of_ne hj, h.pending]
  started j := by
    rcases eq_or_ne j i with rfl | hj
    · simp [hactive]
    · simp only [Function.update_of_ne hj, h.started]
  record j other hother := by
    rcases eq_or_ne j i with rfl | hj
    · simp only [Function.update_self, Option.some.injEq] at hother ⊢
      rw [← hother, hmoves.record]
    · simp only [Function.update_of_ne hj] at hother ⊢
      have hne : other ≠ handle := by
        rintro rfl
        exact hj (hown j hother)
      rw [hmoves.others other hne, h.record j other hother]
  distinct j k other hother hother' := by
    rcases eq_or_ne j i with rfl | hj <;> rcases eq_or_ne k j with rfl | hk
    · rfl
    · simp only [Function.update_self, Function.update_of_ne hk, Option.some.injEq]
        at hother hother'
      exact (hown k (hother ▸ hother')).symm
    · rfl
    · simp only [Function.update_of_ne hj] at hother
      rcases eq_or_ne k i with rfl | hki
      · simp only [Function.update_self, Option.some.injEq] at hother'
        exact hown j (hother' ▸ hother)
      · simp only [Function.update_of_ne hki] at hother'
        exact h.distinct j k other hother hother'
  below j other hother := by
    rcases eq_or_ne j i with rfl | hj
    · simp only [Function.update_self, Option.some.injEq] at hother
      exact hother ▸ hbelow
    · simp only [Function.update_of_ne hj] at hother
      exact Nat.lt_of_lt_of_le (h.below j other hother) hmoves.next
  counts stage url := by
    rw [hmoves.counts, h.counts, sum_update (fun a : AttemptState => a.progress.inStage stage url)]
    dsimp only
    omega
  finished url := by
    rw [hmoves.finished, h.finished, sum_update (fun a : AttemptState => a.progress.isFinished url)]
    dsimp only
    omega

theorem Tracks.step (h : Tracks base attempts c states) (i : ι) :
    Tracks base attempts (c.step attempts i) (Function.update states i (states i).step) := by
  cases hhandle : c.handles i with
  | none =>
    have hidle := (h.started i).mp hhandle
    have hadmits := admits_onNewRequest c.monitor (attempts i).engineUrl
      (attempts i).requestId (attempts i).startTime
    have hmoves := hadmits.moves h.coherent
    rw [← hidle] at hmoves
    have hmove := h.move i ⟨c.monitor.nextHandle⟩ _ _ (c.pending i) hmoves nofun
      (by rw [hadmits.next]; exact Nat.lt_succ_self _)
      (fun j hj => absurd (h.below j _ hj) (Nat.lt_irrefl _))
    rw [Function.update_eq_self] at hmove
    rw [AttemptState.step_of_idle hidle, h.attempt, h.pending]
    simp only [Attempts.step, hhandle]
    exact hmove
  | some handle =>
    have hactive : (states i).progress ≠ .idle := by
      intro hidle
      rw [(h.started i).mpr hidle] at hhandle
      cases hhandle
    cases hpending : c.pending i with
    | nil =>
      rw [AttemptState.step_of_nil hactive ((h.pending i).trans hpending), Function.update_eq_self]
      simp only [Attempts.step, hhandle, hpending]
      exact h
    | cons event rest =>
      have hmoves := event_moves h.coherent (h.record i handle hhandle) event
      have hbelow := h.below i handle hhandle
      have hmove := h.move i handle _ _ rest hmoves
        (Progress.next_ne_idle hactive event) (Nat.lt_of_lt_of_le hbelow hmoves.next)
        (fun j hj => h.distinct j i handle hj hhandle)
      rw [← hhandle, Function.update_eq_self] at hmove
      rw [AttemptState.step_of_cons hactive ((h.pending i).trans hpending), h.attempt]
      simp only [Attempts.step, hhandle, hpending]
      exact hmove

/-- After any schedule the monitor tracks what each attempt did on its own. -/
theorem tracks_runSchedule (hbase : Coherent base) (attempts : ι → Attempt) (schedule : List ι) :
    Tracks base attempts (runSchedule (Attempts.step attempts) (.start base attempts) schedule)
      (advanced AttemptState.step (fun i => .start (attempts i)) schedule) :=
  schedule_simulates _ _ _ (fun _ _ i h => h.step i) _ _ (tracks_start hbase attempts) schedule

/-- Two interleavings of the same attempts, after the same earlier calls, leave
every engine with the same counters, and every attempt with the same record
under whatever handle it was given. -/
theorem interleavings_agree (window : ℚ) (earlier : List Op) (attempts : ι → Attempt)
    (left right : List ι) (hleft : Interleaves attempts left)
    (hright : Interleaves attempts right) :
    let start : Attempts ι := .start ((init window).run earlier) attempts
    let c := runSchedule (Attempts.step attempts) start left
    let c' := runSchedule (Attempts.step attempts) start right
    (∀ url, c.monitor.inPrefillRequests.getD url 0 = c'.monitor.inPrefillRequests.getD url 0) ∧
    (∀ url, c.monitor.inDecodingRequests.getD url 0 =
      c'.monitor.inDecodingRequests.getD url 0) ∧
    (∀ url, c.monitor.finishedRequests.getD url 0 = c'.monitor.finishedRequests.getD url 0) ∧
    (∀ i, c.record i = c'.record i) := by
  have hbase := coherent_run (coherent_init window) earlier
  have hl := tracks_runSchedule hbase attempts left
  have hr := tracks_runSchedule hbase attempts right
  rw [advanced_congr _ _ (fun i => (hleft i).trans (hright i).symm)] at hl
  refine ⟨?_, ?_, ?_, ?_⟩
  · intro url
    exact (hl.counts .prefill url).trans (hr.counts .prefill url).symm
  · intro url
    exact (hl.counts .decoding url).trans (hr.counts .decoding url).symm
  · intro url
    exact (hl.finished url).trans (hr.finished url).symm
  · intro i
    exact (hl.record_eq i).trans (hr.record_eq i).symm

/-- Two requests on one engine: the first finishes, the second is still in
prefill, whether they ran one after the other or overlapped. -/
def overlapping : Bool → Attempt
  | false => ⟨"http://a", "r0", 0, [.response 1, .complete 2]⟩
  | true => ⟨"http://a", "r1", 0, []⟩

theorem interleavings_agree_overlapping :
    let start : Attempts Bool := .start (init 60) overlapping
    let c := runSchedule (Attempts.step overlapping) start [false, false, false, true]
    let c' := runSchedule (Attempts.step overlapping) start [true, false, false, false]
    (∀ url, c.monitor.inPrefillRequests.getD url 0 = c'.monitor.inPrefillRequests.getD url 0) ∧
    (∀ i, c.record i = c'.record i) ∧ c.handles true ≠ c'.handles true := by
  have h := interleavings_agree 60 [] overlapping [false, false, false, true]
    [true, false, false, false] (by intro i; cases i <;> rfl) (by intro i; cases i <;> rfl)
  exact ⟨h.1, h.2.2.2, by decide⟩

end ProductionStack.Stats

import ProductionStack.Lib.Fairness
import ProductionStack.Discovery.Memory

/-!
Shutting down the discovery by pod IP. The watcher thread hands the coroutine
`initialize_client_sessions` to the event loop and waits for its future, without
a timeout. `close` runs on the thread of that loop and waits for the watcher, so
no coroutine of the loop moves before `close` returns.
-/

namespace ProductionStack.Discovery

open Lib Python Request

/-- What the watch stream has when the watcher asks for the next event. -/
inductive Heard where
  | quiet
  | event (event : WatchEvent .podIP)
  | ends
  | raises

/-- Where the watcher thread is in `_watch_engines`. -/
inductive Watcher where
  /-- at `while self.running` -/
  | checking
  | streaming
  | handling (event : WatchEvent .podIP)
  /-- in `_add_engine`, with the engine registered and the event loop still to be asked -/
  | added (modelNames : List String)
  /-- in `fut.result()` -/
  | waiting (modelNames : List String) (finished : Bool)
  /-- in `time.sleep(0.5)`, after an exception -/
  | sleeping
  | done

/-- Where the thread of the event loop is: in coroutines, or in one of the three
statements of `close`. -/
inductive LoopThread where
  | serving
  | closing
  | stopping
  | joining
  | returned
  deriving DecidableEq

/-- What the event loop does next while it runs coroutines. -/
inductive LoopAct where
  | other
  | setEventLoop
  /-- goes on with the coroutine that the watcher submitted, to its next `await` or to its end -/
  | initializeClientSessions (finished : Bool)
  | close

inductive ThreadTurn where
  | watcher (heard : Heard)
  | loop (act : LoopAct)

structure Threads where
  discovery : K8sPodIPServiceDiscovery
  running : Bool
  stopped : Bool
  eventLoopReady : Bool
  watcher : Watcher
  loop : LoopThread

namespace Threads

variable (settings : Settings) {schedule : ℕ → ThreadTurn}

/-- As the constructor leaves the object, with its thread started. -/
def started : Threads where
  discovery := ⟨.empty, ∅⟩
  running := true
  stopped := false
  eventLoopReady := false
  watcher := .checking
  loop := .serving

/-- The models are recorded after the client sessions. -/
def record (modelNames : List String) (s : Threads) : Threads :=
  { s with
    discovery.knownModels := s.discovery.knownModels ∪ modelNames.toFinset
    watcher := .streaming }

/-- An exception of a handler ends the stream. -/
def handle (event : WatchEvent .podIP) (s : Threads) : Threads :=
  match event.handle settings s.discovery with
  | .error _ => { s with watcher := .sleeping }
  | .ok next =>
    if (event.registration settings).isSome then
      { s with
        discovery.availableEngines := next.availableEngines
        watcher := .added (event.modelNames settings) }
    else { s with discovery := next, watcher := .streaming }

def watch (heard : Heard) (s : Threads) : Threads :=
  match s.watcher with
  | .checking => { s with watcher := if s.running then .streaming else .done }
  | .streaming =>
    match heard with
    | .quiet => s
    | .event event => { s with watcher := .handling event }
    | .ends => { s with watcher := .checking }
    | .raises => { s with watcher := .sleeping }
  | .handling event => s.handle settings event
  | .added modelNames =>
    if s.eventLoopReady then { s with watcher := .waiting modelNames false }
    else s.record modelNames
  | .waiting modelNames true => s.record modelNames
  | .waiting _ false => s
  | .sleeping => { s with watcher := .checking }
  | .done => s

/-- A coroutine moves only while the loop runs coroutines. -/
def serve (act : LoopAct) (s : Threads) : Threads :=
  match act, s.watcher with
  | .setEventLoop, _ => { s with eventLoopReady := true }
  | .initializeClientSessions true, .waiting modelNames false =>
    { s with watcher := .waiting modelNames true }
  | .close, _ => { s with loop := .closing }
  | _, _ => s

/-- `self.running = False`, `self.k8s_watcher.stop()`, `self.watcher_thread.join()`. -/
def loopTurn (act : LoopAct) (s : Threads) : Threads :=
  match s.loop, s.watcher with
  | .serving, _ => s.serve act
  | .closing, _ => { s with running := false, loop := .stopping }
  | .stopping, _ => { s with stopped := true, loop := .joining }
  | .joining, .done => { s with loop := .returned }
  | .joining, _ => s
  | .returned, _ => s

def turn (s : Threads) : ThreadTurn → Threads
  | .watcher heard => s.watch settings heard
  | .loop act => s.loopTurn act

/-- The threads at every moment of a run. -/
def run (schedule : ℕ → ThreadTurn) : ℕ → Threads :=
  moments (turn settings) started schedule

/-- Neither thread is left out for good. -/
structure Fair (schedule : ℕ → ThreadTurn) : Prop where
  watcher : Recurs fun n => ∃ heard, schedule n = .watcher heard
  loop : Recurs fun n => ∃ act, schedule n = .loop act

/-- After `stop` the stream, or one that is opened again, brings no events for ever
and does not stay open for ever. -/
def EndsAfterStop (schedule : ℕ → ThreadTurn) : Prop :=
  (∃ n, (run settings schedule n).stopped) →
    ∃ n, ∀ m ≥ n, ∀ heard, schedule m = .watcher heard → heard = .ends ∨ heard = .raises

/-- The watcher waits for a coroutine that has not finished. -/
def Unfinished (s : Threads) : Prop := ∃ modelNames, s.watcher = .waiting modelNames false

variable {settings}

variable {s : Threads}

/-- The two halves of an added engine are what the handler does in all. -/
theorem record_handle {event : WatchEvent .podIP} {next : K8sPodIPServiceDiscovery}
    (h : event.handle settings s.discovery = .ok next)
    (hadded : (event.registration settings).isSome) :
    ((s.handle settings event).record (event.modelNames settings)).discovery = next := by
  have hknown := K8sPodIPServiceDiscovery.handle_known settings h
  unfold handle
  rw [h]
  dsimp only
  rw [if_pos hadded]
  change K8sPodIPServiceDiscovery.mk next.availableEngines _ = next
  rw [← hknown]

/-! What one turn can do. -/

/-- The watcher changes nothing but the registry and where it is. -/
theorem watch_frame (settings : Settings) (heard : Heard) (s : Threads) :
    (s.watch settings heard).running = s.running ∧ (s.watch settings heard).stopped = s.stopped ∧
    (s.watch settings heard).eventLoopReady = s.eventLoopReady ∧
    (s.watch settings heard).loop = s.loop := by
  unfold watch handle record
  split
  · exact ⟨rfl, rfl, rfl, rfl⟩
  · cases heard <;> exact ⟨rfl, rfl, rfl, rfl⟩
  · split
    · exact ⟨rfl, rfl, rfl, rfl⟩
    · split <;> exact ⟨rfl, rfl, rfl, rfl⟩
  · split <;> exact ⟨rfl, rfl, rfl, rfl⟩
  all_goals exact ⟨rfl, rfl, rfl, rfl⟩

/-- In `close` the loop thread does not move the watcher, and does not go back to
its coroutines. -/
theorem loopTurn_in_close (hclose : s.loop ≠ .serving) (act : LoopAct) :
    (s.loopTurn act).watcher = s.watcher ∧ (s.loopTurn act).loop ≠ .serving := by
  unfold loopTurn
  cases hloop : s.loop with
  | serving => exact absurd hloop hclose
  | closing => simp
  | stopping => simp
  | joining =>
    cases hwatcher : s.watcher with
    | done => exact ⟨rfl, by simp⟩
    | _ => exact ⟨hwatcher, hclose⟩
  | returned => exact ⟨rfl, hclose⟩

theorem turn_in_close (hclose : s.loop ≠ .serving) (t : ThreadTurn) :
    (s.turn settings t).loop ≠ .serving := by
  cases t with
  | watcher heard =>
    obtain ⟨-, -, -, hloop⟩ := watch_frame settings heard s
    change (s.watch settings heard).loop ≠ _
    rw [hloop]
    exact hclose
  | loop act => exact (loopTurn_in_close hclose act).2

/-- Nobody is left to finish the coroutine. -/
theorem turn_unfinished (hclose : s.loop ≠ .serving) (h : s.Unfinished) (t : ThreadTurn) :
    (s.turn settings t).Unfinished := by
  obtain ⟨modelNames, hwaiting⟩ := h
  refine ⟨modelNames, ?_⟩
  cases t with
  | watcher heard =>
    change (s.watch settings heard).watcher = _
    unfold watch
    rw [hwaiting]
    exact hwaiting
  | loop act =>
    change (s.loopTurn act).watcher = _
    rw [(loopTurn_in_close hclose act).1, hwaiting]

/-- What holds of the statements of `close` that were executed. -/
structure Closed (s : Threads) : Prop where
  running : s.loop = .stopping ∨ s.loop = .joining → s.running = false
  stopped : s.loop = .joining → s.stopped = true
  joined : s.loop = .returned → s.watcher = .done

theorem Closed.watch (h : s.Closed) (heard : Heard) : (s.watch settings heard).Closed := by
  obtain ⟨hrunning, hstopped, -, hloop⟩ := watch_frame settings heard s
  refine ⟨?_, ?_, ?_⟩
  · rw [hrunning, hloop]
    exact h.running
  · rw [hstopped, hloop]
    exact h.stopped
  · rw [hloop]
    intro hreturned
    unfold Threads.watch
    rw [h.joined hreturned]
    exact h.joined hreturned

theorem Closed.of_serving (h : s.loop = .serving ∨ s.loop = .closing) : s.Closed := by
  rcases h with h | h
  all_goals exact ⟨by simp [h], by simp [h], by simp [h]⟩

theorem Closed.loopTurn (h : s.Closed) (act : LoopAct) : (s.loopTurn act).Closed := by
  unfold Threads.loopTurn
  cases hloop : s.loop with
  | serving =>
    apply Closed.of_serving
    dsimp only [serve]
    split
    · exact Or.inl hloop
    · exact Or.inl hloop
    · exact Or.inr rfl
    · exact Or.inl hloop
  | closing => exact ⟨by simp, by simp, by simp⟩
  | stopping => exact ⟨by simp [h.running (Or.inl hloop)], by simp, by simp⟩
  | joining =>
    cases hwatcher : s.watcher with
    | done => exact ⟨by simp, by simp, fun _ => rfl⟩
    | _ => exact h
  | returned => exact h

theorem Closed.turn (h : s.Closed) (t : ThreadTurn) : (s.turn settings t).Closed := by
  cases t with
  | watcher heard => exact h.watch heard
  | loop act => exact h.loopTurn act

/-! Whole runs. -/

section Run

theorem run_closed (n : ℕ) : (run settings schedule n).Closed := by
  induction n with
  | zero => exact Closed.of_serving (Or.inl rfl)
  | succ n ih => exact ih.turn (schedule n)

variable {m n : ℕ}

theorem run_in_close (h : (run settings schedule n).loop ≠ .serving) (hm : n ≤ m) :
    (run settings schedule m).loop ≠ .serving := by
  induction m, hm using Nat.le_induction with
  | base => exact h
  | succ m _ ih => exact turn_in_close ih (schedule m)

theorem run_unfinished (hclose : (run settings schedule n).loop ≠ .serving)
    (h : (run settings schedule n).Unfinished) (hm : n ≤ m) :
    (run settings schedule m).Unfinished := by
  induction m, hm using Nat.le_induction with
  | base => exact h
  | succ m hm ih => exact turn_unfinished (run_in_close hclose hm) ih (schedule m)

/-- How far the watcher is from its end when the streams have ended. -/
def rank : Watcher → ℕ
  | .done => 0
  | .checking => 1
  | .sleeping => 2
  | .streaming => 3
  | .waiting _ _ => 4
  | .added _ => 5
  | .handling _ => 6

/-- With `running` off and no more events, a watcher that does not wait for the loop
gets closer to its end. -/
theorem watch_rank (hrunning : s.running = false) (hbusy : s.watcher ≠ .done)
    (hfinished : ¬ s.Unfinished) {heard : Heard} (hheard : heard = .ends ∨ heard = .raises) :
    rank (s.watch settings heard).watcher < rank s.watcher := by
  unfold watch
  cases hwatcher : s.watcher with
  | checking => simp [hrunning, rank]
  | streaming => rcases hheard with rfl | rfl <;> simp [rank]
  | handling event =>
    dsimp only [handle]
    split
    · simp [rank]
    · split <;> simp [rank]
  | added modelNames =>
    dsimp only
    split <;> simp [rank, record]
  | waiting modelNames finished =>
    cases finished with
    | true => simp [rank, record]
    | false => exact absurd ⟨modelNames, hwatcher⟩ hfinished
  | sleeping => simp [rank]
  | done => exact absurd hwatcher hbusy

/-- How far the loop thread is from the `join`. -/
def statementsLeft : LoopThread → ℕ
  | .serving => 0
  | .closing => 2
  | .stopping => 1
  | .joining => 0
  | .returned => 0

theorem loopTurn_statementsLeft (h : s.loop = .closing ∨ s.loop = .stopping)
    (act : LoopAct) : statementsLeft (s.loopTurn act).loop < statementsLeft s.loop := by
  unfold loopTurn
  rcases h with h | h
  · simp [h, statementsLeft]
  · simp [h, statementsLeft]

/-- `close` gets as far as the `join`: nothing blocks it before. -/
theorem eventually_joining (hfair : Fair schedule)
    (hclose : (run settings schedule n).loop ≠ .serving) :
    ∃ m ≥ n, (run settings schedule m).loop = .joining ∨
      (run settings schedule m).loop = .returned := by
  have hbefore (m : ℕ) (hm : m ≥ n) (hgoal : ¬ ((run settings schedule m).loop = .joining ∨
      (run settings schedule m).loop = .returned)) :
      (run settings schedule m).loop = .closing ∨ (run settings schedule m).loop = .stopping := by
    have hin := run_in_close hclose hm
    cases hloop : (run settings schedule m).loop <;> simp_all
  apply eventually_of_rank (fun m => statementsLeft (run settings schedule m).loop) hfair.loop
  · intro m hm hgoal
    change statementsLeft ((run settings schedule m).turn settings (schedule m)).loop ≤ _
    cases schedule m with
    | watcher heard => rw [turn, (watch_frame settings heard _).2.2.2]
    | loop act => exact (loopTurn_statementsLeft (hbefore m hm hgoal) act).le
  · intro m hm hgoal hloop
    obtain ⟨act, hact⟩ := hloop
    change statementsLeft ((run settings schedule m).turn settings (schedule m)).loop < _
    rw [hact]
    exact loopTurn_statementsLeft (hbefore m hm hgoal) act

theorem run_joining (h : (run settings schedule n).loop = .joining) (hm : n ≤ m) :
    (run settings schedule m).loop = .joining ∨ (run settings schedule m).loop = .returned := by
  induction m, hm using Nat.le_induction with
  | base => exact Or.inl h
  | succ m _ ih =>
    change ((run settings schedule m).turn settings (schedule m)).loop = _ ∨
      ((run settings schedule m).turn settings (schedule m)).loop = _
    cases schedule m with
    | watcher heard =>
      rw [turn, (watch_frame settings heard _).2.2.2]
      exact ih
    | loop act =>
      rw [turn, loopTurn]
      rcases ih with hjoining | hreturned
      · rw [hjoining]
        split <;> simp_all
      · rw [hreturned]
        exact Or.inr hreturned

/-- A watcher that is not waiting for the loop ends. -/
theorem eventually_done (hfair : Fair schedule) (hends : EndsAfterStop settings schedule)
    (hjoining : (run settings schedule n).loop = .joining)
    (hfinished : ∀ m ≥ n, ¬ (run settings schedule m).Unfinished) :
    ∃ m ≥ n, (run settings schedule m).watcher = .done := by
  obtain ⟨last, hlast⟩ := hends ⟨n, (run_closed n).stopped hjoining⟩
  have hwatch (m : ℕ) (hm : m ≥ max n last)
      (hbusy : (run settings schedule m).watcher ≠ .done) (heard : Heard)
      (hheard : schedule m = .watcher heard) :
      rank (run settings schedule (m + 1)).watcher < rank (run settings schedule m).watcher := by
    have hloop : (run settings schedule m).loop = .joining := by
      rcases run_joining hjoining (le_of_max_le_left hm) with hloop | hloop
      · exact hloop
      · exact absurd ((run_closed m).joined hloop) hbusy
    change rank ((run settings schedule m).turn settings (schedule m)).watcher < _
    rw [hheard]
    exact watch_rank ((run_closed m).running (Or.inr hloop)) hbusy
      (hfinished m (le_of_max_le_left hm)) (hlast m (le_of_max_le_right hm) heard hheard)
  have hclose : (run settings schedule n).loop ≠ .serving := by simp [hjoining]
  obtain ⟨m, hm, hdone⟩ : ∃ m ≥ max n last, (run settings schedule m).watcher = .done := by
    apply eventually_of_rank (fun m => rank (run settings schedule m).watcher) hfair.watcher
    · intro m hm hbusy
      cases hturn : schedule m with
      | watcher heard => exact (hwatch m hm hbusy heard hturn).le
      | loop act =>
        change rank ((run settings schedule m).turn settings (schedule m)).watcher ≤ _
        rw [hturn, turn, (loopTurn_in_close (run_in_close hclose (le_of_max_le_left hm)) act).1]
    · intro m hm hbusy hturn
      obtain ⟨heard, hheard⟩ := hturn
      exact hwatch m hm hbusy heard hheard
  exact ⟨m, le_of_max_le_left hm, hdone⟩

theorem run_done (hclose : (run settings schedule n).loop ≠ .serving)
    (h : (run settings schedule n).watcher = .done) (hm : n ≤ m) :
    (run settings schedule m).watcher = .done := by
  induction m, hm using Nat.le_induction with
  | base => exact h
  | succ m hm ih =>
    change ((run settings schedule m).turn settings (schedule m)).watcher = _
    cases schedule m with
    | watcher heard => simp [turn, watch, ih]
    | loop act => rw [turn, (loopTurn_in_close (run_in_close hclose hm) act).1, ih]

theorem run_returned (h : (run settings schedule n).loop = .returned) (hm : n ≤ m) :
    (run settings schedule m).loop = .returned := by
  induction m, hm using Nat.le_induction with
  | base => exact h
  | succ m _ ih =>
    change ((run settings schedule m).turn settings (schedule m)).loop = _
    cases schedule m with
    | watcher heard => rw [turn, (watch_frame settings heard _).2.2.2, ih]
    | loop act => simp [turn, loopTurn, ih]

/-- The loop thread waits for the watcher and the watcher for the loop. -/
theorem never_returned (hclose : (run settings schedule n).loop ≠ .serving)
    (h : (run settings schedule n).Unfinished) (m : ℕ) :
    (run settings schedule m).loop ≠ .returned := by
  intro hreturned
  have hdone := (run_closed (max n m)).joined (run_returned hreturned (le_max_right n m))
  obtain ⟨modelNames, hwaiting⟩ := run_unfinished hclose h (le_max_left n m)
  rw [hdone] at hwaiting
  cases hwaiting

/-- `close` returns if and only if, while it runs, the watcher never waits for a
coroutine that has not finished. -/
theorem close_returns_iff (hfair : Fair schedule) (hends : EndsAfterStop settings schedule) {n : ℕ}
    (hcall : (run settings schedule n).loop = .closing) :
    (∃ m, (run settings schedule m).loop = .returned) ↔
      ∀ m ≥ n, ¬ (run settings schedule m).Unfinished := by
  have hclose : (run settings schedule n).loop ≠ .serving := by simp [hcall]
  constructor
  · intro hreturned m hm hunfinished
    obtain ⟨k, hreturned⟩ := hreturned
    exact never_returned (run_in_close hclose hm) hunfinished k hreturned
  · intro hfinished
    obtain ⟨m, hm, hjoining | hreturned⟩ := eventually_joining hfair hclose
    · obtain ⟨k, hk, hdone⟩ := eventually_done hfair hends hjoining
        fun k hk => hfinished k (by omega)
      obtain ⟨l, hl, act, hact⟩ := hfair.loop k
      have hdone : (run settings schedule l).watcher = .done :=
        run_done (run_in_close hclose (by omega)) hdone hl
      rcases run_joining hjoining (show m ≤ l by omega) with hloop | hloop
      · refine ⟨l + 1, ?_⟩
        change ((run settings schedule l).turn settings (schedule l)).loop = _
        simp [hact, turn, loopTurn, hloop, hdone]
      · exact ⟨l, hloop⟩
    · exact ⟨m, hreturned⟩

end Run

/-- From some turn on the two threads take turns, and the stream is over. -/
theorem alternating (settings : Settings) {start : ℕ}
    (h : ∀ n, schedule (start + n) = if n % 2 = 0 then .watcher .ends else .loop .other) :
    Fair schedule ∧ EndsAfterStop settings schedule := by
  refine ⟨⟨?_, ?_⟩, ?_⟩
  · intro n
    exact ⟨start + 2 * n, by omega, .ends, by simp [h]⟩
  · intro n
    refine ⟨start + (2 * n + 1), by omega, .other, ?_⟩
    rw [h, if_neg (by omega)]
  · intro _
    refine ⟨start, ?_⟩
    intro m hm heard hheard
    obtain ⟨n, rfl⟩ := Nat.exists_eq_add_of_le hm
    rw [h] at hheard
    split at hheard
    · cases hheard
      exact Or.inl rfl
    · cases hheard

/-- `close` while the watcher is between two events. -/
def closedBetweenEvents : ℕ → ThreadTurn
  | 0 => .loop .close
  | 1 => .loop .other
  | n + 2 => if n % 2 = 0 then .watcher .ends else .loop .other

theorem close_returns_between_events :
    Fair closedBetweenEvents ∧ EndsAfterStop portSettings closedBetweenEvents ∧
    (run portSettings closedBetweenEvents 1).loop = .closing ∧
    ∃ m, (run portSettings closedBetweenEvents m).loop = .returned := by
  have htail (n : ℕ) : closedBetweenEvents (2 + n) =
      if n % 2 = 0 then .watcher .ends else .loop .other := by
    rw [Nat.add_comm]
    rfl
  obtain ⟨hfair, hends⟩ := alternating portSettings htail
  have hcall : (run portSettings closedBetweenEvents 1).loop = .closing := rfl
  refine ⟨hfair, hends, hcall, (close_returns_iff hfair hends hcall).mpr ?_⟩
  intro m hm hunfinished
  obtain ⟨modelNames, hwaiting⟩ := hunfinished
  rcases Nat.lt_or_ge m 3 with hearly | hlate
  · have hm : m = 1 ∨ m = 2 := by omega
    rcases hm with rfl | rfl <;> cases hwaiting
  · have hthird : (run portSettings closedBetweenEvents 3).loop = .stopping := rfl
    have hdone : (run portSettings closedBetweenEvents m).watcher = .done :=
      run_done (by simp [hthird]) rfl hlate
    rw [hdone] at hwaiting
    cases hwaiting

/-- A pod that is ready and serves a model. -/
def readyPodAdded : WatchEvent .podIP where
  type := .added
  object := ⟨"engine", some "10.0.0.1", [true], none, []⟩
  answers := ⟨⟨.ok ["m"], .ok false⟩, .ok []⟩

/-- `close` while the watcher is adding an engine. -/
def closedWhileAdding : ℕ → ThreadTurn
  | 0 => .loop .setEventLoop
  | 1 => .watcher .quiet
  | 2 => .watcher (.event readyPodAdded)
  | 3 => .watcher .quiet
  | 4 => .loop .close
  | n + 5 => if n % 2 = 0 then .watcher .ends else .loop .other

theorem close_hangs_while_adding :
    Fair closedWhileAdding ∧ EndsAfterStop portSettings closedWhileAdding ∧
    (run portSettings closedWhileAdding 5).loop = .closing ∧
    ∀ m, (run portSettings closedWhileAdding m).loop ≠ .returned := by
  have htail (n : ℕ) : closedWhileAdding (5 + n) =
      if n % 2 = 0 then .watcher .ends else .loop .other := by
    rw [Nat.add_comm]
    rfl
  obtain ⟨hfair, hends⟩ := alternating portSettings htail
  have hwaiting : (run portSettings closedWhileAdding 6).watcher = .waiting ["m"] false := rfl
  have hclosing : (run portSettings closedWhileAdding 6).loop = .closing := rfl
  exact ⟨hfair, hends, rfl, never_returned (by simp [hclosing]) ⟨_, hwaiting⟩⟩

end Threads

end ProductionStack.Discovery

import Mathlib.Algebra.BigOperators.Group.List.Basic
import Mathlib.Data.List.Induction
import Mathlib.Data.List.TakeWhile
import Mathlib.Tactic.Linarith
import ProductionStack.Stats.Lifecycle

/-!
What the sliding windows report, as a function of the whole history: every window holds
the data points that have not left it, whenever it was last trimmed.
-/

namespace ProductionStack.Stats

open Lib RequestStatsMonitor

/-- Data points, oldest first: a time and a value. -/
abbrev Series := List (ℚ × ℚ)

/-- The points from `start` on. -/
def since (start : ℚ) (s : Series) : Series := s.filter fun p => start ≤ p.1

/-- The points in the window that ends at `now`. -/
def windowed (window now : ℚ) (s : Series) : Series :=
  s.filter fun p => now - window ≤ p.1 ∧ p.1 ≤ now

def mean (s : Series) : ℚ := if s.isEmpty then -1 else (s.map Prod.snd).sum / s.length

/-- In order of time, none of them later than `now`. -/
structure Until (now : ℚ) (s : Series) : Prop where
  sorted : s.Pairwise (·.1 ≤ ·.1)
  past : ∀ p ∈ s, p.1 ≤ now

variable {s : Series} {window now : ℚ}

theorem Until.later {t t' : ℚ} (h : Until t s) (ht : t ≤ t') : Until t' s :=
  ⟨h.sorted, fun p hp => (h.past p hp).trans ht⟩

variable {s' : Series} {start : ℚ} (d : Dict String MovingAverageMonitor) (key url : String)

theorem Until.append {t t' : ℚ} (h : Until t s) (ht : t ≤ t') (hs : s'.Pairwise (·.1 ≤ ·.1))
    (hat : ∀ p ∈ s', p.1 = t') : Until t' (s ++ s') := by
  refine ⟨List.pairwise_append.mpr ⟨h.sorted, hs, ?_⟩, ?_⟩
  · intro p hp q hq
    rw [hat q hq]
    exact (h.past p hp).trans ht
  · intro p hp
    rcases List.mem_append.mp hp with hp | hp
    · exact (h.past p hp).trans ht
    · exact (hat p hp).le

theorem windowed_eq_since (h : Until now s) : windowed window now s = since (now - window) s := by
  refine List.filter_congr fun p hp => ?_
  simp [h.past p hp]

theorem since_since {start' : ℚ} (h : start ≤ start') (s : Series) :
    since start' (since start s) = since start' s := by
  rw [since, since, List.filter_filter]
  refine List.filter_congr fun p _ => ?_
  simpa using fun hp => h.trans hp

theorem dropWhile_eq_since (h : s.Pairwise (·.1 ≤ ·.1)) :
    s.dropWhile (fun p => p.1 < start) = since start s := by
  induction s with
  | nil => rfl
  | cons p s ih =>
    obtain ⟨hp, hs⟩ := List.pairwise_cons.mp h
    by_cases hlt : p.1 < start
    · rw [List.dropWhile_cons_of_pos (by simpa using hlt), ih hs]
      simp [since, hlt]
    · have hall : ∀ q ∈ p :: s, start ≤ q.1 := by
        intro q hq
        rcases List.mem_cons.mp hq with rfl | hq
        · exact not_lt.mp hlt
        · exact (not_lt.mp hlt).trans (hp q hq)
      rw [List.dropWhile_cons_of_neg (by simpa using hlt)]
      exact (List.filter_eq_self.mpr (by simpa using hall)).symm

namespace MovingAverageMonitor

/-- The two deques hold these points. -/
def Holds (m : MovingAverageMonitor) (s : Series) : Prop :=
  m.timestamps = s.map Prod.fst ∧ m.values = s.map Prod.snd

theorem trim_map (cutoff : ℚ) (s : Series) : trim cutoff (s.map Prod.fst) (s.map Prod.snd) =
      ((s.dropWhile fun p => p.1 < cutoff).map Prod.fst,
        (s.dropWhile fun p => p.1 < cutoff).map Prod.snd) := by
  induction s with
  | nil => rfl
  | cons p s ih =>
    by_cases h : p.1 < cutoff
    · simpa [trim, h] using ih
    · simp [trim, h]

variable {m : MovingAverageMonitor}

theorem Holds.updateNoValue (h : m.Holds s) (t : ℚ) : (m.updateNoValue t).Holds
    (s.dropWhile fun p => p.1 < t - m.slidingWindowSize) := by
  unfold MovingAverageMonitor.updateNoValue
  rw [h.1, h.2, trim_map]
  exact ⟨rfl, rfl⟩

theorem Holds.update (h : m.Holds s) (t v : ℚ) : (m.update t v).Holds
    ((s ++ [(t, v)]).dropWhile fun p => p.1 < t - m.slidingWindowSize) := by
  have htrim := trim_map (t - m.slidingWindowSize) (s ++ [(t, v)])
  rw [List.map_append, List.map_append] at htrim
  change trim _ (_ ++ [t]) (_ ++ [v]) = _ at htrim
  unfold MovingAverageMonitor.update
  rw [h.1, h.2, htrim]
  exact ⟨rfl, rfl⟩

/-- A monitor that was trimmed at some time up to `t` holds what is left of the series. -/
structure Follows (window t : ℚ) (s : Series) (m : MovingAverageMonitor) : Prop where
  size : m.slidingWindowSize = window
  held : ∃ start ≤ t - window, m.Holds (since start s)

variable {t t' : ℚ}

theorem Follows.later (h : Follows window t s m) (ht : t ≤ t') : Follows window t' s m := by
  obtain ⟨start, hstart, hheld⟩ := h.held
  exact ⟨h.size, start, by linarith, hheld⟩

section Update

variable (h : Follows window t s m) (hs : Until t s) (ht : t ≤ t')

include h hs ht

theorem Follows.holds_updateNoValue : (m.updateNoValue t').Holds (since (t' - window) s) := by
  obtain ⟨start, hstart, hheld⟩ := h.held
  have hsorted : (since start s).Pairwise (·.1 ≤ ·.1) := hs.sorted.filter _
  have hnow := hheld.updateNoValue t'
  rwa [h.size, dropWhile_eq_since hsorted, since_since (by linarith)] at hnow

theorem Follows.holds_update (v : ℚ) :
    (m.update t' v).Holds (since (t' - window) (s ++ [(t', v)])) := by
  obtain ⟨start, hstart, hheld⟩ := h.held
  have hsorted : (since start s ++ [(t', v)]).Pairwise (·.1 ≤ ·.1) := by
    refine List.pairwise_append.mpr ⟨hs.sorted.filter _, List.pairwise_singleton _ _, ?_⟩
    intro p hp q hq
    rw [List.mem_singleton.mp hq]
    exact (hs.past p (List.mem_of_mem_filter hp)).trans ht
  have hsince : since (t' - window) (since start s ++ [(t', v)]) =
      since (t' - window) (s ++ [(t', v)]) := by
    have h := since_since (show start ≤ t' - window by linarith) s
    unfold since at h ⊢
    rw [List.filter_append, List.filter_append, h]
  have hnow := hheld.update t' v
  rwa [h.size, dropWhile_eq_since hsorted, hsince] at hnow

theorem Follows.updateNoValue : Follows window t' s (m.updateNoValue t') :=
  ⟨h.size, _, le_refl _, h.holds_updateNoValue hs ht⟩

theorem Follows.update (v : ℚ) : Follows window t' (s ++ [(t', v)]) (m.update t' v) :=
  ⟨h.size, _, le_refl _, h.holds_update hs ht v⟩

end Update

theorem follows_new (window t : ℚ) : Follows window t [] (new window) :=
  ⟨rfl, _, le_refl _, rfl, rfl⟩

theorem Holds.getAverage (h : m.Holds s) : m.getAverage = mean s := by
  simp [MovingAverageMonitor.getAverage, mean, h.2]

theorem Holds.getSum (h : m.Holds s) : m.getSum = (s.map Prod.snd).sum := by
  rw [MovingAverageMonitor.getSum, h.2]

/-! Clocks that may go backwards. -/

inductive Call where
  | update (timestamp value : ℚ)
  | updateNoValue (timestamp : ℚ)

def Call.timestamp : Call → ℚ
  | .update timestamp _ | .updateNoValue timestamp => timestamp

/-- What the call adds to the history. -/
def Call.points : Call → Series
  | .update timestamp value => [(timestamp, value)]
  | .updateNoValue _ => []

def Call.apply (m : MovingAverageMonitor) : Call → MovingAverageMonitor
  | .update timestamp value => m.update timestamp value
  | .updateNoValue timestamp => m.updateNoValue timestamp

def after (window : ℚ) (calls : List Call) : MovingAverageMonitor :=
  calls.foldl Call.apply (new window)

theorem after_concat (window : ℚ) (calls : List Call) (call : Call) :
    after window (calls ++ [call]) = call.apply (after window calls) := by
  simp [after]

theorem after_slidingWindowSize (window : ℚ) (calls : List Call) :
    (after window calls).slidingWindowSize = window := by
  induction calls using List.reverseRecOn with
  | nil => rfl
  | append_singleton calls call ih =>
    rw [after_concat]
    cases call <;> exact ih

theorem Holds.apply (h : m.Holds s) (call : Call) : (call.apply m).Holds
    ((s ++ call.points).dropWhile fun p => p.1 < call.timestamp - m.slidingWindowSize) := by
  cases call with
  | update t v => exact h.update t v
  | updateNoValue t =>
    rw [Call.points, List.append_nil]
    exact h.updateNoValue t

theorem Holds.length_eq (h : m.Holds s) : m.timestamps.length = m.values.length := by
  simp [h.1, h.2]

/-- With any clocks, the deques hold one common suffix of the history. Every point that was
dropped is older than the window before the time of some call, and the oldest point that is
kept is not older than the window before the last one. -/
theorem suffix_under_any_clock (window : ℚ) (calls : List Call) :
    ∃ dropped kept : Series, calls.flatMap Call.points = dropped ++ kept ∧
      (after window calls).Holds kept ∧
      (after window calls).timestamps.length = (after window calls).values.length ∧
      (∀ p ∈ dropped, ∃ call ∈ calls, p.1 < call.timestamp - window) ∧
      ∀ last ∈ calls.getLast?, ∀ oldest ∈ kept.head?, last.timestamp - window ≤ oldest.1 := by
  induction calls using List.reverseRecOn with
  | nil => exact ⟨[], [], rfl, ⟨rfl, rfl⟩, rfl, nofun, nofun⟩
  | append_singleton calls call ih =>
    obtain ⟨dropped, kept, hhistory, hheld, -, hdropped, -⟩ := ih
    have hnow := hheld.apply call
    rw [after_slidingWindowSize] at hnow
    rw [after_concat]
    refine ⟨dropped ++ (kept ++ call.points).takeWhile fun p => p.1 < call.timestamp - window, _, ?_,
      hnow, hnow.length_eq, ?_, ?_⟩
    · rw [List.append_assoc, List.takeWhile_append_dropWhile, List.flatMap_append, hhistory,
        List.flatMap_singleton, List.append_assoc]
    · intro p hp
      rcases List.mem_append.mp hp with hp | hp
      · obtain ⟨earlier, hearlier, hlt⟩ := hdropped p hp
        exact ⟨earlier, List.mem_append_left _ hearlier, hlt⟩
      · exact ⟨call, by simp, by simpa using List.mem_takeWhile_imp hp⟩
    · intro last hlast oldest holdest
      obtain rfl : call = last := by simpa using hlast
      have hfront := List.head?_dropWhile_not (fun p : ℚ × ℚ => p.1 < call.timestamp - window)
        (kept ++ call.points)
      rw [Option.mem_def.mp holdest] at hfront
      simpa using hfront

end MovingAverageMonitor

/-! What the calls record. -/

inductive Kind where
  | arrivals
  | firstTokens
  | latencies
  deriving DecidableEq

def Op.time : Op → ℚ
  | .newRequest _ _ t | .response _ t | .complete _ t | .fail _ t | .abort _ t | .swapped _ _ t
  | .requestStats t => t

def Op.isRead : Op → Bool
  | .requestStats _ => true
  | _ => false

/-- In order of time. -/
def Ordered (ops : List Op) : Prop := ops.Pairwise (·.time ≤ ·.time)

/-- The value that a call records for an engine. -/
def recorded (url : String) (r : Records) : Kind → Op → Option ℚ
  | .arrivals, .newRequest engineUrl _ _ => if url = engineUrl then some 1 else none
  | .firstTokens, .response handle t => (r.active.get? handle).bind fun request =>
    if request.stage = .prefill ∧ url = request.engineUrl then some (t - request.startTime)
    else none
  | .latencies, .complete handle t => (r.active.get? handle).bind fun request =>
    if url = request.engineUrl then some (t - request.startTime) else none
  | _, _ => none

def points (kind : Kind) (url : String) (r : Records) (op : Op) : Series :=
  ((recorded url r kind op).map (op.time, ·)).toList

/-- What a run records. -/
def history (kind : Kind) (url : String) (r : Records) : List Op → Series
  | [] => []
  | op :: ops => points kind url r op ++ history kind url (r.after op) ops

/-- The calls that are not reads. -/
def hooks (ops : List Op) : List Op := ops.filter fun op => !op.isRead

theorem history_hooks (kind : Kind) (url : String) (ops : List Op) (r : Records) :
    history kind url r (hooks ops) = history kind url r ops := by
  induction ops generalizing r with
  | nil => rfl
  | cons op ops ih =>
    cases hop : op.isRead with
    | false =>
      rw [hooks, List.filter_cons_of_pos (by rw [hop]; rfl), history, history, ← hooks, ih]
    | true =>
      rw [hooks, List.filter_cons_of_neg (by simp [hop]), ← hooks, ih, history]
      cases op with
      | requestStats t => cases kind <;> rfl
      | _ => cases hop

namespace RequestStatsMonitor

def windows (m : RequestStatsMonitor) : Kind → Dict String MovingAverageMonitor
  | .arrivals => m.qpsMonitors
  | .firstTokens => m.ttftMonitors
  | .latencies => m.latencyMonitors

/-- The monitor of an engine. A missing one is as good as an empty one. -/
def windowOf (m : RequestStatsMonitor) (kind : Kind) (url : String) : MovingAverageMonitor :=
  (m.windows kind).getD url (.new m.slidingWindowSize)

end RequestStatsMonitor

theorem getD_ensureMonitor (window : ℚ) :
    (ensureMonitor d key window).getD url (.new window) = d.getD url (.new window) := by
  unfold ensureMonitor
  split
  · rfl
  · next hkey =>
    rw [Dict.getD_set]
    by_cases hurl : url = key
    · rw [if_pos hurl, hurl, Dict.getD, (Dict.get?_eq_none_iff _ _).mpr hkey]
      rfl
    · rw [if_neg hurl]

theorem getD_updateMonitor (window t v : ℚ) :
    (updateMonitor d key window t v).getD url (.new window) =
      if url = key then (d.getD key (.new window)).update t v else d.getD url (.new window) := by
  rw [updateMonitor, Dict.getD_set, getD_ensureMonitor, getD_ensureMonitor]

variable {m : RequestStatsMonitor} {op : Op} {ops : List Op}

section Hooks

/-- A hook updates the monitors for which it records a value. -/
theorem windowOf_step (hm : Coherent m) (hop : op.isRead = false) (kind : Kind)
    (url : String) : (m.step op).2.windowOf kind url =
      (recorded url m.records kind op).elim (m.windowOf kind url)
        ((m.windowOf kind url).update op.time) := by
  have hdropped (handle : RequestHandle) (t : ℚ) :
      (m.finalizeRequest handle t false).2.windowOf kind url = m.windowOf kind url := by
    cases hfound : m.activeRequests.get? handle with
    | none => rw [finalizeRequest, hfound]
    | some request =>
      obtain ⟨_, _, _, -, hfinalize, -⟩ := finalizeRequest_eq hm t false hfound
      rw [hfinalize]
      cases kind <;> rfl
  cases op with
  | newRequest engineUrl requestId t =>
    cases kind with
    | arrivals =>
      refine (getD_updateMonitor _ _ _ _ _ _).trans ?_
      by_cases hurl : url = engineUrl
      · simp only [recorded, if_pos hurl]
        rw [← hurl]
        rfl
      · simp only [recorded, if_neg hurl]
        rfl
    | firstTokens => rfl
    | latencies => exact getD_ensureMonitor _ _ _ _
  | response handle t =>
    change (m.onRequestResponse handle t).windowOf kind url = _
    cases hfound : m.activeRequests.get? handle with
    | none =>
      rw [onRequestResponse, hfound]
      cases kind <;> simp [recorded, RequestStatsMonitor.records, hfound]
    | some request =>
      by_cases hstage : request.stage = .prefill
      · rw [onRequestResponse_eq hm t hfound hstage]
        cases kind with
        | arrivals => rfl
        | firstTokens =>
          refine (getD_updateMonitor _ _ _ _ _ _).trans ?_
          by_cases hurl : url = request.engineUrl
          · simp only [recorded, RequestStatsMonitor.records, hfound, Option.bind_some, hstage,
              hurl, and_self, if_true]
            rfl
          · simp only [recorded, RequestStatsMonitor.records, hfound, Option.bind_some, hurl,
              and_false, if_false]
            rfl
        | latencies => rfl
      · have hsame : m.onRequestResponse handle t = m := by
          simp only [onRequestResponse, hfound, hstage, ne_eq, not_false_eq_true, if_true]
        rw [hsame]
        cases kind <;> simp [recorded, RequestStatsMonitor.records, hfound, hstage]
  | complete handle t =>
    change (m.finalizeRequest handle t true).2.windowOf kind url = _
    cases hfound : m.activeRequests.get? handle with
    | none =>
      rw [finalizeRequest, hfound]
      cases kind <;> simp [recorded, RequestStatsMonitor.records, hfound]
    | some request =>
      obtain ⟨_, _, monitor, hmonitor, hfinalize, -⟩ := finalizeRequest_eq hm t true hfound
      rw [hfinalize]
      cases kind with
      | arrivals => rfl
      | firstTokens => rfl
      | latencies =>
        change (m.latencyMonitors.set _ _).getD url _ = _
        rw [Dict.getD_set]
        by_cases hurl : url = request.engineUrl
        · simp only [recorded, RequestStatsMonitor.records, hfound, Option.bind_some, hurl,
            if_true, windowOf, windows, Dict.getD, hmonitor]
          rfl
        · simp only [recorded, RequestStatsMonitor.records, hfound, Option.bind_some, hurl,
            if_false]
          rfl
  | fail handle t | abort handle t =>
    cases kind <;> exact hdropped handle t
  | swapped engineUrl requestId t => cases kind <;> rfl
  | requestStats t => cases hop

theorem mem_statsUrls (m : RequestStatsMonitor) (url : String) :
    url ∈ m.statsUrls ↔ url ∈ m.inPrefillRequests ∨ url ∈ m.inDecodingRequests := by
  rw [statsUrls, List.mem_append, List.mem_filter]
  rw [decide_eq_true_iff]
  tauto

/-- The engines that are listed and those that have a window for arrivals: an arrival
adds its engine to both. -/
theorem engines_step (hm : Coherent m) (hop : op.isRead = false) (url : String) :
    (url ∈ (m.step op).2.statsUrls ↔
      url ∈ m.statsUrls ∨ recorded url m.records .arrivals op ≠ none) ∧
    (url ∈ (m.step op).2.qpsMonitors ↔
      url ∈ m.qpsMonitors ∨ recorded url m.records .arrivals op ≠ none) := by
  have hnone {m' : RequestStatsMonitor} (h : (url ∈ m'.statsUrls ↔ url ∈ m.statsUrls) ∧
      (url ∈ m'.qpsMonitors ↔ url ∈ m.qpsMonitors)) :
      (url ∈ m'.statsUrls ↔ url ∈ m.statsUrls ∨ (none : Option ℚ) ≠ none) ∧
      (url ∈ m'.qpsMonitors ↔ url ∈ m.qpsMonitors ∨ (none : Option ℚ) ≠ none) := by
    simpa using h
  have hfinalize (handle : RequestHandle) (t : ℚ) (completed : Bool) :
      (url ∈ (m.finalizeRequest handle t completed).2.statsUrls ↔ url ∈ m.statsUrls) ∧
      (url ∈ (m.finalizeRequest handle t completed).2.qpsMonitors ↔ url ∈ m.qpsMonitors) := by
    cases hfound : m.activeRequests.get? handle with
    | none =>
      rw [finalizeRequest, hfound]
      exact ⟨Iff.rfl, Iff.rfl⟩
    | some request =>
      obtain ⟨_, _, _, -, heq, hprefill, hdecoding, -⟩ := finalizeRequest_eq hm t completed hfound
      rw [heq, mem_statsUrls, mem_statsUrls]
      exact ⟨or_congr (hprefill url) (hdecoding url), Iff.rfl⟩
  cases op with
  | newRequest engineUrl requestId t =>
    have hrecorded : recorded url m.records .arrivals (.newRequest engineUrl requestId t) ≠ none ↔
        url = engineUrl := by
      by_cases hurl : url = engineUrl
      · simp [recorded, hurl]
      · simp [recorded, hurl]
    rw [mem_statsUrls, mem_statsUrls, hrecorded]
    change (url ∈ m.inPrefillRequests.set _ _ ∨ url ∈ m.inDecodingRequests ↔ _) ∧
      (url ∈ (ensureMonitor _ _ _).set _ _ ↔ _)
    rw [Dict.mem_set, Dict.mem_set, mem_ensureMonitor]
    constructor
    · tauto
    · tauto
  | response handle t =>
    refine hnone ?_
    change (url ∈ (m.onRequestResponse handle t).statsUrls ↔ _) ∧
      (url ∈ (m.onRequestResponse handle t).qpsMonitors ↔ _)
    cases hfound : m.activeRequests.get? handle with
    | none =>
      rw [onRequestResponse, hfound]
      exact ⟨Iff.rfl, Iff.rfl⟩
    | some request =>
      by_cases hstage : request.stage = .prefill
      · have hpos := hm.counted_pos hfound
        rw [hstage] at hpos
        rw [onRequestResponse_eq hm t hfound hstage, mem_statsUrls, mem_statsUrls]
        refine ⟨?_, Iff.rfl⟩
        change url ∈ addTo _ _ _ ∨ url ∈ Dict.set _ _ _ ↔ _
        have hknown : request.engineUrl ∈ m.inPrefillRequests :=
          (mem_addTo hpos 0 _).mp ((Dict.mem_set _ _ _ _).mpr (.inl rfl))
        rw [mem_addTo hpos, Dict.mem_set]
        constructor
        · rintro (h | rfl | h)
          · exact .inl h
          · exact .inl hknown
          · exact .inr h
        · exact Or.imp_right .inr
      · have hsame : m.onRequestResponse handle t = m := by
          simp only [onRequestResponse, hfound, hstage, ne_eq, not_false_eq_true, if_true]
        rw [hsame]
        exact ⟨Iff.rfl, Iff.rfl⟩
  | complete handle t => exact hnone (hfinalize handle t true)
  | fail handle t | abort handle t => exact hnone (hfinalize handle t false)
  | swapped engineUrl requestId t => exact hnone ⟨Iff.rfl, Iff.rfl⟩
  | requestStats t => cases hop

end Hooks

/-! Runs. -/

/-- The points that were in the window at the time of the last one. -/
def recent (window : ℚ) (s : Series) : Series :=
  match s.getLast? with
  | some last => since (last.1 - window) s
  | none => []

/-- The histories up to `t`, and the monitors that follow them. The windows for latencies
are only trimmed when a request completes. -/
structure Tracked (window t : ℚ) (hist : Kind → String → Series) (m : RequestStatsMonitor) :
    Prop where
  coherent : Coherent m
  size : m.slidingWindowSize = window
  past : ∀ kind url, Until t (hist kind url)
  follows : ∀ kind url, (m.windowOf kind url).Follows window t (hist kind url)
  latencies : ∀ url, (m.windowOf .latencies url).Holds (recent window (hist .latencies url))
  listed : ∀ url, url ∈ m.statsUrls ↔ hist .arrivals url ≠ []
  known : ∀ url, url ∈ m.qpsMonitors ↔ hist .arrivals url ≠ []
  ones : ∀ url, ∀ p ∈ hist .arrivals url, p.2 = 1

section Runs

variable {t t' : ℚ} {hist : Kind → String → Series}

theorem tracked_init (window t : ℚ) : Tracked window t (fun _ _ => []) (init window) where
  coherent := coherent_init window
  size := rfl
  past _ _ := ⟨List.Pairwise.nil, by simp⟩
  follows kind _ := by cases kind <;> exact MovingAverageMonitor.follows_new window t
  latencies _ := ⟨rfl, rfl⟩
  listed _ := by simp [statsUrls, init, Dict.keys, Dict.empty]
  known _ := by simp [init, Dict.mem_iff_get?]
  ones _ := by simp

theorem Tracked.later (h : Tracked window t hist m) (ht : t ≤ t') : Tracked window t' hist m :=
  { h with
    past := fun kind url => (h.past kind url).later ht
    follows := fun kind url => (h.follows kind url).later ht }

theorem Tracked.hook (h : Tracked window t hist m) (hop : op.isRead = false) (ht : t ≤ op.time) :
    Tracked window op.time (fun kind url => hist kind url ++ points kind url m.records op)
      (m.step op).2 where
  coherent := coherent_step h.coherent op
  size := (window_step m op).trans h.size
  past kind url := by
    apply (h.past kind url).append ht
    · unfold points
      cases recorded url m.records kind op with
      | none => exact List.Pairwise.nil
      | some v => exact List.pairwise_singleton _ _
    · intro p hp
      obtain ⟨v, -, rfl⟩ := Option.map_eq_some_iff.mp (Option.mem_toList.mp hp)
      rfl
  follows kind url := by
    rw [windowOf_step h.coherent hop, points]
    cases recorded url m.records kind op with
    | none =>
      rw [Option.map_none, Option.toList_none, List.append_nil]
      exact (h.follows kind url).later ht
    | some v => exact (h.follows kind url).update (h.past kind url) ht v
  latencies url := by
    rw [windowOf_step h.coherent hop, points]
    cases recorded url m.records .latencies op with
    | none =>
      rw [Option.map_none, Option.toList_none, List.append_nil]
      exact h.latencies url
    | some v =>
      have hholds := (h.follows .latencies url).holds_update (h.past .latencies url) ht v
      simpa [recent] using hholds
  listed url := by
    rw [(engines_step h.coherent hop url).1, h.listed, points]
    cases recorded url m.records .arrivals op <;> simp
  known url := by
    rw [(engines_step h.coherent hop url).2, h.known, points]
    cases recorded url m.records .arrivals op <;> simp
  ones url p hp := by
    rcases List.mem_append.mp hp with hp | hp
    · exact h.ones url p hp
    · obtain ⟨v, hv, rfl⟩ := Option.map_eq_some_iff.mp (Option.mem_toList.mp hp)
      cases op with
      | newRequest engineUrl requestId t =>
        simp only [recorded, Option.ite_none_right_eq_some, Option.some.injEq] at hv
        exact hv.2.symm
      | _ => cases hv

/-! Reads. -/

def expire (d : Dict String MovingAverageMonitor) (t : ℚ) (url : String) :
    Dict String MovingAverageMonitor :=
  match d.get? url with
  | none => d
  | some monitor => d.set url (monitor.updateNoValue t)

/-- The monitor after an engine was read. -/
def expired (m : RequestStatsMonitor) (t : ℚ) (url : String) : RequestStatsMonitor :=
  { m with
    qpsMonitors := expire m.qpsMonitors t url
    ttftMonitors := expire m.ttftMonitors t url }

theorem mem_expire (t : ℚ) (url key : String) : key ∈ expire d t url ↔ key ∈ d := by
  unfold expire
  cases hurl : d.get? url with
  | none => rfl
  | some monitor =>
    rw [Dict.mem_set]
    constructor
    · rintro (rfl | hkey)
      · exact (Dict.mem_iff_get? _ _).mpr ⟨monitor, hurl⟩
      · exact hkey
    · exact Or.inr

theorem getD_expire (t window : ℚ) (url key : String) : (expire d t url).getD key (.new window) =
      if key = url then (d.getD key (.new window)).updateNoValue t
      else d.getD key (.new window) := by
  unfold expire
  by_cases hkey : key = url
  · subst hkey
    cases hurl : d.get? key with
    | none => simp [Dict.getD, hurl, MovingAverageMonitor.updateNoValue, MovingAverageMonitor.new,
        MovingAverageMonitor.trim]
    | some monitor => simp [Dict.getD, hurl]
  · cases hurl : d.get? url with
    | none => simp [hkey]
    | some monitor => simp [Dict.getD_set, hkey]

theorem windowOf_expired (m : RequestStatsMonitor) (t : ℚ) (url : String) (kind : Kind)
    (key : String) : (expired m t url).windowOf kind key =
      if kind ≠ .latencies ∧ key = url then (m.windowOf kind key).updateNoValue t
      else m.windowOf kind key := by
  cases kind with
  | arrivals =>
    refine (getD_expire m.qpsMonitors t m.slidingWindowSize url key).trans ?_
    simp [windowOf, windows]
  | firstTokens =>
    refine (getD_expire m.ttftMonitors t m.slidingWindowSize url key).trans ?_
    simp [windowOf, windows]
  | latencies => rfl

theorem engineRequestStats_eq (hwindow : m.slidingWindowSize ≠ 0) {url : String}
    (hknown : url ∈ m.qpsMonitors) (t : ℚ) :
    m.engineRequestStats t url = (.ok ((expired m t url).readRequestStats t url
      (((expired m t url).windowOf .arrivals url).getSum / m.slidingWindowSize)),
      expired m t url) := by
  have hqps : m.expireQps t url = { m with qpsMonitors := expire m.qpsMonitors t url } := by
    unfold expireQps expire
    cases m.qpsMonitors.get? url with
    | none => rfl
    | some monitor => rfl
  have httft : RequestStatsMonitor.expireTtft { m with qpsMonitors := expire m.qpsMonitors t url }
      t url = expired m t url := by
    unfold expireTtft expired
    rw [expire.eq_def m.ttftMonitors]
    cases m.ttftMonitors.get? url with
    | none => rfl
    | some monitor => rfl
  obtain ⟨monitor, hmonitor⟩ := (Dict.mem_iff_get? _ _).mp ((mem_expire _ t url _).mpr hknown)
  have hvalue : RequestStatsMonitor.engineQps { m with qpsMonitors := expire m.qpsMonitors t url }
      url = .ok (((expired m t url).windowOf .arrivals url).getSum / m.slidingWindowSize) := by
    simp only [engineQps, hmonitor, if_neg hwindow]
    simp only [expired, windowOf, windows, Dict.getD, hmonitor, Option.getD_some]
  simp only [engineRequestStats, hqps, hvalue, httft]

theorem Tracked.expired (h : Tracked window t hist m) (url : String) :
    Tracked window t hist (expired m t url) where
  coherent :=
    have hkeeps : Keeps m (Stats.expired m t url) := ⟨rfl, rfl, rfl, rfl, rfl, rfl, rfl, rfl, rfl⟩
    hkeeps.coherent h.coherent
  size := h.size
  past := h.past
  follows kind key := by
    rw [windowOf_expired]
    split
    · exact (h.follows kind key).updateNoValue (h.past kind key) (le_refl t)
    · exact h.follows kind key
  latencies := h.latencies
  listed := h.listed
  known key := (mem_expire _ t url key).trans (h.known key)
  ones := h.ones

/-- What is reported of an engine. -/
structure Reports (window t : ℚ) (hist : Kind → String → Series) (url : String)
    (stats : RequestStats) : Prop where
  qps : stats.qps = (windowed window t (hist .arrivals url)).length / window
  ttft : stats.ttft = mean (windowed window t (hist .firstTokens url))
  avgLatency : stats.avgLatency = mean (recent window (hist .latencies url))

theorem averageOf_eq (m : RequestStatsMonitor) (kind : Kind) (url : String) :
    averageOf (m.windows kind) url = (m.windowOf kind url).getAverage := by
  rw [averageOf, windowOf, Dict.getD]
  cases (m.windows kind).get? url with
  | none => rfl
  | some monitor => rfl

theorem sum_of_ones (h : ∀ p ∈ s, p.2 = 1) : (s.map Prod.snd).sum = s.length := by
  have hones : s.map Prod.snd = List.replicate s.length 1 :=
    List.map_eq_replicate_iff.mpr h
  rw [hones]
  simp

theorem Tracked.reports (h : Tracked window t hist m) (url : String) :
    Reports window t hist url ((Stats.expired m t url).readRequestStats t url
      (((Stats.expired m t url).windowOf .arrivals url).getSum / m.slidingWindowSize)) := by
  have hholds (kind : Kind) (hkind : kind ≠ .latencies) :
      ((Stats.expired m t url).windowOf kind url).Holds (windowed window t (hist kind url)) := by
    rw [windowOf_expired, if_pos ⟨hkind, rfl⟩, windowed_eq_since (h.past kind url)]
    exact (h.follows kind url).holds_updateNoValue (h.past kind url) (le_refl t)
  have hones : ∀ p ∈ windowed window t (hist .arrivals url), p.2 = 1 :=
    fun p hp => h.ones url p (List.mem_of_mem_filter hp)
  constructor
  · change _ / _ = _
    rw [(hholds .arrivals nofun).getSum, h.size, sum_of_ones hones]
  · exact (averageOf_eq _ .firstTokens url).trans (hholds .firstTokens nofun).getAverage
  · exact (averageOf_eq _ .latencies url).trans ((h.expired url).latencies url).getAverage

variable (hwindow : window ≠ 0)

include hwindow

theorem Tracked.collect (urls : List String) (hurls : ∀ url ∈ urls, hist .arrivals url ≠ [])
    (ret : Dict String RequestStats) (h : Tracked window t hist m) : ∃ stats m',
      collectRequestStats t urls m ret = (.ok stats, m') ∧ Tracked window t hist m' ∧
      ∀ url, (url ∈ urls → ∃ s, stats.get? url = some s ∧ Reports window t hist url s) ∧
        (url ∉ urls → stats.get? url = ret.get? url) := by
  induction urls generalizing m ret with
  | nil => exact ⟨ret, m, rfl, h, fun url => ⟨by simp, fun _ => rfl⟩⟩
  | cons first rest ih =>
    obtain ⟨hfirst, hrest⟩ := List.forall_mem_cons.mp hurls
    have hread := engineRequestStats_eq (h.size ▸ hwindow) ((h.known first).mpr hfirst) t
    obtain ⟨stats, m', hcollect, h', hstats⟩ := ih hrest (ret.set first _) (h.expired first)
    refine ⟨stats, m', ?_, h', ?_⟩
    · rw [collectRequestStats, hread]
      exact hcollect
    · intro url
      obtain ⟨hin, hout⟩ := hstats url
      by_cases hurl : url ∈ rest
      · exact ⟨fun _ => hin hurl, fun hnot => absurd (List.mem_cons_of_mem _ hurl) hnot⟩
      · refine ⟨?_, ?_⟩
        · intro hmem
          obtain rfl := (List.mem_cons.mp hmem).resolve_right hurl
          exact ⟨_, (hout hurl).trans (Dict.get?_set_self _ _ _), h.reports url⟩
        · intro hnot
          rw [hout hurl, Dict.get?_set_of_ne _ _ (List.ne_of_not_mem_cons hnot)]

/-- A read reports every engine that has had a request, and the monitor goes on. -/
theorem Tracked.read (h : Tracked window t hist m) :
    ∃ stats m', m.step (.requestStats t) = (.stats stats, m') ∧ Tracked window t hist m' ∧
      ∀ url, (hist .arrivals url ≠ [] →
          ∃ s, stats.get? url = some s ∧ Reports window t hist url s) ∧
        (hist .arrivals url = [] → stats.get? url = none) := by
  obtain ⟨stats, m', hcollect, h', hstats⟩ :=
    h.collect hwindow m.statsUrls (fun url hurl => (h.listed url).mp hurl) .empty
  refine ⟨stats, m', ?_, h', ?_⟩
  · rw [step, getRequestStats, hcollect]
  · intro url
    obtain ⟨hin, hout⟩ := hstats url
    exact ⟨fun hne => hin ((h.listed url).mpr hne),
      fun hnone => hout fun hurl => (h.listed url).mp hurl hnone⟩

theorem Tracked.step (h : Tracked window t hist m) (ht : t ≤ op.time) :
    Tracked window op.time (fun kind url => hist kind url ++ points kind url m.records op)
      (m.step op).2 := by
  cases hop : op.isRead with
  | false => exact h.hook hop ht
  | true =>
    cases op with
    | requestStats now =>
      change t ≤ now at ht
      obtain ⟨stats, m', hread, h', -⟩ := (h.later ht).read hwindow
      have hnothing : (fun kind url => hist kind url ++
          points kind url m.records (.requestStats now)) = hist := by
        funext kind url
        cases kind <;> exact List.append_nil _
      rw [hread, hnothing]
      exact h'
    | _ => cases hop

theorem Tracked.run (h : Tracked window t hist m) (hordered : Ordered ops)
    (hlater : ∀ op ∈ ops, t ≤ op.time) (ht : t ≤ now) (hnow : ∀ op ∈ ops, op.time ≤ now) :
    Tracked window now (fun kind url => hist kind url ++ history kind url m.records ops)
      (m.run ops) := by
  induction ops generalizing m hist t with
  | nil =>
    simp only [history, List.append_nil]
    exact h.later ht
  | cons op ops ih =>
    obtain ⟨hop, hops⟩ := List.pairwise_cons.mp hordered
    obtain ⟨hfirst, -⟩ := List.forall_mem_cons.mp hlater
    obtain ⟨hnow, hrest⟩ := List.forall_mem_cons.mp hnow
    have hrun := ih (h.step hwindow hfirst) hops hop hnow hrest
    simp only [List.append_assoc, records_step h.coherent op] at hrun
    exact hrun

end Runs

def Records.none : Records := ⟨0, .empty⟩

/-- What a run from the start records for an engine. -/
def recordedBy (ops : List Op) (kind : Kind) (url : String) : Series :=
  history kind url .none ops

theorem tracked_run (hwindow : window ≠ 0) (hordered : Ordered (ops ++ [.requestStats now])) :
    Tracked window now (recordedBy ops) ((init window).run ops) := by
  obtain ⟨hops, -, hnow⟩ := List.pairwise_append.mp hordered
  have hnow : ∀ op ∈ ops, op.time ≤ now := fun op hop => hnow op hop _ List.mem_cons_self
  cases ops with
  | nil => exact tracked_init window now
  | cons op ops =>
    have hlater : ∀ other ∈ op :: ops, op.time ≤ other.time :=
      List.forall_mem_cons.mpr ⟨le_refl _, (List.pairwise_cons.mp hops).1⟩
    exact (tracked_init window op.time).run hwindow hops hlater (hnow op List.mem_cons_self) hnow

/-- At every read of every run, whatever was read before, the rate of an engine is the
number of its arrivals in the window over the window, and its time to first token is the
mean over those in the window. Engines without requests are not reported. -/
theorem windows_report (hwindow : 0 < window) (ops : List Op) (now : ℚ)
    (hordered : Ordered (ops ++ [.requestStats now])) :
    ∃ stats, (((init window).run ops).step (.requestStats now)).1 = .stats stats ∧
      ∀ url, (stats.get? url).map (fun s => (s.qps, s.ttft)) =
        if recordedBy (hooks ops) .arrivals url = [] then none
        else some ((windowed window now (recordedBy (hooks ops) .arrivals url)).length / window,
          mean (windowed window now (recordedBy (hooks ops) .firstTokens url))) := by
  obtain ⟨stats, m', hread, -, hstats⟩ :=
    (tracked_run hwindow.ne' hordered).read hwindow.ne'
  refine ⟨stats, by rw [hread], ?_⟩
  intro url
  simp only [recordedBy, history_hooks]
  obtain ⟨hin, hout⟩ := hstats url
  split
  · next hnone => rw [hout hnone, Option.map_none]
  · next hne =>
    obtain ⟨s, hs, hreports⟩ := hin hne
    rw [hs, Option.map_some, hreports.qps, hreports.ttft]
    rfl

theorem windows_report_one : ∃ stats,
    (((init 10).run [.newRequest "a" "r" 0, .response ⟨0⟩ 1]).step (.requestStats 5)).1 =
        .stats stats ∧
      (stats.get? "a").map (fun s => (s.qps, s.ttft)) = some (1 / 10, 1) := by
  have hordered : Ordered ([.newRequest "a" "r" 0, .response ⟨0⟩ 1] ++ [.requestStats 5]) := by
    norm_num [Ordered, Op.time]
  obtain ⟨stats, hread, hstats⟩ := windows_report (show (0 : ℚ) < 10 by norm_num) _ 5 hordered
  exact ⟨stats, hread, (hstats "a").trans (by decide +kernel)⟩

/-! Latencies. -/

/-- The points that were in the window at the time of the last one and are not now. -/
def stale (window now : ℚ) (s : Series) : Series :=
  (recent window s).filter fun p => p.1 < now - window

theorem mean_perm (h : s.Perm s') : mean s = mean s' := by
  rw [mean, mean, h.isEmpty_eq, h.length_eq, (h.map _).sum_eq]

theorem mean_append_iff (s s' : Series) : mean (s ++ s') = mean s' ↔ s = [] ∨ mean s = mean s' := by
  by_cases hs : s = []
  · simp [hs]
  by_cases hs' : s' = []
  · simp [hs, hs']
  have hlength (s : Series) (h : s ≠ []) : (0 : ℚ) < s.length :=
    Nat.cast_pos.mpr (List.length_pos_iff.mpr h)
  have hpos := hlength s hs
  have hpos' := hlength s' hs'
  have hmean (s : Series) (h : s ≠ []) : mean s = (s.map Prod.snd).sum / s.length := by
    rw [mean, if_neg (by simpa using h)]
  rw [or_iff_right hs, hmean _ hs, hmean _ hs', hmean _ (by simp [hs]), List.map_append,
    List.sum_append, List.length_append, Nat.cast_add, div_eq_div_iff (by linarith) hpos'.ne',
    div_eq_div_iff hpos.ne' hpos'.ne']
  constructor
  · intro h
    linarith
  · intro h
    linarith

theorem recent_perm (h : Until now s) :
    (stale window now s ++ windowed window now s).Perm (recent window s) := by
  have hwindowed : windowed window now s =
      (recent window s).filter fun p => !decide (p.1 < now - window) := by
    rw [windowed_eq_since h, recent]
    cases hlast : s.getLast? with
    | none => simp [List.getLast?_eq_none_iff.mp hlast, since]
    | some last =>
      have hle := h.past last (List.mem_of_getLast? hlast)
      rw [← since_since (show last.1 - window ≤ now - window by linarith), since]
      refine List.filter_congr fun p _ => ?_
      rw [← decide_not, decide_eq_decide, not_lt]
  rw [stale, hwindowed]
  exact List.filter_append_perm _ _

/-- The average latency is the one over the window exactly when nothing that left the
window is still held, or it makes no difference to the mean. -/
theorem latency_window_iff (hwindow : 0 < window) (ops : List Op) (now : ℚ)
    (hordered : Ordered (ops ++ [.requestStats now])) :
    ∃ stats, (((init window).run ops).step (.requestStats now)).1 = .stats stats ∧
      ∀ url s, stats.get? url = some s →
        (s.avgLatency = mean (windowed window now (recordedBy ops .latencies url)) ↔
          stale window now (recordedBy ops .latencies url) = [] ∨
          mean (stale window now (recordedBy ops .latencies url)) =
            mean (windowed window now (recordedBy ops .latencies url))) := by
  have htracked := tracked_run hwindow.ne' hordered
  obtain ⟨stats, m', hread, -, hstats⟩ := htracked.read hwindow.ne'
  refine ⟨stats, by rw [hread], ?_⟩
  intro url s hs
  obtain ⟨hin, hout⟩ := hstats url
  by_cases hnone : recordedBy ops .arrivals url = []
  · rw [hout hnone] at hs
    cases hs
  · obtain ⟨s', hs', hreports⟩ := hin hnone
    obtain rfl := Option.some.inj (hs.symm.trans hs')
    rw [hreports.avgLatency, ← mean_perm (recent_perm (htracked.past .latencies url))]
    exact mean_append_iff _ _

theorem latency_window_one : ∃ stats,
    (((init 10).run [.newRequest "a" "r" 0, .complete ⟨0⟩ 1]).step (.requestStats 5)).1 =
        .stats stats ∧
      ∀ s, stats.get? "a" = some s → s.avgLatency = 1 := by
  have hordered : Ordered ([.newRequest "a" "r" 0, .complete ⟨0⟩ 1] ++ [.requestStats 5]) := by
    norm_num [Ordered, Op.time]
  obtain ⟨stats, hread, hstats⟩ := latency_window_iff (show (0 : ℚ) < 10 by norm_num) _ 5 hordered
  refine ⟨stats, hread, ?_⟩
  intro s hs
  exact ((hstats "a" s hs).mpr (.inl (by decide +kernel))).trans (by decide +kernel)

/-- A request that completed long ago is still reported. -/
theorem latency_reported_late : ∃ stats,
    (((init 10).run [.newRequest "a" "r" 0, .complete ⟨0⟩ 1]).step (.requestStats 100)).1 =
        .stats stats ∧
      (stats.get? "a").map (·.avgLatency) = some 1 ∧
      windowed 10 100 (recordedBy [.newRequest "a" "r" 0, .complete ⟨0⟩ 1] .latencies "a") = [] :=
  ⟨_, rfl, by decide +kernel, by decide +kernel⟩

end ProductionStack.Stats

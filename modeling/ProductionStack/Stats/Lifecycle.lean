import ProductionStack.Stats.RequestStats

/-!
Runs of the monitor. Callers may pass any handle in any order: unknown,
repeated, or already retired. `Coherent` is the invariant that ties the five
dictionaries together. `step_effect` says once what a hook can do to a coherent
monitor; every other fact about runs is read off from it.
-/

namespace ProductionStack.Stats

open Lib

inductive Op where
  | newRequest (engineUrl requestId : String) (timestamp : ℚ)
  | response (handle : RequestHandle) (timestamp : ℚ)
  | complete (handle : RequestHandle) (timestamp : ℚ)
  | fail (handle : RequestHandle) (timestamp : ℚ)
  | abort (handle : RequestHandle) (timestamp : ℚ)
  | swapped (engineUrl requestId : String) (timestamp : ℚ)
  | requestStats (currentTime : ℚ)

inductive Reply where
  | issued (handle : RequestHandle)
  | none
  | stats (stats : Dict String RequestStats)
  | raised (error : MonitorError)

def Reply.ofResult : Except MonitorError Unit → Reply
  | .ok () => .none
  | .error e => .raised e

def Reply.handles : Reply → List RequestHandle
  | .issued handle => [handle]
  | _ => []

namespace RequestStatsMonitor

def step (m : RequestStatsMonitor) : Op → Reply × RequestStatsMonitor
  | .newRequest engineUrl requestId t =>
    let (handle, m) := m.onNewRequest engineUrl requestId t
    (.issued handle, m)
  | .response handle t => (.none, m.onRequestResponse handle t)
  | .complete handle t =>
    let (result, m) := m.onRequestComplete handle t
    (.ofResult result, m)
  | .fail handle t =>
    let (result, m) := m.onRequestFail handle t
    (.ofResult result, m)
  | .abort handle t =>
    let (result, m) := m.onRequestAbort handle t
    (.ofResult result, m)
  | .swapped engineUrl requestId t => (.none, m.onRequestSwapped engineUrl requestId t)
  | .requestStats t =>
    match m.getRequestStats t with
    | (.ok stats, m) => (.stats stats, m)
    | (.error e, m) => (.raised e, m)

def run (m : RequestStatsMonitor) : List Op → RequestStatsMonitor
  | [] => m
  | op :: ops => (m.step op).2.run ops

/-- The handles that `on_new_request` returned along a run, in order. -/
def returnedHandles (m : RequestStatsMonitor) : List Op → List RequestHandle
  | [] => []
  | op :: ops => (m.step op).1.handles ++ (m.step op).2.returnedHandles ops

/-- The handle of `url` that a call retires through `on_request_fail` or
`on_request_abort`: the hook finds the handle active. -/
def droppedBy (m : RequestStatsMonitor) (url : String) : Op → List RequestHandle
  | .fail handle _ | .abort handle _ =>
    match m.activeRequests.get? handle with
    | some request => if url = request.engineUrl then [handle] else []
    | none => []
  | _ => []

def droppedHandles (m : RequestStatsMonitor) (url : String) : List Op → List RequestHandle
  | [] => []
  | op :: ops => m.droppedBy url op ++ (m.step op).2.droppedHandles url ops

/-- The active records of one engine in one stage. -/
def stageCount (m : RequestStatsMonitor) (stage : Stage) (url : String) : Nat :=
  m.activeRequests.count (fun entry => stage = entry.2.stage && url = entry.2.engineUrl)

end RequestStatsMonitor

/-- How many of the calls are `on_new_request` for `url`. -/
def newRequestCalls (url : String) (ops : List Op) : Nat :=
  ops.countP (fun
    | .newRequest engineUrl _ _ => engineUrl = url
    | _ => false)

open RequestStatsMonitor

structure Coherent (m : RequestStatsMonitor) : Prop where
  prefillCount : ∀ url, m.inPrefillRequests.getD url 0 = m.stageCount .prefill url
  decodingCount : ∀ url, m.inDecodingRequests.getD url 0 = m.stageCount .decoding url
  startKeys : ∀ handle, handle ∈ m.requestStartTime ↔ handle ∈ m.activeRequests
  firstTokenKeys : ∀ handle, handle ∈ m.firstTokenTime ↔
    ∃ request, m.activeRequests.get? handle = some request ∧ request.stage = .decoding
  handlesBelow : ∀ handle ∈ m.activeRequests, handle.value < m.nextHandle
  latencyKnown : ∀ handle request, m.activeRequests.get? handle = some request →
    request.engineUrl ∈ m.latencyMonitors
  quiet : m.errorLog = []

theorem coherent_init (window : ℚ) : Coherent (init window) where
  prefillCount _ := rfl
  decodingCount _ := rfl
  startKeys _ := Iff.rfl
  firstTokenKeys handle := by
    rw [Dict.mem_iff_get?]
    simp [init]
  handlesBelow handle member := by
    rw [Dict.mem_iff_get?] at member
    simp [init] at member
  latencyKnown handle request h := by simp [init] at h
  quiet := rfl

/-- What a hook does to the lifecycle fields of the monitor. -/
inductive Effect where
  | keep
  | enter (handle : RequestHandle) (request : ActiveRequest)
  | advance (handle : RequestHandle) (request : ActiveRequest) (timestamp : ℚ)
  | retire (handle : RequestHandle) (request : ActiveRequest) (completed : Bool)

/-- The engine's counter of one stage, missing keys counting as zero. -/
def counted (m : RequestStatsMonitor) (stage : Stage) (url : String) : Int :=
  match stage with
  | .prefill => m.inPrefillRequests.getD url 0
  | .decoding => m.inDecodingRequests.getD url 0

/-- The lifecycle fields that only an admission, an advance or a retirement
touches are the same in both monitors. -/
structure Keeps (m m' : RequestStatsMonitor) : Prop where
  next : m'.nextHandle = m.nextHandle
  active : m'.activeRequests = m.activeRequests
  starts : m'.requestStartTime = m.requestStartTime
  firsts : m'.firstTokenTime = m.firstTokenTime
  prefill : m'.inPrefillRequests = m.inPrefillRequests
  decoding : m'.inDecodingRequests = m.inDecodingRequests
  finished : m'.finishedRequests = m.finishedRequests
  latency : m'.latencyMonitors = m.latencyMonitors
  log : m'.errorLog = m.errorLog

structure Admits (m : RequestStatsMonitor) (handle : RequestHandle)
    (request : ActiveRequest) (m' : RequestStatsMonitor) : Prop where
  fresh : handle = ⟨m.nextHandle⟩
  stage : request.stage = .prefill
  next : m'.nextHandle = m.nextHandle + 1
  active : m'.activeRequests = m.activeRequests.set handle request
  starts : m'.requestStartTime = m.requestStartTime.set handle request.startTime
  firsts : m'.firstTokenTime = m.firstTokenTime
  prefill : m'.inPrefillRequests = addTo m.inPrefillRequests request.engineUrl 1
  decoding : m'.inDecodingRequests = m.inDecodingRequests
  finished : m'.finishedRequests = m.finishedRequests
  latency : ∀ url, url ∈ m'.latencyMonitors ↔ url ∈ m.latencyMonitors ∨ url = request.engineUrl
  log : m'.errorLog = m.errorLog

structure Advances (m : RequestStatsMonitor) (handle : RequestHandle)
    (request : ActiveRequest) (timestamp : ℚ) (m' : RequestStatsMonitor) : Prop where
  found : m.activeRequests.get? handle = some request
  stage : request.stage = .prefill
  next : m'.nextHandle = m.nextHandle
  active : m'.activeRequests = m.activeRequests.set handle
    { request with stage := .decoding, firstTokenTime := some timestamp }
  starts : m'.requestStartTime = m.requestStartTime
  firsts : m'.firstTokenTime = m.firstTokenTime.set handle timestamp
  prefill : m'.inPrefillRequests = addTo m.inPrefillRequests request.engineUrl (-1)
  decoding : m'.inDecodingRequests = addTo m.inDecodingRequests request.engineUrl 1
  finished : m'.finishedRequests = m.finishedRequests
  latency : m'.latencyMonitors = m.latencyMonitors
  log : m'.errorLog = m.errorLog

structure Retires (m : RequestStatsMonitor) (handle : RequestHandle)
    (request : ActiveRequest) (completed : Bool) (m' : RequestStatsMonitor) : Prop where
  found : m.activeRequests.get? handle = some request
  next : m'.nextHandle = m.nextHandle
  active : m'.activeRequests = m.activeRequests.erase handle
  starts : m'.requestStartTime = m.requestStartTime.erase handle
  firsts : m'.firstTokenTime = m.firstTokenTime.erase handle
  released : ∀ stage url, counted m' stage url = counted m stage url -
    if stage = request.stage ∧ url = request.engineUrl then 1 else 0
  finished : m'.finishedRequests =
    if completed then addTo m.finishedRequests request.engineUrl 1 else m.finishedRequests
  latency : ∀ url, url ∈ m'.latencyMonitors ↔ url ∈ m.latencyMonitors
  log : m'.errorLog = m.errorLog

def Effect.Applies (m m' : RequestStatsMonitor) : Effect → Prop
  | .keep => Keeps m m'
  | .enter handle request => Admits m handle request m'
  | .advance handle request timestamp => Advances m handle request timestamp m'
  | .retire handle request completed => Retires m handle request completed m'

/-- The effect of a call, read off from the active records alone. -/
def effectOf (m : RequestStatsMonitor) : Op → Effect
  | .newRequest engineUrl requestId t =>
    .enter ⟨m.nextHandle⟩ ⟨.prefill, engineUrl, requestId, t, none⟩
  | .response handle t =>
    match m.activeRequests.get? handle with
    | some request => if request.stage = .prefill then .advance handle request t else .keep
    | none => .keep
  | .complete handle _ =>
    match m.activeRequests.get? handle with
    | some request => .retire handle request true
    | none => .keep
  | .fail handle _ | .abort handle _ =>
    match m.activeRequests.get? handle with
    | some request => .retire handle request false
    | none => .keep
  | .swapped _ _ _ | .requestStats _ => .keep

theorem Keeps.refl (m : RequestStatsMonitor) : Keeps m m :=
  ⟨rfl, rfl, rfl, rfl, rfl, rfl, rfl, rfl, rfl⟩

theorem Keeps.trans {a b c : RequestStatsMonitor} (h : Keeps a b) (h' : Keeps b c) : Keeps a c where
  next := h'.next.trans h.next
  active := h'.active.trans h.active
  starts := h'.starts.trans h.starts
  firsts := h'.firsts.trans h.firsts
  prefill := h'.prefill.trans h.prefill
  decoding := h'.decoding.trans h.decoding
  finished := h'.finished.trans h.finished
  latency := h'.latency.trans h.latency
  log := h'.log.trans h.log

section Reading

variable (m : RequestStatsMonitor) (t : ℚ) (url : String)

theorem keeps_expireQps : Keeps m (m.expireQps t url) := by
  unfold expireQps
  split
  · exact Keeps.refl m
  · constructor <;> rfl

theorem keeps_expireTtft : Keeps m (m.expireTtft t url) := by
  unfold expireTtft
  split
  · exact Keeps.refl m
  · constructor <;> rfl

/-- A snapshot only expires sliding windows. -/
theorem keeps_engineRequestStats : Keeps m (m.engineRequestStats t url).2 := by
  have hqps := keeps_expireQps m t url
  unfold engineRequestStats
  dsimp only
  split
  · exact hqps
  · exact hqps.trans (keeps_expireTtft _ t url)

end Reading

variable {t : ℚ} {effect : Effect}

/-- What reading one engine does to the monitor, reading them all does. -/
theorem collectRequestStats_relates {R : RequestStatsMonitor → RequestStatsMonitor → Prop}
    (hrefl : ∀ m, R m m) (htrans : ∀ {m m' m''}, R m m' → R m' m'' → R m m'')
    (hengine : ∀ m url, R m (m.engineRequestStats t url).2) (urls : List String)
    (m : RequestStatsMonitor) (ret : Dict String RequestStats) :
    R m (collectRequestStats t urls m ret).2 := by
  induction urls generalizing m ret with
  | nil => exact hrefl m
  | cons url rest ih =>
    have hengine := hengine m url
    unfold collectRequestStats
    cases hstats : m.engineRequestStats t url with
    | mk result next =>
      rw [hstats] at hengine
      cases result with
      | error e => exact hengine
      | ok stats => exact htrans hengine (ih next _)

theorem keeps_getRequestStats (m : RequestStatsMonitor) (t : ℚ) : Keeps m (m.getRequestStats t).2 :=
  collectRequestStats_relates Keeps.refl Keeps.trans
    (fun m url => keeps_engineRequestStats m t url) m.statsUrls m .empty

theorem mem_ensureMonitor (d : Dict String MovingAverageMonitor) (key url : String)
    (window : ℚ) : url ∈ ensureMonitor d key window ↔ url ∈ d ∨ url = key := by
  unfold ensureMonitor
  split
  · next h =>
      constructor
      · exact Or.inl
      · rintro (hurl | rfl)
        · exact hurl
        · exact h
  · rw [Dict.mem_set, or_comm]

theorem admits_onNewRequest (m : RequestStatsMonitor) (url rid : String) (t : ℚ) :
    Admits m ⟨m.nextHandle⟩ ⟨.prefill, url, rid, t, none⟩ (m.onNewRequest url rid t).2 where
  fresh := rfl
  stage := rfl
  next := rfl
  active := rfl
  starts := rfl
  firsts := rfl
  prefill := rfl
  decoding := rfl
  finished := rfl
  latency key := mem_ensureMonitor m.latencyMonitors url key m.slidingWindowSize
  log := rfl

variable {m : RequestStatsMonitor} {handle : RequestHandle} {request : ActiveRequest}
  {m' : RequestStatsMonitor}

/-- In a coherent monitor the counter behind an active record is positive, so
neither guard that reports a violation can be taken. -/
theorem Coherent.counted_pos (hm : Coherent m) (h : m.activeRequests.get? handle = some request) :
    0 < counted m request.stage request.engineUrl := by
  have hpos : 0 < m.stageCount request.stage request.engineUrl :=
    m.activeRequests.count_pos_of_get? _ handle request h (by simp)
  cases hstage : request.stage with
  | prefill =>
    rw [hstage] at hpos
    simp only [counted, hm.prefillCount]
    omega
  | decoding =>
    rw [hstage] at hpos
    simp only [counted, hm.decodingCount]
    omega

theorem onRequestResponse_eq (hm : Coherent m) (t : ℚ)
    (hfound : m.activeRequests.get? handle = some request) (hstage : request.stage = .prefill) :
    m.onRequestResponse handle t = { m with
      activeRequests := m.activeRequests.set handle
        { request with stage := .decoding, firstTokenTime := some t }
      firstTokenTime := m.firstTokenTime.set handle t
      inPrefillRequests := addTo m.inPrefillRequests request.engineUrl (-1)
      inDecodingRequests := addTo m.inDecodingRequests request.engineUrl 1
      ttftMonitors := updateMonitor m.ttftMonitors request.engineUrl
        m.slidingWindowSize t (t - request.startTime) } := by
  have hguard : ¬ m.inPrefillRequests.getD request.engineUrl 0 ≤ 0 := by
    simpa [counted, hstage] using hm.counted_pos hfound
  simp only [onRequestResponse, hfound, hstage, ne_eq, not_true_eq_false, if_false, if_neg hguard]

theorem response_effect (hm : Coherent m) (handle : RequestHandle) (t : ℚ) :
    (effectOf m (.response handle t)).Applies m (m.onRequestResponse handle t) := by
  simp only [effectOf]
  cases hfound : m.activeRequests.get? handle with
  | none =>
    rw [onRequestResponse, hfound]
    exact Keeps.refl m
  | some request =>
    by_cases hstage : request.stage = .prefill
    · rw [onRequestResponse_eq hm t hfound hstage]
      simp only [hstage, if_true]
      exact ⟨hfound, hstage, rfl, rfl, rfl, rfl, rfl, rfl, rfl, rfl, rfl⟩
    · simp only [onRequestResponse, hfound, hstage, ne_eq, not_false_eq_true, if_true, if_false]
      exact Keeps.refl m

theorem mem_addTo {d : Dict String Int} {key : String} (h : 0 < d.getD key 0) (delta : Int)
    (url : String) : url ∈ addTo d key delta ↔ url ∈ d := by
  have hkey : key ∈ d := by
    rw [Dict.mem_iff_get?]
    cases hget : d.get? key with
    | none => simp [Dict.getD, hget] at h
    | some count => exact ⟨count, rfl⟩
  rw [addTo, Dict.mem_set]
  constructor
  · rintro (rfl | hurl)
    · exact hkey
    · exact hurl
  · exact Or.inr

/-- Giving back the stage counter of a record whose counter is positive. Nothing else
changes, nor does it change which engines have a counter. -/
theorem releaseStageCount_spec (m : RequestStatsMonitor) (handle : RequestHandle)
    (request : ActiveRequest) (hpos : 0 < counted m request.stage request.engineUrl) :
    ∃ prefill decoding, m.releaseStageCount handle request =
        { m with inPrefillRequests := prefill, inDecodingRequests := decoding } ∧
      (∀ url, url ∈ prefill ↔ url ∈ m.inPrefillRequests) ∧
      (∀ url, url ∈ decoding ↔ url ∈ m.inDecodingRequests) ∧
      ∀ stage url, counted (m.releaseStageCount handle request) stage url =
        counted m stage url - if stage = request.stage ∧ url = request.engineUrl then 1 else 0 := by
  cases hstage : request.stage with
  | prefill =>
    rw [hstage] at hpos
    change 0 < m.inPrefillRequests.getD request.engineUrl 0 at hpos
    have hrelease : m.releaseStageCount handle request = { m with
        inPrefillRequests := addTo m.inPrefillRequests request.engineUrl (-1) } := by
      simp only [releaseStageCount, hstage, if_neg (not_le.mpr hpos)]
    refine ⟨_, _, hrelease, mem_addTo hpos _, fun _ => Iff.rfl, ?_⟩
    intro stage url
    rw [hrelease]
    cases stage with
    | prefill =>
      simp only [counted, getD_addTo, true_and]
      split <;> omega
    | decoding => simp [counted]
  | decoding =>
    rw [hstage] at hpos
    change 0 < m.inDecodingRequests.getD request.engineUrl 0 at hpos
    have hrelease : m.releaseStageCount handle request = { m with
        inDecodingRequests := addTo m.inDecodingRequests request.engineUrl (-1) } := by
      simp only [releaseStageCount, hstage, if_neg (not_le.mpr hpos)]
    refine ⟨_, _, hrelease, fun _ => Iff.rfl, mem_addTo hpos _, ?_⟩
    intro stage url
    rw [hrelease]
    cases stage with
    | prefill => simp [counted]
    | decoding =>
      simp only [counted, getD_addTo, true_and]
      split <;> omega

section Retiring

variable (hm : Coherent m) (t : ℚ) (completed : Bool)
  (hfound : m.activeRequests.get? handle = some request)

include hm hfound

/-- What a terminal hook leaves of a coherent monitor when it finds the record. It does
not raise. -/
theorem finalizeRequest_eq :
    ∃ prefill decoding monitor,
      m.latencyMonitors.get? request.engineUrl = some monitor ∧
      m.finalizeRequest handle t completed = (.ok (), { m with
        activeRequests := m.activeRequests.erase handle
        requestStartTime := m.requestStartTime.erase handle
        firstTokenTime := m.firstTokenTime.erase handle
        inPrefillRequests := prefill
        inDecodingRequests := decoding
        finishedRequests :=
          if completed then addTo m.finishedRequests request.engineUrl 1 else m.finishedRequests
        latencyMonitors :=
          if completed then m.latencyMonitors.set request.engineUrl
            (monitor.update t (t - request.startTime))
          else m.latencyMonitors }) ∧
      (∀ url, url ∈ prefill ↔ url ∈ m.inPrefillRequests) ∧
      (∀ url, url ∈ decoding ↔ url ∈ m.inDecodingRequests) ∧
      ∀ stage url, counted { m with inPrefillRequests := prefill, inDecodingRequests := decoding }
        stage url = counted m stage url -
          if stage = request.stage ∧ url = request.engineUrl then 1 else 0 := by
  obtain ⟨monitor, hmonitor⟩ := (Dict.mem_iff_get? _ _).mp (hm.latencyKnown handle request hfound)
  let popped : RequestStatsMonitor := { m with
    activeRequests := m.activeRequests.erase handle
    requestStartTime := m.requestStartTime.erase handle
    firstTokenTime := m.firstTokenTime.erase handle }
  have hpos : 0 < counted popped request.stage request.engineUrl := hm.counted_pos hfound
  obtain ⟨prefill, decoding, hrelease, hprefill, hdecoding, hcounted⟩ :=
    releaseStageCount_spec popped handle request hpos
  rw [hrelease] at hcounted
  refine ⟨prefill, decoding, monitor, hmonitor, ?_, hprefill, hdecoding, hcounted⟩
  simp only [finalizeRequest, hfound]
  rw [hrelease]
  cases completed with
  | false => rfl
  | true => simp only [if_true, recordCompletion, popped, hmonitor]

theorem finalize_effect :
    (m.finalizeRequest handle t completed).1 = .ok () ∧
      Retires m handle request completed (m.finalizeRequest handle t completed).2 := by
  obtain ⟨prefill, decoding, monitor, hmonitor, hfinalize, -, -, hcounted⟩ :=
    finalizeRequest_eq hm t completed hfound
  rw [hfinalize]
  refine ⟨rfl, hfound, rfl, rfl, rfl, rfl, hcounted, rfl, ?_, rfl⟩
  intro url
  cases completed with
  | false => rfl
  | true =>
    change url ∈ m.latencyMonitors.set request.engineUrl _ ↔ _
    rw [Dict.mem_set]
    constructor
    · rintro (rfl | h)
      · exact hm.latencyKnown handle request hfound
      · exact h
    · exact Or.inr

end Retiring

/-- What each call does to a coherent monitor. -/
theorem step_effect (hm : Coherent m) (op : Op) : (effectOf m op).Applies m (m.step op).2 := by
  cases op with
  | newRequest url rid t => exact admits_onNewRequest m url rid t
  | response handle t => exact response_effect hm handle t
  | complete handle t =>
    cases hfound : m.activeRequests.get? handle with
    | none =>
      simp only [effectOf, step, onRequestComplete, finalizeRequest, hfound]
      exact Keeps.refl m
    | some request =>
      simp only [effectOf, step, onRequestComplete, hfound]
      exact (finalize_effect hm t true hfound).2
  | fail handle t =>
    cases hfound : m.activeRequests.get? handle with
    | none =>
      simp only [effectOf, step, onRequestFail, finalizeRequest, hfound]
      exact Keeps.refl m
    | some request =>
      simp only [effectOf, step, onRequestFail, hfound]
      exact (finalize_effect hm t false hfound).2
  | abort handle t =>
    cases hfound : m.activeRequests.get? handle with
    | none =>
      simp only [effectOf, step, onRequestAbort, finalizeRequest, hfound]
      exact Keeps.refl m
    | some request =>
      simp only [effectOf, step, onRequestAbort, hfound]
      exact (finalize_effect hm t false hfound).2
  | swapped url rid t => exact ⟨rfl, rfl, rfl, rfl, rfl, rfl, rfl, rfl, rfl⟩
  | requestStats t =>
    have hkeep := keeps_getRequestStats m t
    simp only [effectOf, step]
    cases hstats : m.getRequestStats t with
    | mk result next =>
      rw [hstats] at hkeep
      cases result with
      | ok stats => exact hkeep
      | error e => exact hkeep

section Preservation

variable {completed : Bool}

theorem Admits.not_mem (h : Admits m handle request m') (hm : Coherent m) :
    handle ∉ m.activeRequests := by
  intro member
  have hbelow := hm.handlesBelow handle member
  rw [h.fresh] at hbelow
  exact Nat.lt_irrefl _ hbelow

theorem Admits.stageCount (h : Admits m handle request m') (hm : Coherent m)
    (stage : Stage) (url : String) : m'.stageCount stage url = m.stageCount stage url +
      if stage = .prefill ∧ url = request.engineUrl then 1 else 0 := by
  unfold RequestStatsMonitor.stageCount
  rw [h.active, Dict.count_set_of_not_mem _ _ _ _ (h.not_mem hm)]
  simp [h.stage]

theorem Advances.stageCount (h : Advances m handle request t m') (stage : Stage) (url : String) :
    m'.stageCount stage url + (if stage = .prefill ∧ url = request.engineUrl then 1 else 0) =
      m.stageCount stage url +
        if stage = .decoding ∧ url = request.engineUrl then 1 else 0 := by
  have hcount := m.activeRequests.count_set_of_get?
    (fun entry => stage = entry.2.stage && url = entry.2.engineUrl) handle
    { request with stage := .decoding, firstTokenTime := some t } request h.found
  unfold RequestStatsMonitor.stageCount
  rw [h.active]
  simpa [h.stage] using hcount

theorem Retires.stageCount (h : Retires m handle request completed m')
    (stage : Stage) (url : String) : m'.stageCount stage url +
        (if stage = request.stage ∧ url = request.engineUrl then 1 else 0) =
      m.stageCount stage url := by
  have hcount := m.activeRequests.count_erase_of_get?
    (fun entry => stage = entry.2.stage && url = entry.2.engineUrl) handle request h.found
  unfold RequestStatsMonitor.stageCount
  rw [h.active]
  simpa using hcount

theorem Keeps.coherent (h : Keeps m m') (hm : Coherent m) : Coherent m' where
  prefillCount url := by
    rw [h.prefill, hm.prefillCount, RequestStatsMonitor.stageCount,
      RequestStatsMonitor.stageCount, h.active]
  decodingCount url := by
    rw [h.decoding, hm.decodingCount, RequestStatsMonitor.stageCount,
      RequestStatsMonitor.stageCount, h.active]
  startKeys k := by rw [h.starts, h.active, hm.startKeys]
  firstTokenKeys k := by rw [h.firsts, h.active, hm.firstTokenKeys]
  handlesBelow k hk := by
    rw [h.active] at hk
    rw [h.next]
    exact hm.handlesBelow k hk
  latencyKnown k r hk := by
    rw [h.active] at hk
    rw [h.latency]
    exact hm.latencyKnown k r hk
  quiet := h.log.trans hm.quiet

theorem Admits.coherent (h : Admits m handle request m') (hm : Coherent m) : Coherent m' where
  prefillCount url := by
    rw [h.prefill, getD_addTo, hm.prefillCount, h.stageCount hm]
    simp
  decodingCount url := by
    rw [h.decoding, hm.decodingCount, h.stageCount hm]
    simp
  startKeys k := by rw [h.starts, h.active, Dict.mem_set, Dict.mem_set, hm.startKeys]
  firstTokenKeys k := by
    rw [h.firsts, h.active, hm.firstTokenKeys, Dict.get?_set]
    by_cases hk : k = handle
    · subst hk
      have hnone := (m.activeRequests.get?_eq_none_iff k).mpr (h.not_mem hm)
      simp [hnone, h.stage]
    · rw [if_neg hk]
  handlesBelow k hk := by
    rw [h.active, Dict.mem_set] at hk
    rw [h.next]
    rcases hk with rfl | hk
    · rw [h.fresh]
      exact Nat.lt_succ_self _
    · exact Nat.lt_succ_of_lt (hm.handlesBelow k hk)
  latencyKnown k r hk := by
    rw [h.active, Dict.get?_set] at hk
    rw [h.latency]
    split at hk
    · obtain rfl : request = r := Option.some.inj hk
      exact Or.inr rfl
    · exact Or.inl (hm.latencyKnown k r hk)
  quiet := h.log.trans hm.quiet

theorem Advances.coherent (h : Advances m handle request t m') (hm : Coherent m) : Coherent m' where
  prefillCount url := by
    have hcount := h.stageCount .prefill url
    rw [h.prefill, getD_addTo, hm.prefillCount]
    split at hcount <;> simp_all
    omega
  decodingCount url := by
    have hcount := h.stageCount .decoding url
    rw [h.decoding, getD_addTo, hm.decodingCount]
    split at hcount <;> simp_all
  startKeys k := by
    rw [h.starts, h.active, Dict.mem_set, hm.startKeys]
    constructor
    · exact Or.inr
    · rintro (rfl | hk)
      · exact (Dict.mem_iff_get? _ _).mpr ⟨request, h.found⟩
      · exact hk
  firstTokenKeys k := by
    rw [h.firsts, h.active, Dict.mem_set, hm.firstTokenKeys, Dict.get?_set]
    by_cases hk : k = handle
    · simp [hk]
    · simp [hk]
  handlesBelow k hk := by
    rw [h.active, Dict.mem_set] at hk
    rw [h.next]
    rcases hk with rfl | hk
    · exact hm.handlesBelow k ((Dict.mem_iff_get? _ _).mpr ⟨request, h.found⟩)
    · exact hm.handlesBelow k hk
  latencyKnown k r hk := by
    rw [h.active, Dict.get?_set] at hk
    rw [h.latency]
    split at hk
    · obtain rfl := Option.some.inj hk
      exact hm.latencyKnown handle request h.found
    · exact hm.latencyKnown k r hk
  quiet := h.log.trans hm.quiet

theorem Retires.coherent (h : Retires m handle request completed m')
    (hm : Coherent m) : Coherent m' where
  prefillCount url := by
    have hcount := h.stageCount .prefill url
    have hreleased := h.released .prefill url
    simp only [counted, hm.prefillCount] at hreleased
    split at hcount <;> simp_all
    omega
  decodingCount url := by
    have hcount := h.stageCount .decoding url
    have hreleased := h.released .decoding url
    simp only [counted, hm.decodingCount] at hreleased
    split at hcount <;> simp_all
    omega
  startKeys k := by rw [h.starts, h.active, Dict.mem_erase, Dict.mem_erase, hm.startKeys]
  firstTokenKeys k := by
    rw [h.firsts, h.active, Dict.mem_erase, hm.firstTokenKeys, Dict.get?_erase]
    by_cases hk : k = handle <;> simp [hk]
  handlesBelow k hk := by
    rw [h.active, Dict.mem_erase] at hk
    rw [h.next]
    exact hm.handlesBelow k hk.2
  latencyKnown k r hk := by
    rw [h.active, Dict.get?_erase] at hk
    rw [h.latency]
    split at hk
    · cases hk
    · exact hm.latencyKnown k r hk
  quiet := h.log.trans hm.quiet

theorem Effect.Applies.coherent (h : effect.Applies m m') (hm : Coherent m) : Coherent m' := by
  cases effect with
  | keep => exact Keeps.coherent h hm
  | enter _ _ => exact Admits.coherent h hm
  | advance _ _ _ => exact Advances.coherent h hm
  | retire _ _ _ => exact Retires.coherent h hm

end Preservation

theorem coherent_step (hm : Coherent m) (op : Op) : Coherent (m.step op).2 :=
  (step_effect hm op).coherent hm

theorem coherent_run (hm : Coherent m) (ops : List Op) : Coherent (m.run ops) := by
  induction ops generalizing m with
  | nil => exact hm
  | cons op ops ih => exact ih (coherent_step hm op)

def Effect.arrived (url : String) : Effect → Nat
  | .enter _ request => if url = request.engineUrl then 1 else 0
  | _ => 0

def Effect.dropped (url : String) : Effect → List RequestHandle
  | .retire handle request false => if url = request.engineUrl then [handle] else []
  | _ => []

def Effect.returned : Effect → List RequestHandle
  | .enter handle _ => [handle]
  | _ => []

theorem newRequestCalls_cons (m : RequestStatsMonitor) (url : String) (op : Op) (ops : List Op) :
    newRequestCalls url (op :: ops) = (effectOf m op).arrived url + newRequestCalls url ops := by
  unfold newRequestCalls
  rw [List.countP_cons, Nat.add_comm]
  cases op with
  | newRequest engineUrl rid t => simp [effectOf, Effect.arrived, eq_comm]
  | response handle t =>
    simp only [effectOf, Bool.false_eq_true, if_false]
    split
    · split <;> rfl
    · rfl
  | complete handle t | fail handle t | abort handle t =>
    simp only [effectOf, Bool.false_eq_true, if_false]
    split <;> rfl
  | swapped _ _ _ => rfl
  | requestStats _ => rfl

theorem droppedBy_eq (m : RequestStatsMonitor) (url : String) (op : Op) :
    m.droppedBy url op = (effectOf m op).dropped url := by
  cases op with
  | newRequest _ _ _ => rfl
  | response handle t =>
    simp only [effectOf, droppedBy]
    split
    · split <;> rfl
    · rfl
  | complete handle t | fail handle t | abort handle t =>
    simp only [effectOf, droppedBy]
    split <;> rfl
  | swapped _ _ _ => rfl
  | requestStats _ => rfl

theorem handles_ofResult (result : Except MonitorError Unit) :
    (Reply.ofResult result).handles = [] := by
  cases result <;> rfl

theorem handles_step (m : RequestStatsMonitor) (op : Op) :
    (m.step op).1.handles = (effectOf m op).returned := by
  cases op with
  | newRequest _ _ _ => rfl
  | response handle t =>
    simp only [effectOf, step]
    split
    · split <;> rfl
    · rfl
  | complete handle t | fail handle t | abort handle t =>
    simp only [effectOf, step, handles_ofResult]
    split <;> rfl
  | swapped _ _ _ => rfl
  | requestStats t =>
    simp only [effectOf, step]
    split <;> rfl

/-- Requests of `url` the monitor accounts for: in flight or finished. -/
def accounted (m : RequestStatsMonitor) (url : String) : Int :=
  counted m .prefill url + counted m .decoding url + m.finishedRequests.getD url 0

/-- One call moves a request between the accounted ones and the dropped ones,
and only an admission adds one. -/
theorem Effect.Applies.accounted (h : effect.Applies m m') (url : String) :
    accounted m' url + (effect.dropped url).length = accounted m url + effect.arrived url := by
  cases effect with
  | keep =>
    have hkeep : Keeps m m' := h
    simp [Stats.accounted, counted, hkeep.prefill, hkeep.decoding, hkeep.finished,
      Effect.dropped, Effect.arrived]
  | enter handle request =>
    have henter : Admits m handle request m' := h
    simp only [Stats.accounted, counted, henter.prefill, henter.decoding, henter.finished,
      getD_addTo, Effect.dropped, Effect.arrived, List.length_nil]
    split
    · push_cast
      omega
    · simp
  | advance handle request t =>
    have hadvance : Advances m handle request t m' := h
    simp only [Stats.accounted, counted, hadvance.prefill, hadvance.decoding,
      hadvance.finished, getD_addTo, Effect.dropped, Effect.arrived, List.length_nil]
    split <;> omega
  | retire handle request completed =>
    have hretire : Retires m handle request completed m' := h
    have hprefill := hretire.released .prefill url
    have hdecoding := hretire.released .decoding url
    have hfinished := congrArg (Dict.getD · url 0) hretire.finished
    cases completed <;> cases hstage : request.stage <;>
      simp only [hstage, true_and, reduceCtorEq, false_and, if_false, if_true,
        Bool.false_eq_true, getD_addTo] at hprefill hdecoding hfinished <;>
      simp only [Stats.accounted, hprefill, hdecoding, hfinished, Effect.dropped,
        Effect.arrived] <;>
      split <;> simp <;> omega

theorem accounted_run (hm : Coherent m) (url : String) (ops : List Op) :
    accounted (m.run ops) url + (m.droppedHandles url ops).length =
      accounted m url + newRequestCalls url ops := by
  induction ops generalizing m with
  | nil => rfl
  | cons op ops ih =>
    have hstep := (step_effect hm op).accounted url
    have hrest := ih (coherent_step hm op)
    rw [droppedHandles, droppedBy_eq, newRequestCalls_cons m, run, List.length_append]
    push_cast
    omega

/-- Every handle returned along a run is at least the counter it started from,
and no handle is returned twice. -/
theorem returnedHandles_fresh (hm : Coherent m) (ops : List Op) : (m.returnedHandles ops).Nodup ∧
      ∀ handle ∈ m.returnedHandles ops, m.nextHandle ≤ handle.value := by
  induction ops generalizing m with
  | nil => simp [returnedHandles]
  | cons op ops ih =>
    have hstep := step_effect hm op
    obtain ⟨hnodup, hbound⟩ := ih (coherent_step hm op)
    rw [returnedHandles, handles_step]
    cases heffect : effectOf m op with
    | enter handle request =>
      rw [heffect] at hstep
      have henter : Admits m handle request (m.step op).2 := hstep
      have hnext := henter.next
      have hvalue : handle.value = m.nextHandle := by rw [henter.fresh]
      simp only [Effect.returned, List.singleton_append, List.nodup_cons, List.mem_cons]
      refine ⟨⟨?_, hnodup⟩, ?_⟩
      · intro member
        have hlater := hbound handle member
        omega
      · rintro other (rfl | member)
        · omega
        · have hlater := hbound other member
          omega
    | keep =>
      rw [heffect] at hstep
      have hkeep : Keeps m (m.step op).2 := hstep
      rw [hkeep.next] at hbound
      exact ⟨hnodup, hbound⟩
    | advance handle request t =>
      rw [heffect] at hstep
      have hadvance : Advances m handle request t (m.step op).2 := hstep
      rw [hadvance.next] at hbound
      exact ⟨hnodup, hbound⟩
    | retire handle request completed =>
      rw [heffect] at hstep
      have hretire : Retires m handle request completed (m.step op).2 := hstep
      rw [hretire.next] at hbound
      exact ⟨hnodup, hbound⟩

/-- Whether a call retires `handle`. -/
def Op.retires (handle : RequestHandle) : Op → Bool
  | .complete h _ | .fail h _ | .abort h _ => h = handle
  | _ => false

def Op.isNewRequest : Op → Bool
  | .newRequest _ _ _ => true
  | _ => false

/-- The active requests, and how many there have been. -/
structure Records where
  next : Nat
  active : Dict RequestHandle ActiveRequest

/-- What a call makes of the records. Reading the statistics does nothing to them. -/
def Records.after (r : Records) : Op → Records
  | .newRequest engineUrl requestId t =>
    ⟨r.next + 1, r.active.set ⟨r.next⟩ ⟨.prefill, engineUrl, requestId, t, none⟩⟩
  | .response handle t =>
    match r.active.get? handle with
    | some request =>
      if request.stage = .prefill then
        ⟨r.next, r.active.set handle
          { request with stage := .decoding, firstTokenTime := some t }⟩
      else r
    | none => r
  | .complete handle _ | .fail handle _ | .abort handle _ =>
    ⟨r.next, r.active.erase handle⟩
  | .swapped _ _ _ | .requestStats _ => r

def RequestStatsMonitor.records (m : RequestStatsMonitor) : Records :=
  ⟨m.nextHandle, m.activeRequests⟩

theorem Keeps.records (h : Keeps m m') : m'.records = m.records := by
  rw [RequestStatsMonitor.records, h.next, h.active]
  rfl

theorem records_step (hm : Coherent m) (op : Op) : (m.step op).2.records = m.records.after op := by
  have heffect := step_effect hm op
  cases op with
  | newRequest url rid t => rfl
  | response handle t =>
    simp only [Records.after, RequestStatsMonitor.records]
    cases hfound : m.activeRequests.get? handle with
    | none =>
      simp only [effectOf, hfound] at heffect
      exact Keeps.records heffect
    | some request =>
      simp only [effectOf, hfound] at heffect
      dsimp only
      split at heffect
      · next hstage => rw [Advances.next heffect, Advances.active heffect, if_pos hstage]
      · next hstage =>
          rw [if_neg hstage]
          exact Keeps.records heffect
  | complete handle t | fail handle t | abort handle t =>
    simp only [Records.after, RequestStatsMonitor.records]
    cases hfound : m.activeRequests.get? handle with
    | none =>
      simp only [effectOf, hfound] at heffect
      rw [Dict.erase_of_not_mem _ ((Dict.get?_eq_none_iff _ _).mp hfound)]
      exact Keeps.records heffect
    | some request =>
      simp only [effectOf, hfound] at heffect
      rw [Retires.next heffect, Retires.active heffect]
  | swapped url rid t | requestStats t => exact Keeps.records heffect

theorem nextHandle_step (hm : Coherent m) (op : Op) :
    (m.step op).2.nextHandle = m.nextHandle + if op.isNewRequest then 1 else 0 := by
  have hnext : (m.step op).2.nextHandle = (m.records.after op).next :=
    congrArg Records.next (records_step hm op)
  rw [hnext]
  unfold Records.after
  split
  · rfl
  · split
    · split <;> rfl
    · rfl
  all_goals rfl

/-- Which handles are active after a call: the new one, and those the call does
not retire. -/
theorem mem_active_step (hm : Coherent m) (op : Op) (handle : RequestHandle) :
    handle ∈ (m.step op).2.activeRequests ↔
      (handle ∈ m.activeRequests ∧ op.retires handle = false) ∨
        (op.isNewRequest = true ∧ handle = ⟨m.nextHandle⟩) := by
  have hactive : (m.step op).2.activeRequests = (m.records.after op).active :=
    congrArg Records.active (records_step hm op)
  rw [hactive]
  cases op with
  | newRequest url rid t =>
    simp [Records.after, RequestStatsMonitor.records, Dict.mem_set, Op.retires, Op.isNewRequest,
      or_comm]
  | response h t =>
    simp only [Records.after, RequestStatsMonitor.records, Op.retires, Op.isNewRequest, and_true,
      Bool.false_eq_true, false_and, or_false]
    split
    · next request hfound =>
        split
        · rw [Dict.mem_set, or_iff_right_iff_imp]
          rintro rfl
          exact (Dict.mem_iff_get? _ _).mpr ⟨request, hfound⟩
        · exact Iff.rfl
    · exact Iff.rfl
  | complete h t | fail h t | abort h t =>
    simp [Records.after, RequestStatsMonitor.records, Dict.mem_erase, Op.retires,
      Op.isNewRequest, and_comm, eq_comm]
  | swapped url rid t | requestStats t =>
    simp [Records.after, RequestStatsMonitor.records, Op.retires, Op.isNewRequest]

theorem nextHandle_le_run (hm : Coherent m) (ops : List Op) :
    m.nextHandle ≤ (m.run ops).nextHandle := by
  induction ops generalizing m with
  | nil => exact Nat.le_refl _
  | cons op ops ih =>
    have hstep := nextHandle_step hm op
    have hrest := ih (coherent_step hm op)
    rw [run]
    omega

/-- Calls that retire other handles leave an issued handle as it is. -/
theorem mem_active_run (hm : Coherent m) (ops : List Op) (handle : RequestHandle)
    (hissued : handle.value < m.nextHandle) (hops : ∀ op ∈ ops, op.retires handle = false) :
    handle ∈ (m.run ops).activeRequests ↔ handle ∈ m.activeRequests := by
  induction ops generalizing m with
  | nil => exact Iff.rfl
  | cons op ops ih =>
    have hnext := nextHandle_step hm op
    have hlater : handle.value < (m.step op).2.nextHandle := by omega
    have hne : handle ≠ ⟨m.nextHandle⟩ := by
      rintro rfl
      exact Nat.lt_irrefl _ hissued
    rw [run, ih (coherent_step hm op) hlater fun o ho => hops o (List.mem_cons_of_mem _ ho),
      mem_active_step hm op handle]
    simp [hne, hops op List.mem_cons_self]

/-- Whatever calls a monitor has received, its counters are the numbers of
active records, its per-handle indexes have exactly the active handles, every
handle it gave out was new, every request is accounted for once, and neither
violation was logged. -/
theorem monitor_runs_coherent (window : ℚ) (ops : List Op) :
    let m := (init window).run ops
    (∀ url, m.inPrefillRequests.getD url 0 = m.stageCount .prefill url) ∧
    (∀ url, m.inDecodingRequests.getD url 0 = m.stageCount .decoding url) ∧
    (∀ handle, handle ∈ m.requestStartTime ↔ handle ∈ m.activeRequests) ∧
    (∀ handle, handle ∈ m.firstTokenTime ↔
      ∃ request, m.activeRequests.get? handle = some request ∧ request.stage = .decoding) ∧
    ((init window).returnedHandles ops).Nodup ∧
    (∀ before url rid t after, ops = before ++ .newRequest url rid t :: after →
      (((init window).run before).onNewRequest url rid t).1 ∉
        ((init window).run before).activeRequests) ∧
    (∀ url, (newRequestCalls url ops : Int) =
      m.inPrefillRequests.getD url 0 + m.inDecodingRequests.getD url 0 +
        m.finishedRequests.getD url 0 + ((init window).droppedHandles url ops).length) ∧
    m.errorLog = [] := by
  have hinit := coherent_init window
  have hm := coherent_run hinit ops
  refine ⟨hm.prefillCount, hm.decodingCount, hm.startKeys, hm.firstTokenKeys,
    (returnedHandles_fresh hinit ops).1, ?_, ?_, hm.quiet⟩
  · intro before url rid t after _
    exact (admits_onNewRequest _ url rid t).not_mem (coherent_run hinit before)
  · intro url
    have htotal := accounted_run hinit url ops
    have hzero : accounted (init window) url = 0 := rfl
    simp only [accounted, counted] at htotal hzero
    omega

/-! The window: no call changes it, and reading the statistics only fails when it
is zero. -/

section Window

variable (m : RequestStatsMonitor) (t : ℚ) (url : String)

theorem window_expireQps : (m.expireQps t url).slidingWindowSize = m.slidingWindowSize := by
  unfold expireQps
  split <;> rfl

theorem window_expireTtft : (m.expireTtft t url).slidingWindowSize = m.slidingWindowSize := by
  unfold expireTtft
  split <;> rfl

theorem window_engineRequestStats :
    (m.engineRequestStats t url).2.slidingWindowSize = m.slidingWindowSize := by
  unfold engineRequestStats
  dsimp only
  split
  · exact window_expireQps m t url
  · exact (window_expireTtft _ t url).trans (window_expireQps m t url)

end Window

theorem engineRequestStats_ok (hwindow : m.slidingWindowSize ≠ 0) (t : ℚ) (url : String) :
    ∃ stats, (m.engineRequestStats t url).1 = .ok stats := by
  have hqps : ∃ qps, (m.expireQps t url).engineQps url = .ok qps := by
    unfold engineQps
    split
    · exact ⟨_, rfl⟩
    · rw [window_expireQps, if_neg hwindow]
      exact ⟨_, rfl⟩
  obtain ⟨qps, hqps⟩ := hqps
  unfold engineRequestStats
  simp only [hqps]
  exact ⟨_, rfl⟩

theorem collectRequestStats_ok (t : ℚ) (urls : List String) (m : RequestStatsMonitor)
    (ret : Dict String RequestStats) (hwindow : m.slidingWindowSize ≠ 0) :
    ∃ stats, (collectRequestStats t urls m ret).1 = .ok stats := by
  induction urls generalizing m ret with
  | nil => exact ⟨ret, rfl⟩
  | cons url rest ih =>
    have hkept := window_engineRequestStats m t url
    obtain ⟨stats, hok⟩ := engineRequestStats_ok hwindow t url
    unfold collectRequestStats
    cases hstats : m.engineRequestStats t url with
    | mk result next =>
      rw [hstats] at hok hkept
      obtain rfl : result = .ok stats := hok
      have hnext : next.slidingWindowSize = m.slidingWindowSize := hkept
      exact ih next _ (hnext ▸ hwindow)

theorem getRequestStats_ok (hwindow : m.slidingWindowSize ≠ 0) (t : ℚ) :
    ∃ stats, (m.getRequestStats t).1 = .ok stats :=
  collectRequestStats_ok t m.statsUrls m .empty hwindow

variable (m)

theorem window_finalizeRequest (handle : RequestHandle) (t : ℚ) (completed : Bool) :
    (m.finalizeRequest handle t completed).2.slidingWindowSize = m.slidingWindowSize := by
  have hrelease (m : RequestStatsMonitor) (request : ActiveRequest) :
      (m.releaseStageCount handle request).slidingWindowSize = m.slidingWindowSize := by
    unfold releaseStageCount
    cases request.stage <;>
    · dsimp only
      split <;> rfl
  have hrecord (m : RequestStatsMonitor) (request : ActiveRequest) :
      (m.recordCompletion request t).2.slidingWindowSize = m.slidingWindowSize := by
    unfold recordCompletion
    dsimp only
    split <;> rfl
  unfold finalizeRequest
  split
  · rfl
  · split
    · rw [hrecord, hrelease]
    · exact hrelease _ _

theorem window_step (op : Op) :
    (m.step op).2.slidingWindowSize = m.slidingWindowSize := by
  cases op with
  | newRequest url rid t => rfl
  | response handle t =>
    simp only [step]
    unfold onRequestResponse
    split
    · rfl
    · split
      · rfl
      · split <;> rfl
  | complete handle t => exact window_finalizeRequest m handle t true
  | fail handle t | abort handle t => exact window_finalizeRequest m handle t false
  | swapped url rid t => rfl
  | requestStats t =>
    have hkept : (collectRequestStats t m.statsUrls m .empty).2.slidingWindowSize =
        m.slidingWindowSize :=
      collectRequestStats_relates (R := fun m m' => m'.slidingWindowSize = m.slidingWindowSize)
        (fun _ => rfl) (fun h h' => h'.trans h)
        (fun m url => window_engineRequestStats m t url) m.statsUrls m .empty
    simp only [step, getRequestStats]
    cases hstats : collectRequestStats t m.statsUrls m .empty with
    | mk result next =>
      rw [hstats] at hkept
      cases result <;> exact hkept

theorem window_run (ops : List Op) :
    (m.run ops).slidingWindowSize = m.slidingWindowSize := by
  induction ops generalizing m with
  | nil => rfl
  | cons op ops ih => exact (ih _).trans (window_step m op)

end ProductionStack.Stats

import ProductionStack.Lib.Dict
import ProductionStack.Stats.MovingAverage

/-!
The request statistics monitor. Every hook runs under one reentrant lock, so a
hook is one atomic function on the monitor's fields. The two error lines that
report a broken counter are kept as a log field, so that their absence can be
stated.
-/

namespace ProductionStack.Stats

open Lib

/-- Opaque identity for one request attempt against one engine. -/
structure RequestHandle where
  value : Nat
  deriving DecidableEq, Repr

inductive Stage where
  | prefill
  | decoding
  deriving DecidableEq, Repr

structure ActiveRequest where
  stage : Stage
  engineUrl : String
  requestId : String
  startTime : ℚ
  firstTokenTime : Option ℚ
  deriving DecidableEq

structure RequestStats where
  qps : ℚ
  ttft : ℚ
  inPrefillRequests : Int
  inDecodingRequests : Int
  finishedRequests : Int
  uptime : ℚ
  avgDecodingLength : ℚ
  avgLatency : ℚ
  avgItl : ℚ
  numSwappedRequests : Int
  deriving DecidableEq

/-- The two `Request stats invariant violated` log lines. -/
inductive InvariantViolation where
  | noPrefillRequests (handle : RequestHandle) (engineUrl : String)
  | noMatchingCount (handle : RequestHandle) (stage : Stage) (engineUrl : String)
  deriving DecidableEq

inductive MonitorError where
  | keyError (engineUrl : String)
  | zeroDivisionError
  deriving DecidableEq

structure RequestStatsMonitor where
  slidingWindowSize : ℚ
  nextHandle : Nat
  activeRequests : Dict RequestHandle ActiveRequest
  qpsMonitors : Dict String MovingAverageMonitor
  ttftMonitors : Dict String MovingAverageMonitor
  requestStartTime : Dict RequestHandle ℚ
  firstTokenTime : Dict RequestHandle ℚ
  inPrefillRequests : Dict String Int
  inDecodingRequests : Dict String Int
  finishedRequests : Dict String Int
  latencyMonitors : Dict String MovingAverageMonitor
  decodingLengthMonitors : Dict String MovingAverageMonitor
  swappedRequests : Dict String Int
  firstQueryTime : Option ℚ
  errorLog : List InvariantViolation

/-- `d[key] += delta` after `d.setdefault(key, 0)`. -/
def addTo (d : Dict String Int) (key : String) (delta : Int) : Dict String Int :=
  d.set key (d.getD key 0 + delta)

theorem getD_addTo (d : Dict String Int) (key key' : String) (delta : Int) :
    (addTo d key delta).getD key' 0 = d.getD key' 0 + if key' = key then delta else 0 := by
  rw [addTo, Dict.getD_set]
  by_cases h : key' = key <;> simp [h]

/-- `if key not in d: d[key] = MovingAverageMonitor(window)`. -/
def ensureMonitor (d : Dict String MovingAverageMonitor) (key : String) (window : ℚ) :
    Dict String MovingAverageMonitor :=
  if key ∈ d then d else d.set key (.new window)

/-- `d[key].update(timestamp, value)` for a monitor that `ensureMonitor` has
created if it was missing. -/
def updateMonitor (d : Dict String MovingAverageMonitor) (key : String)
    (window timestamp value : ℚ) : Dict String MovingAverageMonitor :=
  let d := ensureMonitor d key window
  d.set key ((d.getD key (.new window)).update timestamp value)

namespace RequestStatsMonitor

def init (slidingWindowSize : ℚ) : RequestStatsMonitor where
  slidingWindowSize := slidingWindowSize
  nextHandle := 0
  activeRequests := .empty
  qpsMonitors := .empty
  ttftMonitors := .empty
  requestStartTime := .empty
  firstTokenTime := .empty
  inPrefillRequests := .empty
  inDecodingRequests := .empty
  finishedRequests := .empty
  latencyMonitors := .empty
  decodingLengthMonitors := .empty
  swappedRequests := .empty
  firstQueryTime := none
  errorLog := []

def onNewRequest (m : RequestStatsMonitor) (engineUrl requestId : String)
    (timestamp : ℚ) : RequestHandle × RequestStatsMonitor :=
  let handle : RequestHandle := ⟨m.nextHandle⟩
  (handle, { m with
    nextHandle := m.nextHandle + 1
    activeRequests := m.activeRequests.set handle
      ⟨.prefill, engineUrl, requestId, timestamp, none⟩
    requestStartTime := m.requestStartTime.set handle timestamp
    inPrefillRequests := addTo m.inPrefillRequests engineUrl 1
    qpsMonitors := updateMonitor m.qpsMonitors engineUrl m.slidingWindowSize timestamp 1
    latencyMonitors := ensureMonitor m.latencyMonitors engineUrl m.slidingWindowSize
    firstQueryTime := some (m.firstQueryTime.getD timestamp) })

def onRequestResponse (m : RequestStatsMonitor) (handle : RequestHandle)
    (timestamp : ℚ) : RequestStatsMonitor :=
  match m.activeRequests.get? handle with
  | none => m
  | some request =>
    if request.stage ≠ .prefill then m
    else if m.inPrefillRequests.getD request.engineUrl 0 ≤ 0 then
      { m with errorLog := m.errorLog ++ [.noPrefillRequests handle request.engineUrl] }
    else
      { m with
        activeRequests := m.activeRequests.set handle
          { request with stage := .decoding, firstTokenTime := some timestamp }
        firstTokenTime := m.firstTokenTime.set handle timestamp
        inPrefillRequests := addTo m.inPrefillRequests request.engineUrl (-1)
        inDecodingRequests := addTo m.inDecodingRequests request.engineUrl 1
        ttftMonitors := updateMonitor m.ttftMonitors request.engineUrl
          m.slidingWindowSize timestamp (timestamp - request.startTime) }

/-- Decrement the counter of the request's stage, or log that it has nothing
to give back. -/
def releaseStageCount (m : RequestStatsMonitor) (handle : RequestHandle)
    (request : ActiveRequest) : RequestStatsMonitor :=
  let stageCounts : Dict String Int := match request.stage with
    | .prefill => m.inPrefillRequests
    | .decoding => m.inDecodingRequests
  if stageCounts.getD request.engineUrl 0 ≤ 0 then
    { m with
      errorLog := m.errorLog ++ [.noMatchingCount handle request.stage request.engineUrl] }
  else match request.stage with
    | .prefill =>
      { m with inPrefillRequests := addTo m.inPrefillRequests request.engineUrl (-1) }
    | .decoding =>
      { m with inDecodingRequests := addTo m.inDecodingRequests request.engineUrl (-1) }

/-- The completed half of `_finalize_request`. The latency monitor is read by
subscript, so a missing one raises. -/
def recordCompletion (m : RequestStatsMonitor) (request : ActiveRequest)
    (timestamp : ℚ) : Except MonitorError Unit × RequestStatsMonitor :=
  let m := { m with finishedRequests := addTo m.finishedRequests request.engineUrl 1 }
  match m.latencyMonitors.get? request.engineUrl with
  | none => (.error (.keyError request.engineUrl), m)
  | some monitor =>
    (.ok (), { m with
      latencyMonitors := m.latencyMonitors.set request.engineUrl
        (monitor.update timestamp (timestamp - request.startTime)) })

/-- The record is popped first, so a second terminal hook finds nothing. -/
def finalizeRequest (m : RequestStatsMonitor) (handle : RequestHandle)
    (timestamp : ℚ) (completed : Bool) : Except MonitorError Unit × RequestStatsMonitor :=
  match m.activeRequests.get? handle with
  | none => (.ok (), m)
  | some request =>
    let m := { m with
      activeRequests := m.activeRequests.erase handle
      requestStartTime := m.requestStartTime.erase handle
      firstTokenTime := m.firstTokenTime.erase handle }
    let m := m.releaseStageCount handle request
    if completed then m.recordCompletion request timestamp else (.ok (), m)

def onRequestComplete (m : RequestStatsMonitor) (handle : RequestHandle) (timestamp : ℚ) :=
  m.finalizeRequest handle timestamp true

def onRequestFail (m : RequestStatsMonitor) (handle : RequestHandle) (timestamp : ℚ) :=
  m.finalizeRequest handle timestamp false

def onRequestAbort (m : RequestStatsMonitor) (handle : RequestHandle) (timestamp : ℚ) :=
  m.finalizeRequest handle timestamp false

def onRequestSwapped (m : RequestStatsMonitor) (engineUrl _requestId : String)
    (_timestamp : ℚ) : RequestStatsMonitor :=
  { m with swappedRequests := addTo m.swappedRequests engineUrl 1 }

/-- `set(in_prefill_requests).union(in_decoding_requests)`. The iteration order
of a set is unspecified; first occurrence is used here, and only the order of
the result depends on it. -/
def statsUrls (m : RequestStatsMonitor) : List String :=
  m.inPrefillRequests.keys ++
    m.inDecodingRequests.keys.filter (fun url => url ∉ m.inPrefillRequests)

def averageOf (d : Dict String MovingAverageMonitor) (engineUrl : String) : ℚ :=
  match d.get? engineUrl with
  | none => -1
  | some monitor => monitor.getAverage

/-- `qps_monitors[url].update_no_value(current_time)` when the key is present. -/
def expireQps (m : RequestStatsMonitor) (currentTime : ℚ) (engineUrl : String) :
    RequestStatsMonitor :=
  match m.qpsMonitors.get? engineUrl with
  | none => m
  | some monitor =>
    { m with
      qpsMonitors := m.qpsMonitors.set engineUrl (monitor.updateNoValue currentTime) }

def expireTtft (m : RequestStatsMonitor) (currentTime : ℚ) (engineUrl : String) :
    RequestStatsMonitor :=
  match m.ttftMonitors.get? engineUrl with
  | none => m
  | some monitor =>
    { m with
      ttftMonitors := m.ttftMonitors.set engineUrl (monitor.updateNoValue currentTime) }

def engineQps (m : RequestStatsMonitor) (engineUrl : String) : Except MonitorError ℚ :=
  match m.qpsMonitors.get? engineUrl with
  | none => .ok (-1)
  | some monitor =>
    if m.slidingWindowSize = 0 then .error .zeroDivisionError
    else .ok (monitor.getSum / m.slidingWindowSize)

def readRequestStats (m : RequestStatsMonitor) (currentTime : ℚ) (engineUrl : String)
    (qps : ℚ) : RequestStats where
  qps := qps
  ttft := averageOf m.ttftMonitors engineUrl
  inPrefillRequests := m.inPrefillRequests.getD engineUrl 0
  inDecodingRequests := m.inDecodingRequests.getD engineUrl 0
  finishedRequests := m.finishedRequests.getD engineUrl 0
  uptime := match m.firstQueryTime with
    | none => 0
    | some t => if t = 0 then 0 else currentTime - t
  avgDecodingLength := averageOf m.decodingLengthMonitors engineUrl
  avgLatency := averageOf m.latencyMonitors engineUrl
  avgItl := -1
  numSwappedRequests := m.swappedRequests.getD engineUrl 0

/-- One iteration of the snapshot loop: expire the two windows of the engine,
then read its fields. -/
def engineRequestStats (m : RequestStatsMonitor) (currentTime : ℚ) (engineUrl : String) :
    Except MonitorError RequestStats × RequestStatsMonitor :=
  let m := m.expireQps currentTime engineUrl
  match m.engineQps engineUrl with
  | .error e => (.error e, m)
  | .ok qps =>
    let m := m.expireTtft currentTime engineUrl
    (.ok (m.readRequestStats currentTime engineUrl qps), m)

def collectRequestStats (currentTime : ℚ) :
    List String → RequestStatsMonitor → Dict String RequestStats →
      Except MonitorError (Dict String RequestStats) × RequestStatsMonitor
  | [], m, ret => (.ok ret, m)
  | engineUrl :: rest, m, ret =>
    match m.engineRequestStats currentTime engineUrl with
    | (.error e, m) => (.error e, m)
    | (.ok stats, m) => collectRequestStats currentTime rest m (ret.set engineUrl stats)

def getRequestStats (m : RequestStatsMonitor) (currentTime : ℚ) :
    Except MonitorError (Dict String RequestStats) × RequestStatsMonitor :=
  collectRequestStats currentTime m.statsUrls m .empty

end RequestStatsMonitor

end ProductionStack.Stats

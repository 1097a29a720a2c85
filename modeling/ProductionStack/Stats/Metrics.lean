import ProductionStack.Lib.Journal
import ProductionStack.Stats.Windows

/-!
The `/metrics` handler. It clears the gauges that have a label for a server and sets
them again from the request statistics, the scraped engine statistics and the
discovered endpoints.
-/

namespace ProductionStack.Stats

open Lib RequestStatsMonitor

/-- What the handler reads of a scrape. -/
structure EngineStats where
  gpuPrefixCacheHitRate : ℚ
  gpuPrefixCacheHitsTotal : ℚ
  gpuPrefixCacheQueriesTotal : ℚ

/-- `_LABEL_GAUGES`. -/
inductive Gauge where
  | currentQps
  | avgDecodingLength
  | numPrefillRequests
  | numDecodingRequests
  | numRequestsRunning
  | numRequestsWaiting
  | avgLatency
  | avgItl
  | numRequestsSwapped
  | gpuPrefixCacheHitRate
  | gpuPrefixCacheHitsTotal
  | gpuPrefixCacheQueriesTotal
  | healthyPodsTotal

/-- The router as the handler sees it. An endpoint is a URL and whether it is healthy.
`scraping` has the endpoints of a scrape that has not ended. -/
structure Exporter where
  monitor : RequestStatsMonitor
  engineStats : Dict String EngineStats
  endpoints : List (String × Bool)
  scraping : List (String × Bool)
  gauges : Gauge → Dict String ℚ

namespace Exporter

def init (window : ℚ) : Exporter where
  monitor := .init window
  engineStats := .empty
  endpoints := []
  scraping := []
  gauges := fun _ => .empty

/-- A gauge with a label for every key. -/
def labelled {α : Type} (d : Dict String α) (value : α → ℚ) : Dict String ℚ :=
  Dict.empty.assign (d.entries.map fun e => (e.1, value e.2))

def setGauges (stats : Dict String RequestStats) (engineStats : Dict String EngineStats)
    (endpoints : List (String × Bool)) : Gauge → Dict String ℚ
  | .currentQps => labelled stats (·.qps)
  | .avgDecodingLength => labelled stats (·.avgDecodingLength)
  | .numPrefillRequests => labelled stats fun stat => stat.inPrefillRequests
  | .numDecodingRequests => labelled stats fun stat => stat.inDecodingRequests
  | .numRequestsRunning =>
    labelled stats fun stat => (stat.inPrefillRequests + stat.inDecodingRequests : Int)
  | .numRequestsWaiting => .empty
  | .avgLatency => labelled stats (·.avgLatency)
  | .avgItl => labelled stats (·.avgItl)
  | .numRequestsSwapped => labelled stats fun stat => stat.numSwappedRequests
  | .gpuPrefixCacheHitRate => labelled engineStats (·.gpuPrefixCacheHitRate)
  | .gpuPrefixCacheHitsTotal => labelled engineStats (·.gpuPrefixCacheHitsTotal)
  | .gpuPrefixCacheQueriesTotal => labelled engineStats (·.gpuPrefixCacheQueriesTotal)
  | .healthyPodsTotal =>
    Dict.empty.assign (endpoints.map fun e => (e.1, if e.2 then 1 else 0))

/-- The handler. If the statistics cannot be read, the gauges have been cleared. -/
def metrics (w : Exporter) (now : ℚ) : Except MonitorError Unit × Exporter :=
  match w.monitor.getRequestStats now with
  | (.error e, monitor) => (.error e, { w with monitor, gauges := fun _ => .empty })
  | (.ok stats, monitor) =>
    (.ok (), { w with monitor, gauges := setGauges stats w.engineStats w.endpoints })

/-- The end of `_scrape_metrics`, when the engines that answered are known. -/
def endScrape (w : Exporter) (answers : String → Option EngineStats) : Exporter :=
  let collected : Dict String EngineStats := w.scraping.foldl (fun collected info =>
    (answers info.1).elim collected (collected.set info.1)) .empty
  { w with
    engineStats := ((w.engineStats.keys.filter (· ∉ collected)).foldl Dict.erase
      w.engineStats).assign collected.entries
    scraping := [] }

/-- What happens in the router. -/
inductive Incident where
  | call (op : Op)
  | discover (endpoints : List (String × Bool))
  | scrapeStarts
  | scrapeEnds (answers : String → Option EngineStats)
  | metrics (now : ℚ)

def step (w : Exporter) : Incident → Exporter
  | .call op => { w with monitor := (w.monitor.step op).2 }
  | .discover endpoints => { w with endpoints }
  | .scrapeStarts => { w with scraping := w.endpoints }
  | .scrapeEnds answers => w.endScrape answers
  | .metrics now => (w.metrics now).2

def run (w : Exporter) (incidents : List Incident) : Exporter := incidents.foldl step w

/-- The server is discovered, or has a request in flight. -/
def Live (w : Exporter) (url : String) : Prop :=
  url ∈ w.endpoints.map Prod.fst ∨
    ∃ handle request, w.monitor.activeRequests.get? handle = some request ∧
      request.engineUrl = url

/-- The server has been sent a request. -/
def Requested (incidents : List Incident) (url : String) : Prop :=
  ∃ requestId t, .call (.newRequest url requestId t) ∈ incidents

/-! The engines of the request statistics. -/

theorem mem_collected {t : ℚ} {urls : List String} {m m' : RequestStatsMonitor}
    {ret stats : Dict String RequestStats} (h : collectRequestStats t urls m ret = (.ok stats, m'))
    (url : String) : url ∈ stats ↔ url ∈ urls ∨ url ∈ ret := by
  induction urls generalizing m ret with
  | nil =>
    cases h
    simp
  | cons first rest ih =>
    rw [collectRequestStats] at h
    cases hread : m.engineRequestStats t first with
    | mk result next =>
      rw [hread] at h
      cases result with
      | error e => cases h
      | ok s =>
        rw [ih h, Dict.mem_set, List.mem_cons]
        tauto

variable (m : RequestStatsMonitor) (now : ℚ)

theorem statsUrls_read : (m.getRequestStats now).2.statsUrls = m.statsUrls := by
  have hkeeps := keeps_getRequestStats m now
  rw [statsUrls, hkeeps.prefill, hkeeps.decoding]
  rfl

theorem step_read : (m.step (.requestStats now)).2 = (m.getRequestStats now).2 := by
  rw [RequestStatsMonitor.step]
  cases m.getRequestStats now with
  | mk result next =>
    cases result with
    | error e => rfl
    | ok stats => rfl

theorem metrics_monitor (w : Exporter) (now : ℚ) :
    (w.metrics now).2.monitor = (w.monitor.getRequestStats now).2 := by
  rw [metrics]
  cases w.monitor.getRequestStats now with
  | mk result next =>
    cases result with
    | error e => rfl
    | ok stats => rfl

theorem mem_statsUrls_call {m : RequestStatsMonitor} (hm : Coherent m) (op : Op) (url : String) :
    url ∈ (m.step op).2.statsUrls ↔
      url ∈ m.statsUrls ∨ ∃ requestId t, op = .newRequest url requestId t := by
  cases hop : op.isRead with
  | false =>
    rw [(engines_step hm hop url).1]
    cases op with
    | newRequest engineUrl requestId t =>
      by_cases hurl : url = engineUrl
      · simp [recorded, hurl]
      · simp [recorded, hurl, Ne.symm hurl]
    | _ => simp [recorded]
  | true =>
    cases op with
    | requestStats now =>
      rw [step_read, statsUrls_read]
      simp
    | _ => cases hop

/-- The statistics list the servers that have been sent a request. -/
theorem run_listed (window : ℚ) (incidents : List Incident) :
    Coherent ((init window).run incidents).monitor ∧
      ∀ url, url ∈ ((init window).run incidents).monitor.statsUrls ↔ Requested incidents url := by
  induction incidents using List.reverseRecOn with
  | nil =>
    refine ⟨coherent_init window, ?_⟩
    simp [run, init, RequestStatsMonitor.init, statsUrls, Requested, Dict.keys, Dict.empty]
  | append_singleton incidents last ih =>
    obtain ⟨hm, hlisted⟩ := ih
    rw [run, List.foldl_append]
    change Coherent (((init window).run incidents).step last).monitor ∧
      ∀ url, url ∈ (((init window).run incidents).step last).monitor.statsUrls ↔ _
    have happend (url : String) : Requested (incidents ++ [last]) url ↔
        Requested incidents url ∨ ∃ requestId t, last = .call (.newRequest url requestId t) := by
      simp only [Requested, List.mem_append, List.mem_singleton, exists_or, eq_comm]
    cases last with
    | call op =>
      refine ⟨coherent_step hm op, fun url => ?_⟩
      change url ∈ (((init window).run incidents).monitor.step op).2.statsUrls ↔ _
      rw [mem_statsUrls_call hm, happend, hlisted]
      simp
    | metrics now =>
      rw [step, metrics_monitor]
      refine ⟨(keeps_getRequestStats _ now).coherent hm, fun url => ?_⟩
      rw [statsUrls_read, happend, hlisted]
      simp
    | _ => exact ⟨hm, fun url => by rw [happend, ← hlisted]; simp [step, endScrape]⟩

/-! The labels. -/

theorem mem_labelled {α : Type} (d : Dict String α) (value : α → ℚ) (url : String) :
    url ∈ labelled d value ↔ url ∈ d := by
  rw [labelled, Dict.mem_assign, List.map_map]
  exact or_iff_left List.not_mem_nil

theorem exists_label_iff (stats : Dict String RequestStats) (engineStats : Dict String EngineStats)
    (endpoints : List (String × Bool)) (url : String) :
    (∃ gauge, url ∈ setGauges stats engineStats endpoints gauge) ↔
      url ∈ stats ∨ url ∈ engineStats ∨ url ∈ endpoints.map Prod.fst := by
  have hpods : url ∈ setGauges stats engineStats endpoints .healthyPodsTotal ↔
      url ∈ endpoints.map Prod.fst := by
    rw [setGauges, Dict.mem_assign, List.map_map]
    exact or_iff_left List.not_mem_nil
  constructor
  · rintro ⟨gauge, h⟩
    cases gauge with
    | numRequestsWaiting => exact absurd h List.not_mem_nil
    | healthyPodsTotal => exact .inr (.inr (hpods.mp h))
    | gpuPrefixCacheHitRate | gpuPrefixCacheHitsTotal | gpuPrefixCacheQueriesTotal =>
      exact .inr (.inl ((mem_labelled _ _ _).mp h))
    | _ => exact .inl ((mem_labelled _ _ _).mp h)
  · rintro (h | h | h)
    · exact ⟨.currentQps, (mem_labelled _ _ _).mpr h⟩
    · exact ⟨.gpuPrefixCacheHitRate, (mem_labelled _ _ _).mpr h⟩
    · exact ⟨.healthyPodsTotal, hpods.mpr h⟩

/-- After the handler, every label is of a live server exactly when the handler failed,
or every server that has been sent a request or stands in the scraper's table is live. -/
theorem live_labels_iff (window : ℚ) (incidents : List Incident) (now : ℚ) :
    (∀ gauge url, url ∈ (((init window).run incidents).metrics now).2.gauges gauge →
      (((init window).run incidents).metrics now).2.Live url) ↔
    (((init window).run incidents).metrics now).1 ≠ .ok () ∨
      ∀ url, Requested incidents url ∨ url ∈ ((init window).run incidents).engineStats →
        (((init window).run incidents).metrics now).2.Live url := by
  have hlisted := (run_listed window incidents).2
  generalize (init window).run incidents = w at hlisted ⊢
  rw [metrics]
  cases hread : w.monitor.getRequestStats now with
  | mk result monitor =>
    cases result with
    | error e => exact iff_of_true (fun _ _ h => absurd h List.not_mem_nil) (.inl nofun)
    | ok stats =>
      have hstats (url : String) : url ∈ stats ↔ Requested incidents url := by
        rw [← hlisted, mem_collected hread]
        exact or_iff_left List.not_mem_nil
      rw [or_iff_right (by simp)]
      constructor
      · intro h url hurl
        have hlabel := (exists_label_iff stats w.engineStats w.endpoints url).mpr
          (hurl.imp (hstats url).mpr .inl)
        exact hlabel.elim fun gauge hgauge => h gauge url hgauge
      · intro h gauge url hgauge
        rcases (exists_label_iff stats w.engineStats w.endpoints url).mp ⟨gauge, hgauge⟩ with
          hurl | hurl | hurl
        · exact h url (.inl ((hstats url).mp hurl))
        · exact h url (.inr hurl)
        · exact .inl hurl

/-- The only request to a server has completed, and the server is gone. -/
theorem gone_server_labelled :
    let w := ((init 60).run [.discover [("a", true)], .call (.newRequest "a" "r" 0),
      .call (.complete ⟨0⟩ 1), .discover []]).metrics 2
    w.1 = .ok () ∧ "a" ∈ w.2.gauges .currentQps ∧ ¬ w.2.Live "a" := by
  refine ⟨by decide +kernel, by decide +kernel, ?_⟩
  rintro (h | ⟨handle, request, h, -⟩)
  · exact absurd h (by decide +kernel)
  · cases h

end Exporter

end ProductionStack.Stats

import Mathlib.Data.List.Chain
import ProductionStack.Config.Labels

/-!
The engines that are configured statically. `get_endpoint_info` leaves out those whose
digest the last round of health checks has collected; a thread with an event loop of its
own makes the rounds, one after the other.
-/

namespace ProductionStack.Config

open Lib Python Request

/-! `is_model_healthy`. -/

def requestException : ExcClass := .derived "RequestException" .exception

/-- An exchange is what `requests.post` and the reading of its response come to. The type
is looked up outside of the `try`. -/
def isModelHealthy (modelType : String) (exchange : Except PyExc Unit) : Except PyExc Bool :=
  if modelTypes.contains modelType then
    match exchange with
    | .ok _ => .ok true
    | .error e => if e.isInstance [requestException] then .ok false else .error e
  else .error (.new .keyError modelType)

namespace StaticDiscovery

variable (self : StaticDiscovery) (digest : String → String)

/-- The pairs of a URL and a model. -/
def entries : List (String × String) := self.urls.zip self.models

/-! `get_endpoint_info`. -/

/-- `self.model_labels[i] if self.model_labels else "default"`. -/
def labelAt (i : Nat) : Except PyExc String :=
  match self.modelLabels with
  | none | some [] => .ok "default"
  | some labels =>
    match labels[i]? with
    | some label => .ok label
    | none => .error (.new (.derived "IndexError" .exception) "list index out of range")

def getModelEndpointHash (entry : String × String) : String := digest (entry.1 ++ entry.2)

/-- The entries that are not skipped, and their positions. -/
def kept (unhealthy : List String) : List ((String × String) × Nat) :=
  self.entries.zipIdx.filter fun e => !unhealthy.contains (getModelEndpointHash digest e.1)

def getEndpointInfo (enginesId unhealthy : List String) : Except PyExc (List EndpointInfo) :=
  (self.kept digest unhealthy).mapM fun ((url, model), i) => do
    let label ← self.labelAt i
    pure ⟨url, [model], enginesId.getD i "", some label, false⟩

/-! `get_unhealthy_endpoint_hashes`. -/

/-- What a round asks: each entry with its type, as far as both lists go. -/
def probes (types : List String) : List ((String × String) × String) := self.entries.zip types

/-- The loop over the entries: the digests, and the exception that ended it. -/
def checkEach : List (((String × String) × String) × Except PyExc Unit) →
    List String × Option PyExc
  | [] => ([], none)
  | ((entry, modelType), exchange) :: rest =>
    match isModelHealthy modelType exchange with
    | .error e => ([], some e)
    | .ok true => checkEach rest
    | .ok false =>
      let more := checkEach rest
      (getModelEndpointHash digest entry :: more.1, more.2)

/-- `zip(..., strict=True)` raises when one of the lists ends before the others. -/
def endOfZip (types : List String) : Option PyExc :=
  if types.length = self.urls.length then none
  else some (.new .valueError "zip() arguments have different lengths")

/-- One round. `exchanges` are those of the entries, by their positions. -/
def getUnhealthyEndpointHashes (exchanges : Nat → Except PyExc Unit) :
    Except PyExc (List String) :=
  match self.modelTypes with
  | none => .error (.new .typeError "'NoneType' object is not iterable")
  | some types =>
    let checked := checkEach digest ((self.probes types).zipIdx.map fun p => (p.1, exchanges p.2))
    match checked.2.or (self.endOfZip types) with
    | none => .ok checked.1
    | some e => if e.isInstance [.valueError] then .ok checked.1 else .error e

end StaticDiscovery

/-! What a round finds. -/

/-- The entries whose check failed. -/
def failedEntries (entries : List (String × String)) (healthy : Nat → Bool) :
    List (String × String) :=
  (entries.zipIdx.filter fun e => !healthy e.2).map Prod.fst

variable {self : StaticDiscovery} {digest : String → String} {types : List String}
  {exchanges : Nat → Except PyExc Unit}

section Round

variable {healthy : Nat → Bool}

theorem checkEach_of_verdicts {probes : List ((String × String) × String)}
    {start : Nat} (h : ∀ p ∈ probes.zipIdx start,
      isModelHealthy p.1.2 (exchanges p.2) = .ok (healthy p.2)) :
    StaticDiscovery.checkEach digest ((probes.zipIdx start).map fun p => (p.1, exchanges p.2)) =
      (((probes.zipIdx start).filter fun p => !healthy p.2).map fun p =>
        StaticDiscovery.getModelEndpointHash digest p.1.1, none) := by
  induction probes generalizing start with
  | nil => rfl
  | cons probe rest ih =>
    rw [List.zipIdx_cons, List.forall_mem_cons] at h
    rw [List.zipIdx_cons, List.map_cons, StaticDiscovery.checkEach, h.1, ih h.2, List.filter_cons]
    cases healthy start <;> rfl

/-- A round in which every entry gets a verdict collects the digests of those that
failed. -/
theorem hashes_of_verdicts (htypes : self.modelTypes = some types)
    (hlength : types.length = self.urls.length)
    (h : ∀ p ∈ (self.probes types).zipIdx, isModelHealthy p.1.2 (exchanges p.2) = .ok (healthy p.2)) :
    self.getUnhealthyEndpointHashes digest exchanges = .ok ((failedEntries self.entries healthy).map
      (StaticDiscovery.getModelEndpointHash digest)) := by
  have hentries : self.entries = (self.probes types).map Prod.fst := by
    refine (List.map_fst_zip ?_).symm
    simp [StaticDiscovery.entries, hlength, self.paired]
  rw [StaticDiscovery.getUnhealthyEndpointHashes, htypes]
  simp only [checkEach_of_verdicts h, StaticDiscovery.endOfZip, hlength, if_true, Option.or_none]
  rw [hentries, failedEntries, List.zipIdx_map, List.filter_map, List.map_map, List.map_map]
  rfl

end Round

/-! What is listed. -/

section Listing

theorem kept_entries (unhealthy : List String) : (self.kept digest unhealthy).map Prod.fst =
    self.entries.filter fun e => !unhealthy.contains (StaticDiscovery.getModelEndpointHash digest e) := by
  conv_rhs => rw [← List.zipIdx_map_fst 0 self.entries, List.filter_map]
  rfl

theorem listed_entries {enginesId unhealthy : List String} {infos : List EndpointInfo}
    (h : self.getEndpointInfo digest enginesId unhealthy = .ok infos) :
    infos.map (fun info => (info.url, info.modelNames)) =
      ((self.kept digest unhealthy).map Prod.fst).map fun e => (e.1, [e.2]) := by
  rw [List.map_map]
  refine map_of_mapM ?_ h
  rintro ⟨⟨url, model⟩, i⟩ info hinfo
  obtain ⟨label, -, ⟨⟩⟩ := bind_ok hinfo
  rfl

/-- After a round that gives every entry a verdict, exactly the entries that have not
failed are listed, unless one of them reads like one that has: the URL and the model are
hashed without a separator. -/
theorem listed_exactly_iff (self : StaticDiscovery) (exchanges : Nat → Except PyExc Unit)
    (hdigest : Function.Injective digest) {types : List String} {healthy : Nat → Bool}
    {hashes enginesId : List String} {infos : List EndpointInfo}
    (htypes : self.modelTypes = some types) (hlength : types.length = self.urls.length)
    (hverdicts : ∀ p ∈ (self.probes types).zipIdx,
      isModelHealthy p.1.2 (exchanges p.2) = .ok (healthy p.2))
    (hround : self.getUnhealthyEndpointHashes digest exchanges = .ok hashes)
    (hlisted : self.getEndpointInfo digest enginesId hashes = .ok infos) :
    infos.map (fun info => (info.url, info.modelNames)) =
        (self.entries.filter (· ∉ failedEntries self.entries healthy)).map (fun e => (e.1, [e.2])) ↔
      ∀ entry ∈ self.entries, entry ∉ failedEntries self.entries healthy →
        ∀ failed ∈ failedEntries self.entries healthy,
          failed.1 ++ failed.2 ≠ entry.1 ++ entry.2 := by
  rw [hashes_of_verdicts htypes hlength hverdicts] at hround
  obtain rfl := Except.ok.inj hround
  have hinjective : Function.Injective fun e : String × String => (e.1, [e.2]) := by
    rintro ⟨_, _⟩ ⟨_, _⟩ ⟨⟩
    rfl
  have hhidden (entry : String × String) :
      ((failedEntries self.entries healthy).map
        (StaticDiscovery.getModelEndpointHash digest)).contains
          (StaticDiscovery.getModelEndpointHash digest entry) = true ↔
        ∃ failed ∈ failedEntries self.entries healthy, failed.1 ++ failed.2 = entry.1 ++ entry.2 := by
    simp [StaticDiscovery.getModelEndpointHash, hdigest.eq_iff]
  rw [listed_entries hlisted, kept_entries, (List.map_injective_iff.mpr hinjective).eq_iff]
  constructor
  · intro hsame entry hentry hhealthy failed hfailed hread
    have hmem : entry ∈ self.entries.filter (· ∉ failedEntries self.entries healthy) :=
      List.mem_filter.mpr ⟨hentry, by simpa using hhealthy⟩
    rw [← hsame, List.mem_filter, (hhidden entry).mpr ⟨failed, hfailed, hread⟩] at hmem
    cases hmem.2
  · intro hapart
    apply List.filter_congr
    intro entry hentry
    by_cases hfailed : entry ∈ failedEntries self.entries healthy
    · rw [(hhidden entry).mpr ⟨entry, hfailed, rfl⟩]
      simpa using hfailed
    · have hshown := mt (hhidden entry).mp (by simpa using hapart entry hentry hfailed)
      rw [Bool.not_eq_true] at hshown
      rw [hshown]
      simpa using hfailed

/-- Two different backends that read alike. -/
def readAlike : StaticDiscovery where
  urls := ["http://a/", "http://a/b"]
  models := ["bc", "c"]
  paired := rfl
  aliases := none
  modelLabels := none
  modelTypes := some ["chat", "chat"]
  healthChecks := .json (.bool true)
  healthCheckInterval := .json (.int 60)
  healthCheckTimeout := .json (.int 10)
  prefillModelLabels := .null
  decodeModelLabels := .null

theorem listed_exactly_all_healthy : ∃ infos, readAlike.getEndpointInfo id [] [] = .ok infos ∧
    infos.map (fun info => (info.url, info.modelNames)) =
      (readAlike.entries.filter (· ∉ failedEntries readAlike.entries fun _ => true)).map
        fun e => (e.1, [e.2]) := by
  refine ⟨_, rfl, ?_⟩
  refine (listed_exactly_iff readAlike (fun _ => .ok ()) Function.injective_id rfl rfl ?_ rfl
    rfl).mpr ?_
  · simp [readAlike, StaticDiscovery.probes, StaticDiscovery.entries, isModelHealthy, modelTypes]
  · exact fun _ _ _ _ hfailed => absurd hfailed (by simp [failedEntries])

/-- The first backend fails its check, and the second, which passes, is not listed. -/
theorem healthy_backend_hidden :
    readAlike.getUnhealthyEndpointHashes id (fun i =>
        if i = 0 then .error (.new requestException "") else .ok ()) = .ok ["http://a/bc"] ∧
      readAlike.getEndpointInfo id [] ["http://a/bc"] = .ok [] ∧
      ("http://a/b", "c") ∈ readAlike.entries ∧
      ("http://a/b", "c") ∉ failedEntries readAlike.entries (· ≠ 0) := by
  refine ⟨rfl, rfl, by decide, by decide⟩

end Listing

/-! The labels. -/

/-- A start or a reload constructs it from a text of backends. -/
inductive Constructed (backends : String) (d : StaticDiscovery) : Prop where
  | atStartup (kube : KubeClient) (args : Namespace)
      (hbackends : args (.field .staticBackends) = .str backends)
      (hcreated : createAtStartup kube args = .ok (.static d))
  | atReload (kube : KubeClient) (config : DynamicRouterConfig)
      (hbackends : config .staticBackends = .str backends)
      (hcreated : createAtReload kube config = .ok (.static d))

/-- The positions that the URLs have in the text: those that are not valid are dropped. -/
def positionsOf (backends : String) : List Nat :=
  ((splitOn backends ',').zipIdx.filter fun e => validateUrl e.1).map Prod.snd

/-- The label that was given at the position of the `i`th URL. Without labels it is the
default. -/
def StaticDiscovery.labelGiven (d : StaticDiscovery) (backends : String) (i : Nat) :
    Option String :=
  (positionsOf backends)[i]?.bind fun position =>
    d.modelLabels.elim (some "default") fun labels => labels[position]?

section Labels

variable {backends : String} {d : StaticDiscovery}

theorem parseCommaSeparatedArgs_ne_nil {v : Value} : parseCommaSeparatedArgs v ≠ .ok (some []) := by
  intro h
  rcases parseCommaSeparatedArgs_ok h with ⟨-, ⟨⟩⟩ | ⟨s, -, hitems⟩
  exact List.splitOn_ne_nil ',' s.toList (List.map_eq_nil_iff.mp (Option.some.inj hitems).symm)

theorem Constructed.urls_and_labels (h : Constructed backends d) :
    d.urls = (splitOn backends ',').filter validateUrl ∧ d.modelLabels ≠ some [] := by
  cases h with
  | atStartup kube args hbackends hcreated =>
    rcases createAtStartup_ok hcreated with ⟨_, ⟨⟩, hstatic⟩ | ⟨-, hclass, -⟩
    · have hurls := hstatic.urls
      have hlabels := hstatic.modelLabels
      rw [hbackends] at hurls
      refine ⟨(Except.ok.inj hurls).symm, fun hnil => ?_⟩
      unfold unlessEmpty at hlabels
      rw [hnil] at hlabels
      split at hlabels
      · exact parseCommaSeparatedArgs_ne_nil hlabels
      · cases hlabels
    · exact absurd rfl hclass
  | atReload kube config hbackends hcreated =>
    rcases createAtReload_ok hcreated with ⟨_, ⟨⟩, hstatic⟩ | ⟨-, _, ⟨⟩⟩
    have hurls := hstatic.urls
    rw [hbackends] at hurls
    refine ⟨(Except.ok.inj hurls).symm, fun hnil => ?_⟩
    exact parseCommaSeparatedArgs_ne_nil (hnil ▸ hstatic.modelLabels)

theorem length_positionsOf (backends : String) :
    (positionsOf backends).length = ((splitOn backends ',').filter validateUrl).length := by
  conv_rhs => rw [← List.zipIdx_map_fst 0 (splitOn backends ','), List.filter_map]
  simp only [positionsOf, List.length_map]
  rfl

/-- The label of an endpoint is the one given at its own position. -/
theorem labelAt_given_iff (hlabels : d.modelLabels ≠ some []) {i position : Nat}
    (hposition : (positionsOf backends)[i]? = some position) :
    (∃ label, d.labelAt i = .ok label ∧ d.labelGiven backends i = some label) ↔
      ∀ labels, d.modelLabels = some labels →
        ∃ label, labels[i]? = some label ∧ labels[position]? = some label := by
  unfold StaticDiscovery.labelAt StaticDiscovery.labelGiven
  rw [hposition, Option.bind_some]
  cases hmodel : d.modelLabels with
  | none => simp
  | some labels =>
    cases labels with
    | nil => exact absurd hmodel hlabels
    | cons first rest =>
      cases hlabel : (first :: rest)[i]? with
      | none => simp [hlabel]
      | some label => simp [hlabel]

theorem static_labels_iff (h : Constructed backends d) :
    (∀ digest enginesId unhealthy, ∃ infos,
        d.getEndpointInfo digest enginesId unhealthy = .ok infos ∧
        List.Forall₂ (fun e info => info.modelLabel.isSome ∧
          info.modelLabel = d.labelGiven backends e.2) (d.kept digest unhealthy) infos) ↔
      ∀ labels, d.modelLabels = some labels → ∀ i position : Nat,
        (positionsOf backends)[i]? = some position →
          ∃ label, labels[i]? = some label ∧ labels[position]? = some label := by
  obtain ⟨hurls, hlabels⟩ := h.urls_and_labels
  have hlength : d.entries.length = (positionsOf backends).length := by
    rw [length_positionsOf, ← hurls]
    simp [StaticDiscovery.entries, ← d.paired]
  simp only [StaticDiscovery.getEndpointInfo, mapM_ok_forall₂_iff]
  constructor
  · intro hlisted labels hmodel i position hposition
    have hbound : i < d.entries.length := by
      rw [hlength]
      exact (List.getElem?_eq_some_iff.mp hposition).1
    have hkept : (d.entries[i], i) ∈ d.kept id [] := by
      simp [StaticDiscovery.kept, List.mem_zipIdx_iff_getElem?, hbound]
    obtain ⟨info, hinfo, -, hgiven⟩ := hlisted id [] [] _ hkept
    obtain ⟨label, hlabel, ⟨⟩⟩ := bind_ok hinfo
    exact (labelAt_given_iff hlabels hposition).mp ⟨label, hlabel, hgiven.symm⟩ labels hmodel
  · intro hgiven digest enginesId unhealthy e he
    have hentry := List.mem_zipIdx_iff_getElem?.mp (List.mem_of_mem_filter he)
    have hbound : e.2 < (positionsOf backends).length := by
      rw [← hlength]
      exact (List.getElem?_eq_some_iff.mp hentry).1
    obtain ⟨label, hlabel, hown⟩ := (labelAt_given_iff hlabels
      (List.getElem?_eq_getElem hbound)).mpr fun labels hmodel =>
        hgiven labels hmodel e.2 _ (List.getElem?_eq_getElem hbound)
    refine ⟨⟨e.1.1, [e.1.2], enginesId.getD e.2 "", some label, false⟩, ?_, rfl, hown.symm⟩
    rw [hlabel]
    rfl

end Labels

/-- A file that a reload reads. -/
def reloadOf (labels types : Value) : DynamicRouterConfig
  | .serviceDiscovery => .str "static"
  | .staticBackends => .str "http://a/,http://a/b"
  | .staticModels => .str "bc,c"
  | .staticModelLabels => labels
  | .staticModelTypes => types
  | .staticBackendHealthChecks => .json (.bool true)
  | .staticBackendHealthCheckInterval => .json (.int 60)
  | .staticBackendHealthCheckTimeoutSeconds => .json (.int 10)
  | _ => .null

theorem static_labels_two : ∃ infos,
    { readAlike with modelLabels := some ["x", "y"] }.getEndpointInfo id [] [] = .ok infos := by
  have hcreated : Constructed "http://a/,http://a/b"
      { readAlike with modelLabels := some ["x", "y"] } :=
    .atReload (.ok ()) (reloadOf (.str "x,y") (.str "chat,chat")) rfl rfl
  obtain ⟨infos, hinfos, -⟩ := (static_labels_iff hcreated).mpr (by
    rintro _ ⟨⟩ i position hposition
    have hpositions : positionsOf "http://a/,http://a/b" = [0, 1] := rfl
    rcases i with _ | _ | i
    · exact ⟨"x", rfl, by rw [← Option.some.inj hposition]; rfl⟩
    · exact ⟨"y", rfl, by rw [← Option.some.inj hposition]; rfl⟩
    · cases hposition) id [] []
  exact ⟨infos, hinfos⟩

/-- One label for two backends. -/
theorem too_few_labels :
    createAtReload (.ok ()) (reloadOf (.str "x") (.str "chat,chat")) =
        .ok (.static { readAlike with modelLabels := some ["x"] }) ∧
      { readAlike with modelLabels := some ["x"] }.getEndpointInfo id [] [] =
        .error (.new (.derived "IndexError" .exception) "list index out of range") :=
  ⟨rfl, rfl⟩

/-! The loop of `check_model_health`. -/

inductive HealthAct where
  | round
  | sleep (interval : Value)

/-- Where the coroutine stands: at the head of its loop, at its `await`, or at its end. -/
inductive HealthPhase where
  | checking
  | sleeping
  | ended

structure HealthTask where
  running : Bool
  phase : HealthPhase
  unhealthyEndpointHashes : List String
  acts : List HealthAct

/-- The task as `start_health_check_task` starts it. -/
def HealthTask.start : HealthTask := ⟨true, .checking, [], []⟩

/-- What may happen next: the coroutine goes on up to its `await` or its next round, its
sleep is over, another thread calls `close`, or what `close` has sent to the event loop
cancels the task. -/
inductive Moment where
  | turn (exchanges : Nat → Except PyExc Unit)
  | timer
  | close
  | shutdown

def Moment.isClose : Moment → Bool
  | .close => true
  | _ => false

namespace StaticDiscovery

variable (self : StaticDiscovery) (digest : String → String) (sleeps : Value → Bool)

/-- The body of the loop. An exception, also one of `asyncio.sleep`, is logged. -/
def turn (exchanges : Nat → Except PyExc Unit) (t : HealthTask) : HealthTask :=
  match self.getUnhealthyEndpointHashes digest exchanges with
  | .error _ => { t with acts := t.acts ++ [.round] }
  | .ok hashes =>
    let t := { t with unhealthyEndpointHashes := hashes, acts := t.acts ++ [.round] }
    if sleeps self.healthCheckInterval then
      { t with phase := .sleeping, acts := t.acts ++ [.sleep self.healthCheckInterval] }
    else t

/-- `sleeps` says which values `asyncio.sleep` takes. The task is cancelled only at its
`await`: elsewhere it has the event loop for itself. -/
def step (t : HealthTask) : Moment → Option HealthTask
  | .close => some { t with running := false }
  | .turn exchanges =>
    match t.phase with
    | .checking =>
      some (if t.running then self.turn digest sleeps exchanges t else { t with phase := .ended })
    | _ => none
  | .timer =>
    match t.phase with
    | .sleeping => some { t with phase := .checking }
    | _ => none
  | .shutdown =>
    match t.phase, t.running with
    | .sleeping, false => some { t with phase := .ended }
    | _, _ => none

def run (t : HealthTask) (moments : List Moment) : Option HealthTask :=
  moments.foldlM (self.step digest sleeps) t

/-- The first exception that a check raises. -/
def raised (types : List String) (exchanges : Nat → Except PyExc Unit) : Option PyExc :=
  (self.probes types).zipIdx.findSome? fun p =>
    match isModelHealthy p.1.2 (exchanges p.2) with
    | .error e => some e
    | .ok _ => none

end StaticDiscovery

/-- After a round comes a sleep of the interval. -/
def Paced (interval : Value) (acts : List HealthAct) : Prop :=
  acts.IsChain fun act next => act = .round → next = .sleep interval

/-- How many moves are left after `close`. -/
def HealthPhase.left : HealthPhase → Nat
  | .checking => 1
  | .sleeping => 2
  | .ended => 0

section Loop

variable {sleeps : Value → Bool} {t t' : HealthTask}

theorem checkEach_raised (probes : List (((String × String) × String) × Nat)) :
    (StaticDiscovery.checkEach digest (probes.map fun p => (p.1, exchanges p.2))).2 =
      probes.findSome? fun p => match isModelHealthy p.1.2 (exchanges p.2) with
        | .error e => some e
        | .ok _ => none := by
  induction probes with
  | nil => rfl
  | cons p rest ih =>
    rw [List.map_cons, StaticDiscovery.checkEach, List.findSome?_cons]
    cases isModelHealthy p.1.2 (exchanges p.2) with
    | error e => rfl
    | ok healthy => cases healthy <;> exact ih

/-- A round returns if it has types, and the first exception is one that it handles. -/
theorem round_returns_iff : (∃ hashes, self.getUnhealthyEndpointHashes digest exchanges = .ok hashes) ↔
    ∃ types, self.modelTypes = some types ∧
      ∀ e ∈ self.raised types exchanges, e.isInstance [.valueError] = true := by
  unfold StaticDiscovery.getUnhealthyEndpointHashes
  cases self.modelTypes with
  | none => simp
  | some types =>
    have hraised : (StaticDiscovery.checkEach digest
        ((self.probes types).zipIdx.map fun p => (p.1, exchanges p.2))).2 =
          self.raised types exchanges := checkEach_raised _
    simp only [Option.some.injEq, exists_eq_left', hraised]
    cases self.raised types exchanges with
    | some e => cases hvalue : e.isInstance [.valueError] <;> simp [hvalue]
    | none =>
      rw [Option.none_or, StaticDiscovery.endOfZip]
      split_ifs <;> simp [PyExc.isInstance, PyExc.new, ExcClass.mro]

variable {moment : Moment} {moments : List Moment}

/-- After `close` every move brings the end nearer, and there is one until it is there. -/
theorem step_closed (hclosed : t.running = false) (h : self.step digest sleeps t moment = some t') :
    t'.running = false ∧ t'.phase.left + (if moment.isClose then 0 else 1) ≤ t.phase.left := by
  obtain ⟨running, phase, hashes, acts⟩ := t
  cases hclosed
  cases moment <;> cases phase <;> cases h <;> simp [HealthPhase.left, Moment.isClose]

theorem run_closed (hclosed : t.running = false) (h : self.run digest sleeps t moments = some t') :
    t'.running = false ∧ t'.phase.left + moments.countP (!·.isClose) ≤ t.phase.left := by
  induction moments generalizing t with
  | nil =>
    cases h
    exact ⟨hclosed, Nat.le_refl _⟩
  | cons moment rest ih =>
    obtain ⟨t₁, hstep, hrest⟩ := Option.bind_eq_some_iff.mp h
    obtain ⟨hclosed₁, hleft⟩ := step_closed hclosed hstep
    obtain ⟨hclosed', hcount⟩ := ih hclosed₁ hrest
    refine ⟨hclosed', ?_⟩
    cases hclose : moment.isClose <;> simp [hclose] at hleft ⊢ <;> omega

/-- With rounds that return and an interval to sleep, the loop keeps its pace; and it
stands at its `await` when it has just slept. -/
structure KeepsPace (interval : Value) (t : HealthTask) : Prop where
  paced : Paced interval t.acts
  rested : ∀ act ∈ t.acts.getLast?, act = .sleep interval

theorem keepsPace_step (hsleeps : sleeps self.healthCheckInterval = true)
    (hreturns : ∀ exchanges, moment = .turn exchanges →
      ∃ hashes, self.getUnhealthyEndpointHashes digest exchanges = .ok hashes)
    (ht : KeepsPace self.healthCheckInterval t) (h : self.step digest sleeps t moment = some t') :
    KeepsPace self.healthCheckInterval t' := by
  obtain ⟨running, phase, hashes, acts⟩ := t
  cases moment with
  | turn exchanges =>
    obtain ⟨found, hround⟩ := hreturns exchanges rfl
    cases phase with
    | checking =>
      cases running with
      | false =>
        cases h
        exact ⟨ht.paced, ht.rested⟩
      | true =>
        simp only [StaticDiscovery.step, StaticDiscovery.turn, hround, hsleeps, if_true,
          Option.some.injEq] at h
        subst h
        refine ⟨?_, by simp⟩
        rw [Paced, List.append_assoc, List.isChain_append]
        refine ⟨ht.paced, by simp, ?_⟩
        intro last hlast
        rw [ht.rested last hlast]
        simp
    | _ => cases h
  | close =>
    cases h
    exact ⟨ht.paced, ht.rested⟩
  | timer | shutdown =>
    cases phase <;> cases running <;> cases h <;> exact ⟨ht.paced, ht.rested⟩

theorem keepsPace_run (hsleeps : sleeps self.healthCheckInterval = true)
    (hreturns : ∀ exchanges, .turn exchanges ∈ moments →
      ∃ hashes, self.getUnhealthyEndpointHashes digest exchanges = .ok hashes)
    (ht : KeepsPace self.healthCheckInterval t) (h : self.run digest sleeps t moments = some t') :
    KeepsPace self.healthCheckInterval t' := by
  induction moments generalizing t with
  | nil =>
    cases h
    exact ht
  | cons moment rest ih =>
    obtain ⟨t₁, hstep, hrest⟩ := Option.bind_eq_some_iff.mp h
    refine ih (fun x hx => hreturns x (List.mem_cons_of_mem _ hx)) ?_ hrest
    exact keepsPace_step hsleeps (fun x hx => hreturns x (hx ▸ List.mem_cons_self)) ht hstep

/-- Otherwise the coroutine is at once at the head of its loop again. -/
theorem turn_restless (h : ¬ (sleeps self.healthCheckInterval = true ∧
      ∃ hashes, self.getUnhealthyEndpointHashes digest exchanges = .ok hashes)) (t : HealthTask) :
    (self.turn digest sleeps exchanges t).phase = t.phase ∧
      (self.turn digest sleeps exchanges t).running = t.running ∧
      (self.turn digest sleeps exchanges t).acts = t.acts ++ [.round] := by
  unfold StaticDiscovery.turn
  cases hround : self.getUnhealthyEndpointHashes digest exchanges with
  | error e => exact ⟨rfl, rfl, rfl⟩
  | ok hashes =>
    have hsleeps : ¬ sleeps self.healthCheckInterval = true := fun hs => h ⟨hs, hashes, hround⟩
    simp only [if_neg hsleeps, and_self]

/-- Whatever is among the exchanges that may happen, the loop paces itself and stops:
if there are types, the first exception that a check raises is a `ValueError`, and the
interval can be slept. -/
theorem health_loop_iff (self : StaticDiscovery) (digest : String → String)
    (sleeps : Value → Bool) {possible : Set (Nat → Except PyExc Unit)}
    (hpossible : possible.Nonempty) :
    (∀ moments t, self.run digest sleeps .start moments = some t →
        (∀ exchanges, .turn exchanges ∈ moments → exchanges ∈ possible) →
        Paced self.healthCheckInterval t.acts ∧
          (t.running = false → ∀ later t', self.run digest sleeps t later = some t' →
            later.countP (!·.isClose) ≤ 2 ∧ (t'.phase = .ended ∨
              ∃ moment t'', moment.isClose = false ∧ self.step digest sleeps t' moment = some t''))) ↔
      sleeps self.healthCheckInterval = true ∧ ∃ types, self.modelTypes = some types ∧
        ∀ exchanges ∈ possible, ∀ e ∈ self.raised types exchanges, e.isInstance [.valueError] = true := by
  constructor
  · intro h
    have hround : ∀ exchanges ∈ possible, sleeps self.healthCheckInterval = true ∧
        ∃ hashes, self.getUnhealthyEndpointHashes digest exchanges = .ok hashes := by
      intro exchanges hexchanges
      by_contra hrestless
      -- two turns of the coroutine, one right after the other
      have hrun : self.run digest sleeps .start [.turn exchanges, .turn exchanges] =
          some (self.turn digest sleeps exchanges (self.turn digest sleeps exchanges .start)) := by
        simp [StaticDiscovery.run, StaticDiscovery.step, turn_restless hrestless, HealthTask.start]
      have hpaced := (h _ _ hrun (by simpa using hexchanges)).1
      simp [turn_restless hrestless, HealthTask.start, Paced] at hpaced
    obtain ⟨exchanges, hexchanges⟩ := hpossible
    obtain ⟨types, htypes, -⟩ := round_returns_iff.mp (hround exchanges hexchanges).2
    refine ⟨(hround exchanges hexchanges).1, types, htypes, fun x hx => ?_⟩
    obtain ⟨types', htypes', hvalue⟩ := round_returns_iff.mp (hround x hx).2
    obtain rfl := Option.some.inj (htypes.symm.trans htypes')
    exact hvalue
  · rintro ⟨hsleeps, types, htypes, hvalue⟩ moments t hrun hmoments
    have hstart : KeepsPace self.healthCheckInterval .start := by
      refine ⟨List.IsChain.nil, ?_⟩
      rintro _ ⟨⟩
    refine ⟨(keepsPace_run hsleeps ?_ hstart hrun).paced, ?_⟩
    · exact fun x hx => round_returns_iff.mpr ⟨types, htypes, hvalue x (hmoments x hx)⟩
    · intro hclosed later t' hlater
      have hleft := (run_closed hclosed hlater).2
      refine ⟨?_, ?_⟩
      · have htwo : t.phase.left ≤ 2 := by cases t.phase <;> decide
        omega
      · cases hphase : t'.phase with
        | ended => exact .inl rfl
        | checking => exact .inr ⟨.turn fun _ => .ok (), _, rfl, by rw [StaticDiscovery.step, hphase]⟩
        | sleeping => exact .inr ⟨.timer, _, rfl, by rw [StaticDiscovery.step, hphase]⟩

theorem health_loop_two_rounds : ∃ t,
    readAlike.run id (fun _ => true) .start
        [.turn fun _ => .ok (), .timer, .turn fun _ => .ok ()] = some t ∧
      Paced (.json (.int 60)) t.acts := by
  have hquiet : ∀ exchanges ∈ ({fun _ => .ok ()} : Set (Nat → Except PyExc Unit)),
      ∀ e ∈ readAlike.raised ["chat", "chat"] exchanges, e.isInstance [.valueError] = true := by
    rintro _ rfl e ⟨⟩
  have hloop := (health_loop_iff readAlike id (fun _ => true)
    (Set.singleton_nonempty _)).mpr ⟨rfl, _, rfl, hquiet⟩
  exact ⟨_, rfl, (hloop [.turn fun _ => .ok (), .timer, .turn fun _ => .ok ()] _ rfl (by simp)).1⟩

/-- After a reload without types every round raises, and the next one follows at once. -/
theorem health_loop_spins :
    createAtReload (.ok ()) (reloadOf .null .null) =
        .ok (.static { readAlike with modelTypes := none }) ∧
      { readAlike with modelTypes := none }.run id (fun _ => true) .start
          [.turn fun _ => .ok (), .turn fun _ => .ok ()] =
        some ⟨true, .checking, [], [.round, .round]⟩ :=
  ⟨rfl, rfl⟩

end Loop

end ProductionStack.Config

import Mathlib.Data.List.Induction
import ProductionStack.Operator.VLLMRuntime

/-!
The update check on a deployment that was built from a spec. What it compares
comes in two parts. First the replicas, the model, the port, the image, the
resources and the configuration of the cache, as far as the environment shows it;
then it follows the pointers to the node affinities of both deployments, which may
not be there, and compares what is left.
-/

namespace ProductionStack.Operator

open Lib

variable {Q : Type}

/-- The resource quantities of the spec parse. -/
structure QuantitiesParse (q : Quantities Q) (config : DeploymentConfig) : Prop where
  engine : config.resources.Parses q
  sidecar : config.sidecarConfig.enabled = true → config.sidecarConfig.resources.Parses q

section Build

variable {q : Quantities Q} {vr : VLLMRuntime}

theorem sidecars_ok (h : QuantitiesParse q vr.spec.deploymentConfig) :
    ∃ sidecars, vr.sidecars q = .ok sidecars := by
  unfold VLLMRuntime.sidecars
  split
  · next henabled =>
      obtain ⟨resources, hresources⟩ := buildResources_ok (some "0.5") (some "128Mi") (some "0")
        (h.sidecar henabled) (by simpa using q.half) (by simpa using q.mebibytes)
        (by simpa using q.zero)
      unfold VLLMRuntime.buildSidecarContainer
      dsimp only
      rw [hresources]
      exact ⟨_, rfl⟩
  · exact ⟨[], rfl⟩

/-- A spec whose quantities parse has a deployment. -/
theorem deploymentForVLLMRuntime_ok (h : QuantitiesParse q vr.spec.deploymentConfig) :
    ∃ dep, deploymentForVLLMRuntime vr q = .ok dep := by
  obtain ⟨resources, hresources⟩ : ∃ resources, vr.resources q = .ok resources :=
    buildResources_ok none none none h.engine (by simp) (by simp) (by simp)
  obtain ⟨sidecars, hsidecars⟩ := sidecars_ok h
  refine ⟨vr.deployment q resources sidecars, ?_⟩
  unfold deploymentForVLLMRuntime
  rw [hresources, hsidecars]
  rfl

/-- What a deployment that was built consists of. -/
theorem deployment_of_built {dep : Deployment Q} (h : deploymentForVLLMRuntime vr q = .ok dep) :
    ∃ resources sidecars, vr.resources q = .ok resources ∧ vr.sidecars q = .ok sidecars ∧
      dep = vr.deployment q resources sidecars := by
  obtain ⟨resources, hresources, h⟩ := bind_ok h
  obtain ⟨sidecars, hsidecars, h⟩ := bind_ok h
  exact ⟨resources, sidecars, hresources, hsidecars, (Except.ok.inj h).symm⟩

end Build

/-! What is compared. -/

/-- Before the pointer to the affinity is followed. -/
def DifferBefore (v w : VLLMRuntime) (resources expected : ResourceRequirements Q) : Prop :=
  v.spec.deploymentConfig.replicas ≠ w.spec.deploymentConfig.replicas ∨
  w.spec.model.modelURL ≠ v.spec.model.modelURL ∨
  w.spec.vllmConfig.port ≠ v.spec.vllmConfig.port ∨
  w.spec.deploymentConfig.image.image ≠ v.spec.deploymentConfig.image.image ∨
  ¬ expected.Same resources ∨
  w.spec.lmCacheConfig ≠ actualLMCacheConfig v.env

/-- There is a node affinity in both deployments. -/
def BothPinned (v w : VLLMRuntime) : Prop :=
  v.spec.deploymentConfig.nodeSelectorTerms.isSome = true ∧
    w.spec.deploymentConfig.nodeSelectorTerms.isSome = true

/-- After it. Of the annotations only those that are expected are looked up. -/
def DifferAfter (q : Quantities Q) (v w : VLLMRuntime) : Prop :=
  w.spec.deploymentConfig.nodeSelectorTerms ≠ v.spec.deploymentConfig.nodeSelectorTerms ∨
  w.spec.deploymentConfig.toleration ≠ v.spec.deploymentConfig.toleration ∨
  w.spec.deploymentConfig.runtimeClass ≠ v.spec.deploymentConfig.runtimeClass ∨
  (∃ entry ∈ w.spec.deploymentConfig.podAnnotations.entries,
    (v.spec.deploymentConfig.podAnnotations.get? entry.1).getD "" ≠ entry.2) ∨
  findVolumeByName (w.volumes q) "dshm" ≠ findVolumeByName (v.volumes q) "dshm" ∨
  findVolumeMountByName w.volumeMounts "dshm" ≠ findVolumeMountByName v.volumeMounts "dshm"

section Built

variable [DecidableEq Q] {q : Quantities Q} {v w : VLLMRuntime}
  {resources expected : ResourceRequirements Q} {sidecars sidecars' : List (Container Q)}

instance : Decidable (DifferBefore v w resources expected) :=
  inferInstanceAs (Decidable (_ ∨ _))

instance : Decidable (BothPinned v w) := inferInstanceAs (Decidable (_ ∧ _))

instance : Decidable (DifferAfter q v w) := inferInstanceAs (Decidable (_ ∨ _))

variable (h : deploymentForVLLMRuntime w q = .ok (w.deployment q expected sidecars'))

include h

/-- The first part of the check, and then the second. -/
theorem deploymentNeedsUpdate_parts :
    deploymentNeedsUpdate q (v.deployment q resources sidecars) w =
      if DifferBefore v w resources expected then .ok true
      else deref v.affinity >>= fun actual => deref w.affinity >>= fun affinity =>
        if affinity.nodeAffinity ≠ actual.nodeAffinity then .ok true
        else if w.spec.deploymentConfig.toleration ≠ v.spec.deploymentConfig.toleration ∨
          some w.spec.deploymentConfig.runtimeClass ≠ some v.spec.deploymentConfig.runtimeClass ∨
          (∃ entry ∈ w.spec.deploymentConfig.podAnnotations.entries,
            (v.spec.deploymentConfig.podAnnotations.get? entry.1).getD "" ≠ entry.2) ∨
          findVolumeByName (w.volumes q) "dshm" ≠ findVolumeByName (v.volumes q) "dshm" ∨
          findVolumeMountByName w.volumeMounts "dshm" ≠ findVolumeMountByName v.volumeMounts "dshm"
        then .ok true else .ok false := by
  have hannotations : (w.spec.deploymentConfig.podAnnotations.entries.any fun entry =>
      (v.spec.deploymentConfig.podAnnotations.get? entry.1).getD "" ≠ entry.2) = true ↔
      ∃ entry ∈ w.spec.deploymentConfig.podAnnotations.entries,
        (v.spec.deploymentConfig.podAnnotations.get? entry.1).getD "" ≠ entry.2 := by
    simp
  unfold deploymentNeedsUpdate DifferBefore
  rw [h]
  simp only [ite_or, ← not_deepEqual_resources_iff, ← hannotations]
  rfl

theorem deploymentNeedsUpdate_built :
    deploymentNeedsUpdate q (v.deployment q resources sidecars) w =
      if DifferBefore v w resources expected then .ok true
      else if BothPinned v w then .ok (decide (DifferAfter q v w))
      else .error (.panic "invalid memory address or nil pointer dereference") := by
  rw [deploymentNeedsUpdate_parts h]
  refine if_congr Iff.rfl rfl ?_
  cases hactual : v.spec.deploymentConfig.nodeSelectorTerms with
  | none =>
    have haffinity : v.affinity = none := congrArg affinityOf hactual
    have hpinned : ¬ BothPinned v w := by simp [BothPinned, hactual]
    rw [haffinity, if_neg hpinned]
    rfl
  | some actual =>
    have haffinity : v.affinity = some ⟨some ⟨some (some actual)⟩⟩ := congrArg affinityOf hactual
    cases hterms : w.spec.deploymentConfig.nodeSelectorTerms with
    | none =>
      have hnone : w.affinity = none := congrArg affinityOf hterms
      have hpinned : ¬ BothPinned v w := by simp [BothPinned, hterms]
      rw [haffinity, hnone, if_neg hpinned]
      rfl
    | some terms =>
      have hexpected : w.affinity = some ⟨some ⟨some (some terms)⟩⟩ :=
        congrArg affinityOf hterms
      have hpinned : BothPinned v w := by simp [BothPinned, hactual, hterms]
      rw [haffinity, hexpected, if_pos hpinned]
      change (if (some _ : Option NodeAffinity) ≠ some _ then _ else _) = _
      rw [← ite_or]
      by_cases hdiffer : DifferAfter q v w
      · rw [decide_eq_true hdiffer]
        apply if_pos
        simpa [DifferAfter, hactual, hterms] using hdiffer
      · rw [decide_eq_false hdiffer]
        simpa [DifferAfter, hactual, hterms] using hdiffer

end Built

/-! What the environment shows of the configuration of the cache. -/

/-- The value of a variable: its last entry decides. -/
def lastValue (env : List EnvVar) (name : String) : Option String :=
  ((env.filter (·.name = name)).getLast?).map (·.value)

@[simp] theorem lastValue_nil (name : String) : lastValue [] name = none := rfl

theorem lastValue_append (front back : List EnvVar) (name : String) :
    lastValue (front ++ back) name = (lastValue back name).or (lastValue front name) := by
  simp only [lastValue, List.filter_append, List.getLast?_append]
  cases (back.filter (·.name = name)).getLast? <;> simp

variable {given : Option String} {value : String} (e : EnvVar) (vr : VLLMRuntime)

theorem lastValue_singleton (name : String) :
    lastValue [e] name = if e.name = name then some e.value else none := by
  by_cases h : e.name = name <;> simp [lastValue, h]

theorem lastValue_cons (env : List EnvVar) (name : String) : lastValue (e :: env) name =
      (lastValue env name).or (if e.name = name then some e.value else none) := by
  rw [← List.singleton_append, lastValue_append, lastValue_singleton]

/-- The loop leaves the last value of every variable. -/
theorem actualLMCacheConfig_eq (env : List EnvVar) : actualLMCacheConfig env =
      { enabled := (lastValue env "LMCACHE_USE_EXPERIMENTAL").getD "" = "True"
        cpuOffloadingBufferSize := (lastValue env "LMCACHE_MAX_LOCAL_CPU_SIZE").getD ""
        diskOffloadingBufferSize := (lastValue env "LMCACHE_MAX_LOCAL_DISK_SIZE").getD ""
        remoteURL := (lastValue env "LMCACHE_REMOTE_URL").getD ""
        remoteSerde := (lastValue env "LMCACHE_REMOTE_SERDE").getD "" } := by
  induction env using List.reverseRecOn with
  | nil => simp [actualLMCacheConfig]
  | append_singleton env e ih =>
    have hstep : actualLMCacheConfig (env ++ [e]) = readEnv (actualLMCacheConfig env) e := by
      simp [actualLMCacheConfig]
    rw [hstep, ih]
    simp only [lastValue_append, lastValue_singleton]
    unfold readEnv
    split
    all_goals simp_all

/-- What the operator itself writes. -/
theorem lastValue_lmcacheEnv (config : LMCacheConfig) :
    lastValue (VLLMRuntime.lmcacheEnv config) "LMCACHE_USE_EXPERIMENTAL" =
      (if config.enabled then some "True" else none) ∧
    lastValue (VLLMRuntime.lmcacheEnv config) "LMCACHE_MAX_LOCAL_CPU_SIZE" =
      (if config.enabled ∧ config.cpuOffloadingBufferSize ≠ "" then
        some config.cpuOffloadingBufferSize else none) ∧
    lastValue (VLLMRuntime.lmcacheEnv config) "LMCACHE_MAX_LOCAL_DISK_SIZE" =
      (if config.enabled ∧ config.diskOffloadingBufferSize ≠ "" then
        some config.diskOffloadingBufferSize else none) ∧
    lastValue (VLLMRuntime.lmcacheEnv config) "LMCACHE_REMOTE_URL" =
      (if config.enabled ∧ config.remoteURL ≠ "" then some config.remoteURL else none) ∧
    lastValue (VLLMRuntime.lmcacheEnv config) "LMCACHE_REMOTE_SERDE" =
      (if config.enabled ∧ config.remoteURL ≠ "" then some config.remoteSerde else none) := by
  unfold VLLMRuntime.lmcacheEnv whenever
  by_cases henabled : config.enabled = true
  · by_cases hcpu : config.cpuOffloadingBufferSize = ""
    all_goals by_cases hdisk : config.diskOffloadingBufferSize = ""
    all_goals by_cases hremote : config.remoteURL = ""
    all_goals simp [henabled, hcpu, hdisk, hremote, lastValue_cons, EnvVar.ofValue]
  · simp [henabled]

/-- A variable of the user hides the one of the operator. -/
theorem lastValue_env {name : String}
    (hname : name ∉ ["VLLM_USE_V1", "VLLM_ALLOW_RUNTIME_LORA_UPDATING", "HF_TOKEN"]) :
    lastValue vr.env name = (lastValue (userEnv vr.spec.vllmConfig.env) name).or
      (lastValue (VLLMRuntime.lmcacheEnv vr.spec.lmCacheConfig) name) := by
  have hv1 : "VLLM_USE_V1" ≠ name := by grind
  have hlora : "VLLM_ALLOW_RUNTIME_LORA_UPDATING" ≠ name := by grind
  have htoken : "HF_TOKEN" ≠ name := by grind
  unfold VLLMRuntime.env whenever
  simp only [lastValue_append]
  split_ifs
  all_goals simp [lastValue_singleton, EnvVar.ofValue, hv1, hlora, htoken]

/-- A field is read back: the variable of the user, if there is one, has its value; and if
there is none, the operator writes the field, or it is empty. -/
def ReadBack (given : Option String) (value : String) (written : Prop) : Prop :=
  match given with
  | some text => text = value
  | none => written ∨ value = ""

/-- The environment shows the configuration of the cache as it is. -/
@[mk_iff]
structure CacheShown (given : String → Option String) (config : LMCacheConfig) : Prop where
  enabled : ∀ text ∈ given "LMCACHE_USE_EXPERIMENTAL", text = "True" ↔ config.enabled = true
  cpu : ReadBack (given "LMCACHE_MAX_LOCAL_CPU_SIZE") config.cpuOffloadingBufferSize
    (config.enabled = true)
  disk : ReadBack (given "LMCACHE_MAX_LOCAL_DISK_SIZE") config.diskOffloadingBufferSize
    (config.enabled = true)
  remoteURL : ReadBack (given "LMCACHE_REMOTE_URL") config.remoteURL (config.enabled = true)
  remoteSerde : ReadBack (given "LMCACHE_REMOTE_SERDE") config.remoteSerde
    (config.enabled = true ∧ config.remoteURL ≠ "")

theorem readBack_iff {written : Prop} [Decidable written] :
    value = (given.or (if written then some value else none)).getD "" ↔
      ReadBack given value written := by
  cases given with
  | some text => simp [ReadBack, eq_comm]
  | none => by_cases h : written <;> simp [ReadBack, h]

/-- An empty field need not be written. -/
theorem readBack_nonempty {written : Prop} :
    ReadBack given value (written ∧ value ≠ "") ↔ ReadBack given value written := by
  cases given with
  | some text => rfl
  | none => by_cases h : value = "" <;> simp [ReadBack, h]

theorem enabled_readBack {enabled : Bool} :
    enabled = decide ((given.or (if enabled then some "True" else none)).getD "" = "True") ↔
      ∀ text ∈ given, text = "True" ↔ enabled = true := by
  cases given with
  | some text | none => cases enabled <;> simp

theorem lmCacheConfig_shown_iff : vr.spec.lmCacheConfig = actualLMCacheConfig vr.env ↔
      CacheShown (lastValue (userEnv vr.spec.vllmConfig.env)) vr.spec.lmCacheConfig := by
  obtain ⟨henabled, hcpu, hdisk, hurl, hserde⟩ := lastValue_lmcacheEnv vr.spec.lmCacheConfig
  rw [actualLMCacheConfig_eq, cacheShown_iff, LMCacheConfig.ext_iff]
  simp (disch := decide) only [lastValue_env vr, henabled, hcpu, hdisk, hurl, hserde,
    enabled_readBack, readBack_iff, readBack_nonempty]

/-! A concrete runtime. -/

def aRuntime (nodeSelectorTerms : Option (List NodeSelectorTerm)) (lmCacheConfig : LMCacheConfig)
    (dtype : String) : VLLMRuntime where
  name := "llama"
  ns := "default"
  labels := .empty
  spec := {
    model := ⟨"meta/llama", "", "", false, false, "", 4096, dtype, 32, ""⟩
    vllmConfig := ⟨true, true, 1, "0.8", 0, [], true, 8000, []⟩
    lmCacheConfig := lmCacheConfig
    storageConfig := ⟨false, "/data", "pvc-storage"⟩
    deploymentConfig := {
      replicas := 1
      nodeSelectorTerms := nodeSelectorTerms
      toleration := none
      deployStrategy := "RollingUpdate"
      runtimeClass := "nvidia"
      shmSize := ""
      resources := ⟨"4", "16Gi", "1", ""⟩
      image := ⟨"docker.io", "vllm", "", ""⟩
      podAnnotations := .empty
      sidecarConfig := ⟨false, "sidecar", ⟨"", "", "", ""⟩, none, none, [], ⟨"", "", "", ""⟩, "/data"⟩ } }

theorem aRuntime_parses (terms : Option (List NodeSelectorTerm)) (config : LMCacheConfig)
    (dtype : String) :
    QuantitiesParse written (aRuntime terms config dtype).spec.deploymentConfig :=
  ⟨⟨.inr rfl, .inr rfl, .inr rfl⟩, by simp [aRuntime]⟩

/-! The check comes to rest. -/

theorem not_differAfter_self (q : Quantities Q) (vr : VLLMRuntime) : ¬ DifferAfter q vr vr := by
  have hannotations : ∀ entry ∈ vr.spec.deploymentConfig.podAnnotations.entries,
      (vr.spec.deploymentConfig.podAnnotations.get? entry.1).getD "" = entry.2 := by
    intro entry hentry
    rw [(Dict.mem_entries_iff _ entry).mp hentry]
    rfl
  simpa [DifferAfter] using fun name value => hannotations (name, value)

theorem differBefore_self_iff (resources : ResourceRequirements Q) :
    DifferBefore vr vr resources resources ↔
      vr.spec.lmCacheConfig ≠ actualLMCacheConfig vr.env := by
  simp [DifferBefore, ResourceRequirements.Same.refl]

/-- On the deployment that was just built for it, a runtime is left alone exactly if its
node selector terms are given and its environment shows the configuration of the cache. -/
theorem unchanged_left_alone_iff [DecidableEq Q] (q : Quantities Q) (vr : VLLMRuntime)
    (h : QuantitiesParse q vr.spec.deploymentConfig) :
    ∃ dep, deploymentForVLLMRuntime vr q = .ok dep ∧
      (deploymentNeedsUpdate q dep vr = .ok false ↔
        vr.spec.deploymentConfig.nodeSelectorTerms ≠ none ∧
          CacheShown (lastValue (userEnv vr.spec.vllmConfig.env)) vr.spec.lmCacheConfig) := by
  obtain ⟨dep, hbuilt⟩ := deploymentForVLLMRuntime_ok h
  obtain ⟨resources, sidecars, -, -, rfl⟩ := deployment_of_built hbuilt
  refine ⟨_, hbuilt, ?_⟩
  rw [deploymentNeedsUpdate_built hbuilt, ← lmCacheConfig_shown_iff]
  simp only [differBefore_self_iff, not_differAfter_self, BothPinned, decide_false]
  by_cases hshown : vr.spec.lmCacheConfig = actualLMCacheConfig vr.env
  · cases vr.spec.deploymentConfig.nodeSelectorTerms <;> simp [hshown]
  · simp [hshown]

theorem left_alone_one_engine :
    ∃ dep, deploymentForVLLMRuntime (aRuntime (some []) ⟨false, "", "", "", ""⟩ "auto") written =
        .ok dep ∧
      deploymentNeedsUpdate written dep (aRuntime (some []) ⟨false, "", "", "", ""⟩ "auto") =
        .ok false := by
  obtain ⟨dep, hbuilt, hiff⟩ := unchanged_left_alone_iff written
    (aRuntime (some []) ⟨false, "", "", "", ""⟩ "auto") (aRuntime_parses _ _ _)
  refine ⟨dep, hbuilt, hiff.mpr ⟨by simp [aRuntime], ?_⟩⟩
  rw [← lmCacheConfig_shown_iff]
  rfl

/-- Without node selector terms the check panics, and with the default sizes of a cache that
is not enabled it never comes to rest. -/
theorem unchanged_not_left_alone :
    (∃ dep, deploymentForVLLMRuntime (aRuntime none ⟨false, "", "", "", ""⟩ "auto") written =
        .ok dep ∧
      deploymentNeedsUpdate written dep (aRuntime none ⟨false, "", "", "", ""⟩ "auto") =
        .error (.panic "invalid memory address or nil pointer dereference")) ∧
    ∃ dep, deploymentForVLLMRuntime (aRuntime (some []) ⟨false, "4Gi", "8Gi", "", ""⟩ "auto")
        written = .ok dep ∧
      deploymentNeedsUpdate written dep (aRuntime (some []) ⟨false, "4Gi", "8Gi", "", ""⟩ "auto") =
        .ok true :=
  ⟨⟨_, rfl, rfl⟩, ⟨_, rfl, rfl⟩⟩

/-! A change of the spec. -/

/-- The check notices the change from one runtime to the other. -/
def Noticed (q : Quantities Q) (v w : VLLMRuntime) (resources expected : ResourceRequirements Q) :
    Prop :=
  DifferBefore v w resources expected ∨ BothPinned v w ∧ DifferAfter q v w

end ProductionStack.Operator

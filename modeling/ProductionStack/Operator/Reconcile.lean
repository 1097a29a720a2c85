import ProductionStack.Operator.UpdateCheck

/-!
`Reconcile` of the engine's controller. A pass deals with the service, the volume
claim, the chat template and the deployment, in this order, and ends at the first one
that it has to write. Only a pass that writes none of them gets to the autoscaler and
the status. Those are left out, as no pass reads them. The API server is taken to keep an
object as it is written.
-/

namespace ProductionStack.Operator

open Lib

variable {Q : Type}

structure ServicePort where
  name : String
  port : Int
  targetPort : Int
  protocol : String

structure Service where
  type : String
  selector : Dict String String
  ports : List ServicePort

structure PersistentVolumeClaim (Q : Type) where
  labels : Dict String String
  accessModes : List String
  storage : Q
  storageClassName : Option String

/-- What only the volume claim reads of the storage config. -/
structure ClaimConfig where
  storageClassName : String
  size : String
  accessMode : String

def ClaimConfig.expectedSize (claim : ClaimConfig) : String := orDefault claim.size "10Gi"

variable (q : Quantities Q) (print : Q → String) (vr : VLLMRuntime) (claim : ClaimConfig)

def serviceForVLLMRuntime : Service :=
  ⟨"ClusterIP", labelsOf vr.name vr.labels, [⟨"http", 80, vr.spec.vllmConfig.port, "TCP"⟩]⟩

def serviceNeedsUpdate (svc : Service) : Except GoError Bool := do
  let port ← index svc.ports 0
  pure (vr.spec.vllmConfig.port ≠ port.targetPort)

def pvcForVLLMRuntime : Except GoError (PersistentVolumeClaim Q) := do
  let size ← q.mustParse claim.expectedSize
  pure {
    labels := labelsOf vr.name vr.labels
    accessModes := [if claim.accessMode ∈ ["ReadWriteOnce", "ReadOnlyMany", "ReadWriteMany"] then
      claim.accessMode else "ReadWriteOnce"]
    storage := size
    storageClassName := if claim.storageClassName ≠ "" then some claim.storageClassName else none }

/-- `print` is `Quantity.String`, of a quantity as the API server has it. -/
def pvcNeedsUpdate (pvc : PersistentVolumeClaim Q) : Except GoError Bool :=
  .ok (claim.expectedSize ≠ print pvc.storage)

theorem pvcNeedsUpdate_self_iff :
    (∃ pvc, pvcForVLLMRuntime q vr claim = .ok pvc ∧ pvcNeedsUpdate print claim pvc = .ok false) ↔
    ∃ size, q.parseQuantity claim.expectedSize = some size ∧ print size = claim.expectedSize := by
  unfold pvcForVLLMRuntime Quantities.mustParse
  cases q.parseQuantity claim.expectedSize with
  | none => simp [bind, Except.bind]
  | some size => simp [bind, Except.bind, pure, Except.pure, pvcNeedsUpdate,
      @eq_comm _ (print size)]

/-- The data of the config map. -/
def configMapForVLLMRuntime : Dict String String :=
  Dict.empty.set "chatTemplate" vr.spec.model.chatTemplate

def configMapNeedsUpdate (data : Dict String String) : Except GoError Bool :=
  .ok (data.getD "chatTemplate" "" ≠ vr.spec.model.chatTemplate)

/-! A pass. -/

/-- The objects of an engine. -/
structure EngineObjects (Q : Type) where
  service : Option Service
  pvc : Option (PersistentVolumeClaim Q)
  configMap : Option (Dict String String)
  deployment : Option (Deployment Q)

/-- Whether the API server answers the calls about an object. -/
structure Answered where
  read : Bool
  write : Bool

structure Answers where
  service : Answered
  pvc : Answered
  configMap : Answered
  deployment : Answered

def Answers.all : Answers := ⟨⟨true, true⟩, ⟨true, true⟩, ⟨true, true⟩, ⟨true, true⟩⟩

inductive Ending where
  | failed
  | wrote
  | settled
  deriving DecidableEq

variable {α : Type} (wanted : Bool) (answered : Answered) (build : Except GoError α)
  (stale : α → Except GoError Bool) (found : Option α) (write : α → EngineObjects Q)
  (s : EngineObjects Q) (next : EngineObjects Q × Ending)

/-- An object that is wanted is created if it is missing, and written anew if it is out
of date. If it is neither, the pass goes on. -/
def ensure : EngineObjects Q × Ending :=
  let put := match build with
    | .ok object => if answered.write then (write object, .wrote) else (s, .failed)
    | .error _ => (s, .failed)
  if wanted then
    if answered.read then
      match found with
      | none => put
      | some object => match stale object with
        | .ok true => put
        | .ok false => next
        | .error _ => (s, .failed)
    else (s, .failed)
  else next

variable {wanted answered build stale found write s next} in
/-- What an object can do to a pass. -/
theorem ensure_rule {P : EngineObjects Q × Ending → Prop} (hfailed : P (s, .failed))
    (hwrite : ∀ object, build = .ok object → P (write object, .wrote))
    (hnext : (wanted → ∃ object ∈ found, stale object = .ok false) → P next) :
    P (ensure wanted answered build stale found write s next) := by
  unfold ensure
  cases build with
  | error e => grind
  | ok object => grind

variable [DecidableEq Q]

def VLLMRuntime.reconcile (answers : Answers) : EngineObjects Q × Ending :=
  ensure true answers.service (.ok (serviceForVLLMRuntime vr)) (serviceNeedsUpdate vr) s.service
    (fun service => { s with service := some service }) s <|
  ensure vr.spec.storageConfig.enabled answers.pvc (pvcForVLLMRuntime q vr claim)
    (pvcNeedsUpdate print claim) s.pvc (fun pvc => { s with pvc := some pvc }) s <|
  ensure (vr.spec.model.chatTemplate ≠ "") answers.configMap (.ok (configMapForVLLMRuntime vr))
    (configMapNeedsUpdate vr) s.configMap
    (fun data => { s with configMap := some data }) s <|
  ensure true answers.deployment (deploymentForVLLMRuntime vr q) (deploymentNeedsUpdate q · vr)
    s.deployment (fun dep => { s with deployment := some dep }) s (s, .settled)

/-- The objects after any number of passes, and how these ended. -/
def VLLMRuntime.passes (answers : List Answers) : EngineObjects Q × List Ending :=
  answers.foldl (fun r answers =>
    let (s, ending) := vr.reconcile q print claim r.1 answers
    (s, r.2 ++ [ending])) (s, [])

/-- The objects before the deployment are there, and none of them is out of date. -/
structure Ready : Prop where
  service : ∃ service ∈ s.service, serviceNeedsUpdate vr service = .ok false
  pvc : vr.spec.storageConfig.enabled = true →
    ∃ pvc ∈ s.pvc, pvcNeedsUpdate print claim pvc = .ok false
  configMap : vr.spec.model.chatTemplate ≠ "" →
    ∃ configMap ∈ s.configMap, configMapNeedsUpdate vr configMap = .ok false

/-- What a pass can do. -/
inductive Passed : EngineObjects Q × Ending → Prop
  | failed : Passed (s, .failed)
  | service : Passed ({ s with service := some (serviceForVLLMRuntime vr) }, .wrote)
  | pvc {pvc : PersistentVolumeClaim Q} (hbuild : pvcForVLLMRuntime q vr claim = .ok pvc) :
      Passed ({ s with pvc := some pvc }, .wrote)
  | configMap : Passed ({ s with configMap := some (configMapForVLLMRuntime vr) }, .wrote)
  | deployment {dep : Deployment Q} (hready : Ready print vr claim s)
      (hbuild : deploymentForVLLMRuntime vr q = .ok dep) :
      Passed ({ s with deployment := some dep }, .wrote)
  | settled {dep : Deployment Q} (hready : Ready print vr claim s)
      (hfound : s.deployment = some dep)
      (hfresh : deploymentNeedsUpdate q dep vr = .ok false) : Passed (s, .settled)

section Rules

variable {q print vr claim s} {I : EngineObjects Q → List Ending → Prop}

theorem passed (answers : Answers) :
    Passed q print vr claim s (vr.reconcile q print claim s answers) := by
  refine ensure_rule .failed (fun _ h => Except.ok.inj h ▸ .service) fun hservice => ?_
  refine ensure_rule .failed (fun _ h => .pvc h) fun hpvc => ?_
  refine ensure_rule .failed (fun _ h => Except.ok.inj h ▸ .configMap) fun hconfigMap => ?_
  have hready : Ready print vr claim s :=
    ⟨hservice rfl, hpvc, fun h => hconfigMap (decide_eq_true h)⟩
  refine ensure_rule .failed (fun _ h => .deployment hready h) fun hdeployment => ?_
  obtain ⟨dep, hfound, hfresh⟩ := hdeployment rfl
  exact .settled hready hfound hfresh

/-- What every pass keeps holds after any number of them. -/
theorem passes_rule (start : EngineObjects Q) (hstart : I start [])
    (hpass : ∀ s log r, I s log → Passed q print vr claim s r → I r.1 (log ++ [r.2]))
    (answers : List Answers) :
    I (vr.passes q print claim start answers).1 (vr.passes q print claim start answers).2 := by
  induction answers using List.reverseRecOn with
  | nil => exact hstart
  | append_singleton answers last ih =>
    rw [VLLMRuntime.passes, List.foldl_append]
    exact hpass _ _ _ ih (passed last)

theorem deploymentNeedsUpdate_self {dep : Deployment Q}
    (hbuild : deploymentForVLLMRuntime vr q = .ok dep) :
    deploymentNeedsUpdate q dep vr = .ok false ↔
      vr.spec.deploymentConfig.nodeSelectorTerms ≠ none ∧
        vr.spec.lmCacheConfig = actualLMCacheConfig vr.env := by
  obtain ⟨resources, sidecars, -, -, rfl⟩ := deployment_of_built hbuild
  rw [deploymentNeedsUpdate_built hbuild]
  simp only [differBefore_self_iff, not_differAfter_self, BothPinned, decide_false]
  by_cases hshown : vr.spec.lmCacheConfig = actualLMCacheConfig vr.env
  · cases vr.spec.deploymentConfig.nodeSelectorTerms <;> simp [hshown]
  · simp [hshown]

end Rules

/-- The cluster has what a volume is taken from. -/
def EngineObjects.Holds : VolumeSource Q → Prop
  | .persistentVolumeClaim name => name = vr.name ∧ s.pvc.isSome
  | .configMap name _ => name = vr.name ++ "-chat-template" ∧ s.configMap.isSome
  | .emptyDir _ _ => True

def EngineObjects.Mountable : Prop :=
  ∀ dep ∈ s.deployment, ∀ volume ∈ dep.volumes, s.Holds vr volume.source

/-- An engine is never deployed with a volume that is not there. -/
theorem always_mountable (answers : List Answers) :
    (vr.passes q print claim ⟨none, none, none, none⟩ answers).1.Mountable vr := by
  refine passes_rule (I := fun s _ => s.Mountable vr) _ (by rintro _ ⟨⟩) ?_ answers
  intro s _ r hs h
  cases h with
  | failed | service | settled _ _ _ => exact hs
  | pvc _ | configMap =>
    intro dep hdep volume hvolume
    have hheld := hs dep hdep volume hvolume
    cases hsource : volume.source <;> simp_all [EngineObjects.Holds]
  | deployment hready hbuild =>
    obtain ⟨resources, sidecars, -, -, rfl⟩ := deployment_of_built hbuild
    obtain ⟨-, hpvc, hconfigMap⟩ := hready
    rintro _ ⟨⟩ volume hvolume
    simp only [VLLMRuntime.deployment, VLLMRuntime.volumes, List.mem_append] at hvolume
    grind [EngineObjects.Holds, whenever, VLLMRuntime.shmVolume, → Option.isSome_of_mem]

/-- If the size of the volume is not written as the API server prints it, the claim is
written over and over: no pass settles, and the engine is never deployed. -/
theorem never_deployed_of_size (s : EngineObjects Q) (answers : List Answers)
    (hstorage : vr.spec.storageConfig.enabled = true)
    (hsize : ∀ size, print size ≠ claim.expectedSize) (hnone : s.deployment = none) :
    (vr.passes q print claim s answers).1.deployment = none ∧
      .settled ∉ (vr.passes q print claim s answers).2 := by
  have hunready (s : EngineObjects Q) : ¬ Ready print vr claim s := by
    intro hready
    obtain ⟨pvc, -, hfresh⟩ := hready.pvc hstorage
    simp [pvcNeedsUpdate, (hsize pvc.storage).symm] at hfresh
  refine passes_rule (I := fun s log => s.deployment = none ∧ .settled ∉ log) s ⟨hnone, nofun⟩ ?_
    answers
  intro s log r ⟨hnone, hlog⟩ h
  cases h with
  | failed | service | pvc _ | configMap => exact ⟨hnone, by simpa using hlog⟩
  | deployment hready _ | settled hready _ _ => exact absurd hready (hunready s)

theorem never_deployed_1024Mi :
    let vr := aRuntime none ⟨false, "", "", "", ""⟩ "auto"
    let vr := { vr with spec := { vr.spec with storageConfig := ⟨true, "/data", ""⟩ } }
    (vr.passes written (fun size => if size = "1024Mi" then "1Gi" else size) ⟨"", "1024Mi", ""⟩
      ⟨none, none, none, none⟩ (.replicate 9 .all)).1.deployment = none := by
  refine (never_deployed_of_size _ _ _ _ _ _ rfl (fun size => ?_) rfl).1
  split <;> simp_all [ClaimConfig.expectedSize, orDefault]

structure Rests : Prop where
  builds : ∃ dep, deploymentForVLLMRuntime vr q = .ok dep
  size : vr.spec.storageConfig.enabled = true →
    ∃ size, q.parseQuantity claim.expectedSize = some size ∧ print size = claim.expectedSize
  pinned : vr.spec.deploymentConfig.nodeSelectorTerms ≠ none
  shown : vr.spec.lmCacheConfig = actualLMCacheConfig vr.env

/-- Starting from nothing, a pass settles at some time exactly if the deployment can be
built, the size is written as it is printed, node selector terms are given, and the
environment shows the configuration of the cache. -/
theorem settles_iff :
    (∃ answers, .settled ∈ (vr.passes q print claim ⟨none, none, none, none⟩ answers).2) ↔
      Rests q print vr claim := by
  constructor
  · rintro ⟨answers, h⟩
    -- What the passes have written is what they build.
    refine (passes_rule (I := fun s log => (∀ pvc ∈ s.pvc, pvcForVLLMRuntime q vr claim = .ok pvc) ∧
      (∀ dep ∈ s.deployment, deploymentForVLLMRuntime vr q = .ok dep) ∧
      (.settled ∈ log → Rests q print vr claim)) _ (by simp) ?_ answers).2.2 h
    rintro s log r ⟨hpvc, hdep, hlog⟩ h
    cases h with
    | failed | service | configMap => exact ⟨hpvc, hdep, by simpa using hlog⟩
    | pvc hbuild => exact ⟨by simpa using hbuild, hdep, by simpa using hlog⟩
    | deployment _ hbuild => exact ⟨hpvc, by simpa using hbuild, by simpa using hlog⟩
    | settled hready hfound hfresh =>
      obtain ⟨hpinned, hshown⟩ := (deploymentNeedsUpdate_self (hdep _ hfound)).mp hfresh
      refine ⟨hpvc, hdep, fun _ => ⟨⟨_, hdep _ hfound⟩, fun hstorage => ?_, hpinned, hshown⟩⟩
      obtain ⟨pvc, hfound, hfresh⟩ := hready.pvc hstorage
      exact (pvcNeedsUpdate_self_iff q print vr claim).mp ⟨pvc, hpvc pvc hfound, hfresh⟩
  · rintro ⟨⟨dep, hdep⟩, hsize, hpinned, hshown⟩
    have hfresh := (deploymentNeedsUpdate_self hdep).mpr ⟨hpinned, hshown⟩
    have hservice : serviceNeedsUpdate vr (serviceForVLLMRuntime vr) = .ok false := by
      simp [serviceNeedsUpdate, serviceForVLLMRuntime, index, bind, Except.bind, pure, Except.pure]
    have hconfigMap : configMapNeedsUpdate vr (configMapForVLLMRuntime vr) = .ok false := by
      simp [configMapNeedsUpdate, configMapForVLLMRuntime, Dict.getD]
    refine ⟨List.replicate 5 .all, ?_⟩
    by_cases hstorage : vr.spec.storageConfig.enabled = true
    · obtain ⟨pvc, hpvc, hpvc'⟩ := (pvcNeedsUpdate_self_iff q print vr claim).mpr (hsize hstorage)
      by_cases htemplate : vr.spec.model.chatTemplate = "" <;>
        simp [VLLMRuntime.passes, List.replicate, VLLMRuntime.reconcile, ensure, Answers.all, *]
    · by_cases htemplate : vr.spec.model.chatTemplate = "" <;>
        simp [VLLMRuntime.passes, List.replicate, VLLMRuntime.reconcile, ensure, Answers.all, *]

end ProductionStack.Operator

import ProductionStack.Operator.Deployment

/-!
The deployment of an engine, and the check that decides on every reconcile
whether it has to be written again. The check reads single fields of the
deployment back and compares them with the spec; whether it comes to rest on
the deployment that was built from this spec is a matter of what the builder
leaves out.
-/

namespace ProductionStack.Operator

open Lib

/-! The resource. -/

structure ModelSpec where
  modelURL : String
  hfTokenSecretName : String
  hfTokenKeyName : String
  enableLoRA : Bool
  enableTool : Bool
  toolCallParser : String
  maxModelLen : Int
  dtype : String
  maxNumSeqs : Int
  chatTemplate : String

structure VLLMConfig where
  enableChunkedPrefill : Bool
  enablePrefixCaching : Bool
  tensorParallelSize : Int
  gpuMemoryUtilization : String
  maxLoras : Int
  extraArgs : List String
  v1 : Bool
  port : Int
  env : List UserEnvVar

@[ext]
structure LMCacheConfig where
  enabled : Bool
  cpuOffloadingBufferSize : String
  diskOffloadingBufferSize : String
  remoteURL : String
  remoteSerde : String
  deriving DecidableEq

structure StorageConfig where
  enabled : Bool
  mountPath : String
  volumeName : String

structure SidecarConfig where
  enabled : Bool
  name : String
  image : ImageSpec
  command : Option (List String)
  args : Option (List String)
  env : List UserEnvVar
  resources : ResourceSpec
  mountPath : String

structure DeploymentConfig where
  replicas : Int
  nodeSelectorTerms : Option (List NodeSelectorTerm)
  toleration : Option (List Toleration)
  deployStrategy : String
  runtimeClass : String
  shmSize : String
  resources : ResourceSpec
  image : ImageSpec
  podAnnotations : Dict String String
  sidecarConfig : SidecarConfig

structure VLLMRuntimeSpec where
  model : ModelSpec
  vllmConfig : VLLMConfig
  lmCacheConfig : LMCacheConfig
  storageConfig : StorageConfig
  deploymentConfig : DeploymentConfig

structure VLLMRuntime where
  name : String
  ns : String
  labels : Dict String String
  spec : VLLMRuntimeSpec

/-! The container of the engine. -/

namespace VLLMRuntime

variable (vllmRuntime : VLLMRuntime)

def probe (initialDelaySeconds timeoutSeconds successThreshold failureThreshold : Nat) : Probe :=
  ⟨"/health", vllmRuntime.spec.vllmConfig.port, "HTTP", initialDelaySeconds, 20, timeoutSeconds,
    successThreshold, failureThreshold⟩

def readinessProbe : Probe := vllmRuntime.probe 10 5 1 10

def livenessProbe : Probe := vllmRuntime.probe 10 3 1 10

def startupProbe : Probe := vllmRuntime.probe 120 3 0 100

/-- The KV transfer config depends on the version. -/
def lmcacheConfig : String :=
  if vllmRuntime.spec.vllmConfig.v1 then
    "\x7b\"kv_connector\":\"LMCacheConnectorV1\",\"kv_role\":\"kv_both\"\x7d"
  else "\x7b\"kv_connector\":\"LMCacheConnector\",\"kv_role\":\"kv_both\"\x7d"

/-- Command line arguments. -/
def args : List String :=
  let model := vllmRuntime.spec.model
  let config := vllmRuntime.spec.vllmConfig
  [model.modelURL, "--host", "0.0.0.0", "--port", toString config.port] ++
  whenever model.enableLoRA ["--enable-lora"] ++
  whenever model.enableTool ["--enable-auto-tool-choice"] ++
  whenever (model.toolCallParser ≠ "") ["--tool-call-parser", model.toolCallParser] ++
  [if config.enableChunkedPrefill then "--enable-chunked-prefill"
    else "--no-enable-chunked-prefill"] ++
  [if config.enablePrefixCaching then "--enable-prefix-caching"
    else "--no-enable-prefix-caching"] ++
  whenever (0 < model.maxModelLen) ["--max-model-len", toString model.maxModelLen] ++
  whenever (model.dtype ≠ "") ["--dtype", model.dtype] ++
  whenever (0 < config.tensorParallelSize)
    ["--tensor-parallel-size", toString config.tensorParallelSize] ++
  whenever (0 < model.maxNumSeqs) ["--max-num-seqs", toString model.maxNumSeqs] ++
  whenever (config.gpuMemoryUtilization ≠ "")
    ["--gpu_memory_utilization", config.gpuMemoryUtilization] ++
  whenever (0 < config.maxLoras) ["--max_loras", toString config.maxLoras] ++
  config.extraArgs ++
  whenever (model.chatTemplate ≠ "") ["--chat-template", "/etc/chat-template.json"] ++
  whenever vllmRuntime.spec.lmCacheConfig.enabled
    ["--kv-transfer-config", vllmRuntime.lmcacheConfig]

/-- LM Cache configuration. -/
def lmcacheEnv (config : LMCacheConfig) : List EnvVar :=
  whenever config.enabled
    ([.ofValue "LMCACHE_LOG_LEVEL" "DEBUG", .ofValue "LMCACHE_USE_EXPERIMENTAL" "True",
      .ofValue "VLLM_RPC_TIMEOUT" "1000000"] ++
    whenever (config.cpuOffloadingBufferSize ≠ "")
      [.ofValue "LMCACHE_LOCAL_CPU" "True",
        .ofValue "LMCACHE_MAX_LOCAL_CPU_SIZE" config.cpuOffloadingBufferSize] ++
    whenever (config.diskOffloadingBufferSize ≠ "")
      [.ofValue "LMCACHE_LOCAL_DISK" "True",
        .ofValue "LMCACHE_MAX_LOCAL_DISK_SIZE" config.diskOffloadingBufferSize] ++
    whenever (config.remoteURL ≠ "")
      [.ofValue "LMCACHE_REMOTE_URL" config.remoteURL,
        .ofValue "LMCACHE_REMOTE_SERDE" config.remoteSerde])

/-- Environment variables, those of the user after the others. -/
def env : List EnvVar :=
  let model := vllmRuntime.spec.model
  let config := vllmRuntime.spec.vllmConfig
  [.ofValue "VLLM_USE_V1" (if config.v1 then "1" else "0")] ++
  whenever model.enableLoRA [.ofValue "VLLM_ALLOW_RUNTIME_LORA_UPDATING" "True"] ++
  lmcacheEnv vllmRuntime.spec.lmCacheConfig ++
  userEnv config.env ++
  whenever (model.hfTokenSecretName ≠ "")
    [⟨"HF_TOKEN", "", some ⟨model.hfTokenSecretName, model.hfTokenKeyName⟩⟩]

def resources (q : Quantities Q) : Except GoError (ResourceRequirements Q) :=
  buildResources q vllmRuntime.spec.deploymentConfig.resources none none none

def storageVolumeName : String := orDefault vllmRuntime.spec.storageConfig.volumeName "pvc-storage"

/-- The volume at `/dev/shm`. A size that does not parse is no limit. -/
def shmVolume (q : Quantities Q) : Volume Q :=
  ⟨"dshm", .emptyDir "Memory" (q.parseQuantity vllmRuntime.spec.deploymentConfig.shmSize)⟩

def volumes (q : Quantities Q) : List (Volume Q) :=
  whenever vllmRuntime.spec.storageConfig.enabled
    [⟨vllmRuntime.storageVolumeName, .persistentVolumeClaim vllmRuntime.name⟩] ++
  whenever (vllmRuntime.spec.model.chatTemplate ≠ "")
    [⟨"chat-template", .configMap (vllmRuntime.name ++ "-chat-template")
      [("chatTemplate", "chat_template.json")]⟩] ++
  whenever (vllmRuntime.spec.deploymentConfig.shmSize ≠ "") [vllmRuntime.shmVolume q]

def volumeMounts : List VolumeMount :=
  whenever vllmRuntime.spec.storageConfig.enabled
    [⟨vllmRuntime.storageVolumeName, orDefault vllmRuntime.spec.storageConfig.mountPath "/data", ""⟩] ++
  whenever (vllmRuntime.spec.model.chatTemplate ≠ "")
    [⟨"chat-template", "/etc/chat-template.json", "chat_template.json"⟩] ++
  whenever (vllmRuntime.spec.deploymentConfig.shmSize ≠ "") [⟨"dshm", "/dev/shm", ""⟩]

def affinity : Option Affinity := affinityOf vllmRuntime.spec.deploymentConfig.nodeSelectorTerms

/-! The sidecar. -/

def sidecarMountPath : String :=
  if vllmRuntime.spec.storageConfig.enabled then
    orDefault vllmRuntime.spec.deploymentConfig.sidecarConfig.mountPath "/data"
  else "/data"

def buildSidecarContainer (q : Quantities Q) : Except GoError (Container Q) := do
  let sidecarConfig := vllmRuntime.spec.deploymentConfig.sidecarConfig
  let resources ← buildResources q sidecarConfig.resources (some "0.5") (some "128Mi") (some "0")
  pure {
    name := sidecarConfig.name
    image := sidecarConfig.image.image
    imagePullPolicy := sidecarConfig.image.imagePullPolicy
    command := sidecarConfig.command
    args := sidecarConfig.args
    env := [.ofValue "PORT" "30090",
      .ofValue "LORA_DOWNLOAD_BASE_DIR" (vllmRuntime.sidecarMountPath ++ "/lora-adapters")] ++
      userEnv sidecarConfig.env
    ports := []
    resources := resources
    volumeMounts := whenever vllmRuntime.spec.storageConfig.enabled
      [⟨vllmRuntime.storageVolumeName, vllmRuntime.sidecarMountPath, ""⟩]
    readinessProbe := none
    startupProbe := none
    livenessProbe := none }

def sidecars (q : Quantities Q) : Except GoError (List (Container Q)) :=
  if vllmRuntime.spec.deploymentConfig.sidecarConfig.enabled then do
    let sidecar ← vllmRuntime.buildSidecarContainer q
    pure [sidecar]
  else pure []

/-! The whole. -/

def vllmContainer (resources : ResourceRequirements Q) : Container Q where
  name := "vllm"
  image := vllmRuntime.spec.deploymentConfig.image.image
  imagePullPolicy := vllmRuntime.spec.deploymentConfig.image.imagePullPolicy
  command := some ["/opt/venv/bin/vllm", "serve"]
  args := some vllmRuntime.args
  env := vllmRuntime.env
  ports := [⟨"http", vllmRuntime.spec.vllmConfig.port⟩]
  resources := resources
  volumeMounts := vllmRuntime.volumeMounts
  readinessProbe := some vllmRuntime.readinessProbe
  startupProbe := some vllmRuntime.startupProbe
  livenessProbe := some vllmRuntime.livenessProbe

/-- The deployment, of its containers' resources and the sidecar. -/
def deployment (q : Quantities Q) (resources : ResourceRequirements Q)
    (sidecars : List (Container Q)) : Deployment Q :=
  let config := vllmRuntime.spec.deploymentConfig
  { name := vllmRuntime.name
    ns := vllmRuntime.ns
    replicas := some config.replicas
    strategy := config.deployStrategy
    selector := labelsOf vllmRuntime.name vllmRuntime.labels
    labels := labelsOf vllmRuntime.name vllmRuntime.labels
    annotations := config.podAnnotations
    serviceAccountName := ""
    runtimeClassName := some config.runtimeClass
    affinity := vllmRuntime.affinity
    tolerations := config.toleration
    imagePullSecrets := config.image.imagePullSecrets
    volumes := vllmRuntime.volumes q
    containers := vllmRuntime.vllmContainer resources :: sidecars }

end VLLMRuntime

def deploymentForVLLMRuntime (vllmRuntime : VLLMRuntime) (q : Quantities Q) :
    Except GoError (Deployment Q) := do
  let resources ← vllmRuntime.resources q
  let sidecars ← vllmRuntime.sidecars q
  pure (vllmRuntime.deployment q resources sidecars)

/-! The check. -/

/-- One round of the loop over the environment. -/
def readEnv (actual : LMCacheConfig) (e : EnvVar) : LMCacheConfig :=
  match e.name with
  | "LMCACHE_USE_EXPERIMENTAL" => { actual with enabled := e.value = "True" }
  | "LMCACHE_MAX_LOCAL_CPU_SIZE" => { actual with cpuOffloadingBufferSize := e.value }
  | "LMCACHE_MAX_LOCAL_DISK_SIZE" => { actual with diskOffloadingBufferSize := e.value }
  | "LMCACHE_REMOTE_URL" => { actual with remoteURL := e.value }
  | "LMCACHE_REMOTE_SERDE" => { actual with remoteSerde := e.value }
  | _ => actual

/-- The LM cache config that a container was given, as far as its environment shows it. -/
def actualLMCacheConfig (env : List EnvVar) : LMCacheConfig :=
  env.foldl readEnv ⟨false, "", "", "", ""⟩

def findVolumeByName (volumes : List (Volume Q)) (name : String) : Option (Volume Q) :=
  volumes.find? (·.name = name)

def findVolumeMountByName (mounts : List VolumeMount) (name : String) : Option VolumeMount :=
  mounts.find? (·.name = name)

def deploymentNeedsUpdate [DecidableEq Q] (q : Quantities Q) (dep : Deployment Q)
    (vr : VLLMRuntime) : Except GoError Bool := do
  let expectedDep ← deploymentForVLLMRuntime vr q
  let replicas ← deref dep.replicas
  if replicas ≠ vr.spec.deploymentConfig.replicas then return true
  let container ← index dep.containers 0
  let expected ← index expectedDep.containers 0
  if vr.spec.model.modelURL ≠ ((container.args.getD [])[0]?).getD "" then return true
  let port ← index container.ports 0
  if vr.spec.vllmConfig.port ≠ port.containerPort then return true
  if expected.image ≠ container.image then return true
  if !(deepEqual expected.resources.requests container.resources.requests &&
      deepEqual expected.resources.limits container.resources.limits) then return true
  if vr.spec.lmCacheConfig ≠ actualLMCacheConfig container.env then return true
  let actualAffinity ← deref dep.affinity
  let expectedAffinity ← deref expectedDep.affinity
  if expectedAffinity.nodeAffinity ≠ actualAffinity.nodeAffinity then return true
  if expectedDep.tolerations ≠ dep.tolerations then return true
  if expectedDep.runtimeClassName ≠ dep.runtimeClassName then return true
  if expectedDep.annotations.entries.any fun entry =>
      (dep.annotations.get? entry.1).getD "" ≠ entry.2 then return true
  if findVolumeByName expectedDep.volumes "dshm" ≠ findVolumeByName dep.volumes "dshm" then
    return true
  if findVolumeMountByName expected.volumeMounts "dshm" ≠
      findVolumeMountByName container.volumeMounts "dshm" then return true
  return false

end ProductionStack.Operator

import Mathlib
import ProductionStack.Operator.Deployment

/-!
The deployments of the router and of the cache server, and their update checks.
Both checks compare the replicas, the image and the resources, and that of the
router the arguments too. What else a builder derives from the spec is not
compared: an edit that shows nowhere else does not reach the pods.
-/

namespace ProductionStack.Operator

open Lib

variable {Q : Type}

/-! The router. -/

structure VLLMRouterSpec where
  replicas : Int
  serviceDiscovery : String
  k8sLabelSelector : String
  staticBackends : String
  staticModels : String
  routingLogic : String
  sessionKey : String
  lmcacheControllerPort : Int
  engineScrapeInterval : Int
  requestStatsWindow : Int
  extraArgs : List String
  nodeSelectorTerms : Option (List NodeSelectorTerm)
  serviceAccountName : String
  port : Int
  image : ImageSpec
  resources : ResourceSpec
  env : List UserEnvVar
  vllmApiKeySecret : String
  vllmApiKeyName : String

structure VLLMRouter where
  name : String
  ns : String
  labels : Dict String String
  spec : VLLMRouterSpec

namespace VLLMRouter

variable (router : VLLMRouter)

def env : List EnvVar :=
  userEnv router.spec.env ++
  whenever (router.spec.vllmApiKeySecret ≠ "" ∧ router.spec.vllmApiKeyName ≠ "")
    [⟨"VLLM_API_KEY", "", some ⟨router.spec.vllmApiKeySecret, router.spec.vllmApiKeyName⟩⟩]

/-- The arguments of the kind of service discovery. -/
def discoveryArgs : Except GoError (List String) :=
  if router.spec.serviceDiscovery = "k8s" then
    .ok ["--k8s-namespace", router.ns, "--k8s-label-selector", router.spec.k8sLabelSelector]
  else if router.spec.serviceDiscovery = "static" then
    if router.spec.staticBackends = "" ∨ router.spec.staticModels = "" then
      .error (.panic "static service discovery requires both staticBackends and staticModels")
    else .ok ["--static-backends", router.spec.staticBackends,
      "--static-models", router.spec.staticModels]
  else .ok []

def optionalArgs : List String :=
  let spec := router.spec
  whenever (spec.routingLogic ≠ "") ["--routing-logic", spec.routingLogic] ++
  whenever (spec.sessionKey ≠ "") ["--session-key", spec.sessionKey] ++
  whenever (spec.routingLogic = "kvaware" ∧ spec.lmcacheControllerPort ≠ 0)
    ["--lmcache-controller-port", toString spec.lmcacheControllerPort] ++
  whenever (spec.engineScrapeInterval ≠ 0)
    ["--engine-stats-interval", toString spec.engineScrapeInterval] ++
  whenever (spec.requestStatsWindow ≠ 0)
    ["--request-stats-window", toString spec.requestStatsWindow] ++
  spec.extraArgs

def args : Except GoError (List String) := do
  let discovery ← router.discoveryArgs
  pure (["--host", "0.0.0.0", "--port", toString router.spec.port,
    "--service-discovery", router.spec.serviceDiscovery] ++ discovery ++ router.optionalArgs)

def container (resources : ResourceRequirements Q) (args : List String) : Container Q where
  name := "router"
  image := router.spec.image.image
  imagePullPolicy := router.spec.image.imagePullPolicy
  command := none
  args := some args
  env := router.env
  ports := [⟨"http", router.spec.port⟩]
  resources := resources
  volumeMounts := []
  readinessProbe := none
  startupProbe := none
  livenessProbe := some ⟨"/health", router.spec.port, "", 30, 5, 0, 0, 3⟩

/-- The deployment, of the container's resources and arguments. -/
def deployment (resources : ResourceRequirements Q) (args : List String) : Deployment Q where
  name := router.name
  ns := router.ns
  replicas := some router.spec.replicas
  strategy := ""
  selector := labelsOf router.name router.labels
  labels := labelsOf router.name router.labels
  annotations := .empty
  serviceAccountName := router.spec.serviceAccountName
  runtimeClassName := none
  affinity := affinityOf router.spec.nodeSelectorTerms
  tolerations := none
  imagePullSecrets := router.spec.image.imagePullSecrets
  volumes := []
  containers := [router.container resources args]

end VLLMRouter

def deploymentForVLLMRouter (router : VLLMRouter) (q : Quantities Q) :
    Except GoError (Deployment Q) := do
  let resources ← buildCpuAndMemory q router.spec.resources
  let args ← router.args
  pure (router.deployment resources args)

/-- `deploymentNeedsUpdate` of the router's reconciler. -/
def VLLMRouter.deploymentNeedsUpdate [DecidableEq Q] (q : Quantities Q) (dep : Deployment Q)
    (router : VLLMRouter) : Except GoError Bool := do
  let replicas ← deref dep.replicas
  if replicas ≠ router.spec.replicas then return true
  let expectedDep ← deploymentForVLLMRouter router q
  if expectedDep.containers.length = 0 ∨ dep.containers.length = 0 then return true
  let expected ← index expectedDep.containers 0
  let container ← index dep.containers 0
  if expected.image ≠ container.image then return true
  if !(deepEqual expected.resources.requests container.resources.requests &&
      deepEqual expected.resources.limits container.resources.limits) then return true
  if expected.args ≠ container.args then return true
  return false

/-! The cache server. -/

structure CacheServerSpec where
  image : ImageSpec
  port : Int
  resources : ResourceSpec
  replicas : Int

structure CacheServer where
  name : String
  ns : String
  spec : CacheServerSpec

namespace CacheServer

variable (cacheServer : CacheServer)

def container (resources : ResourceRequirements Q) : Container Q where
  name := "cache-server"
  image := cacheServer.spec.image.image
  imagePullPolicy := cacheServer.spec.image.imagePullPolicy
  command := some ["/opt/venv/bin/lmcache_server", "0.0.0.0", toString cacheServer.spec.port]
  args := none
  env := []
  ports := [⟨"http", cacheServer.spec.port⟩]
  resources := resources
  volumeMounts := []
  readinessProbe := none
  startupProbe := none
  livenessProbe := none

/-- The deployment, of the container's resources. -/
def deployment (resources : ResourceRequirements Q) : Deployment Q where
  name := cacheServer.name
  ns := cacheServer.ns
  replicas := some cacheServer.spec.replicas
  strategy := ""
  selector := labelsOf cacheServer.name .empty
  labels := labelsOf cacheServer.name .empty
  annotations := .empty
  serviceAccountName := ""
  runtimeClassName := none
  affinity := none
  tolerations := none
  imagePullSecrets := []
  volumes := []
  containers := [cacheServer.container resources]

end CacheServer

def deploymentForCacheServer (cacheServer : CacheServer) (q : Quantities Q) :
    Except GoError (Deployment Q) := do
  let resources ← buildCpuAndMemory q cacheServer.spec.resources
  pure (cacheServer.deployment resources)

/-- `deploymentNeedsUpdate` of the cache server's reconciler. -/
def CacheServer.deploymentNeedsUpdate [DecidableEq Q] (q : Quantities Q) (dep : Deployment Q)
    (cs : CacheServer) : Except GoError Bool := do
  let replicas ← deref dep.replicas
  if replicas ≠ cs.spec.replicas then return true
  let expectedDep ← deploymentForCacheServer cs q
  let expected ← index expectedDep.containers 0
  if dep.containers.length > 0 then
    let container ← index dep.containers 0
    if expected.image ≠ container.image then return true
  let container ← index dep.containers 0
  if !(deepEqual expected.resources.requests container.resources.requests &&
      deepEqual expected.resources.limits container.resources.limits) then return true
  return false

/-! What the deployments that were built consist of. -/

section Built

variable {q : Quantities Q} {dep : Deployment Q}

theorem VLLMRouter.deployment_of_built {router : VLLMRouter}
    (h : deploymentForVLLMRouter router q = .ok dep) :
    ∃ resources args, buildCpuAndMemory q router.spec.resources = .ok resources ∧
      router.args = .ok args ∧ dep = router.deployment resources args := by
  obtain ⟨resources, hresources, h⟩ := bind_ok h
  obtain ⟨args, hargs, h⟩ := bind_ok h
  exact ⟨resources, args, hresources, hargs, (Except.ok.inj h).symm⟩

theorem CacheServer.deployment_of_built {cacheServer : CacheServer}
    (h : deploymentForCacheServer cacheServer q = .ok dep) :
    ∃ resources, buildCpuAndMemory q cacheServer.spec.resources = .ok resources ∧
      dep = cacheServer.deployment resources := by
  obtain ⟨resources, hresources, h⟩ := bind_ok h
  exact ⟨resources, hresources, (Except.ok.inj h).symm⟩

end Built

/-! What the checks see, and what they do not. -/

section Checks

variable {resources expected : ResourceRequirements Q}

def VLLMRouter.Noticed (v w : VLLMRouter) (resources expected : ResourceRequirements Q)
    (args args' : List String) : Prop :=
  v.spec.replicas ≠ w.spec.replicas ∨
  w.spec.image.image ≠ v.spec.image.image ∨
  ¬ expected.Same resources ∨
  args' ≠ args

structure VLLMRouter.UnreadAgree (v w : VLLMRouter) : Prop where
  env : v.env = w.env
  serviceAccountName : v.spec.serviceAccountName = w.spec.serviceAccountName
  nodeSelectorTerms : v.spec.nodeSelectorTerms = w.spec.nodeSelectorTerms
  imagePullPolicy : v.spec.image.imagePullPolicy = w.spec.image.imagePullPolicy
  imagePullSecrets : v.spec.image.imagePullSecrets = w.spec.image.imagePullSecrets

def CacheServer.Noticed (v w : CacheServer) (resources expected : ResourceRequirements Q) : Prop :=
  v.spec.replicas ≠ w.spec.replicas ∨
  w.spec.image.image ≠ v.spec.image.image ∨
  ¬ expected.Same resources

structure CacheServer.UnreadAgree (v w : CacheServer) : Prop where
  port : v.spec.port = w.spec.port
  imagePullPolicy : v.spec.image.imagePullPolicy = w.spec.image.imagePullPolicy

instance [DecidableEq Q] {v w : VLLMRouter} {args args' : List String} :
    Decidable (v.Noticed w resources expected args args') := inferInstanceAs (Decidable (_ ∨ _))

instance [DecidableEq Q] {v w : CacheServer} : Decidable (v.Noticed w resources expected) :=
  inferInstanceAs (Decidable (_ ∨ _))

variable {q : Quantities Q} {v w : VLLMRouter} {args args' : List String}

theorem VLLMRouter.deploymentNeedsUpdate_built [DecidableEq Q]
    (h : deploymentForVLLMRouter w q = .ok (w.deployment expected args')) :
    VLLMRouter.deploymentNeedsUpdate q (v.deployment resources args) w =
      if v.Noticed w resources expected args args' then .ok true else .ok false := by
  have hargs : some args' ≠ some args ↔ args' ≠ args := by simp
  unfold VLLMRouter.deploymentNeedsUpdate VLLMRouter.Noticed
  rw [h]
  simp only [ite_or, ← not_deepEqual_resources_iff, ← hargs]
  rfl

theorem CacheServer.deploymentNeedsUpdate_built [DecidableEq Q] {v w : CacheServer}
    (h : deploymentForCacheServer w q = .ok (w.deployment expected)) :
    CacheServer.deploymentNeedsUpdate q (v.deployment resources) w =
      if v.Noticed w resources expected then .ok true else .ok false := by
  unfold CacheServer.deploymentNeedsUpdate CacheServer.Noticed
  rw [h]
  simp only [ite_or, ← not_deepEqual_resources_iff]
  rfl

theorem VLLMRouter.args_of_ok {router : VLLMRouter} (h : router.args = .ok args) :
    ∃ rest, args = "--host" :: "0.0.0.0" :: "--port" :: toString router.spec.port :: rest := by
  unfold VLLMRouter.args at h
  cases hdiscovery : router.discoveryArgs with
  | error e => rw [hdiscovery] at h; cases h
  | ok discovery =>
    rw [hdiscovery] at h
    cases h
    exact ⟨_, rfl⟩

/-- The port is one of the arguments. -/
theorem VLLMRouter.port_of_args (hv : v.args = .ok args) (hw : w.args = .ok args) :
    v.spec.port = w.spec.port := by
  obtain ⟨rest, hrest⟩ := VLLMRouter.args_of_ok hv
  obtain ⟨rest', hrest'⟩ := VLLMRouter.args_of_ok hw
  have hargs := hrest.symm.trans hrest'
  simp only [List.cons.injEq] at hargs
  exact Int.repr_injective hargs.2.2.2.1

/-- If nothing is noticed, the pod templates are the same up to what is not read. -/
theorem VLLMRouter.sameTemplate_iff {spec : VLLMRouterSpec} (hv : v.args = .ok args)
    (hw : ({ v with spec } : VLLMRouter).args = .ok args')
    (hnoticed : ¬ v.Noticed { v with spec } resources expected args args') :
    (v.deployment resources args).SameTemplate
      (VLLMRouter.deployment { v with spec } expected args') ↔ v.UnreadAgree { v with spec } := by
  simp only [VLLMRouter.Noticed, not_or, not_not] at hnoticed
  obtain ⟨-, himage, hresources, rfl⟩ := hnoticed
  have hport : v.spec.port = spec.port := VLLMRouter.port_of_args hv hw
  constructor
  · intro hsame
    obtain ⟨hcontainer, -⟩ := List.forall₂_cons.mp hsame.containers
    exact {
      env := congrArg Container.env hcontainer.others
      serviceAccountName := hsame.serviceAccountName
      nodeSelectorTerms := affinityOf_injective hsame.affinity
      imagePullPolicy := congrArg Container.imagePullPolicy hcontainer.others
      imagePullSecrets := hsame.imagePullSecrets }
  · intro hagree
    have hcontainer : Container.Same (v.container resources args')
        (VLLMRouter.container { v with spec } expected args') := by
      refine ⟨hresources.symm, ?_⟩
      simp only [VLLMRouter.container, hagree.env, hagree.imagePullPolicy, himage, hport]
    exact {
      labels := Dict.Same.refl _
      annotations := Dict.Same.refl _
      serviceAccountName := hagree.serviceAccountName
      runtimeClassName := rfl
      affinity := congrArg affinityOf hagree.nodeSelectorTerms
      tolerations := rfl
      imagePullSecrets := hagree.imagePullSecrets
      volumes := rfl
      containers := .cons hcontainer .nil }

theorem CacheServer.sameTemplate_iff {v : CacheServer} {spec : CacheServerSpec}
    (hnoticed : ¬ v.Noticed { v with spec } resources expected) :
    (v.deployment resources).SameTemplate (CacheServer.deployment { v with spec } expected) ↔
      v.UnreadAgree { v with spec } := by
  simp only [CacheServer.Noticed, not_or, not_not] at hnoticed
  obtain ⟨-, himage, hresources⟩ := hnoticed
  constructor
  · intro hsame
    obtain ⟨hcontainer, -⟩ := List.forall₂_cons.mp hsame.containers
    have hports := congrArg Container.ports hcontainer.others
    simp only [CacheServer.container, List.cons.injEq, ContainerPort.mk.injEq] at hports
    exact ⟨hports.1.2, congrArg Container.imagePullPolicy hcontainer.others⟩
  · intro hagree
    have hcontainer : Container.Same (v.container resources)
        (CacheServer.container { v with spec } expected) := by
      refine ⟨hresources.symm, ?_⟩
      simp only [CacheServer.container, hagree.port, hagree.imagePullPolicy, himage]
    exact {
      labels := Dict.Same.refl _
      annotations := Dict.Same.refl _
      serviceAccountName := rfl
      runtimeClassName := rfl
      affinity := rfl
      tolerations := rfl
      imagePullSecrets := rfl
      volumes := rfl
      containers := .cons hcontainer .nil }

end Checks

/-! A concrete router and a concrete cache server. -/

def aRouter (routingLogic : String) (env : List UserEnvVar) : VLLMRouter where
  name := "router"
  ns := "default"
  labels := .empty
  spec := {
    replicas := 1
    serviceDiscovery := "k8s"
    k8sLabelSelector := "app=vllm"
    staticBackends := ""
    staticModels := ""
    routingLogic := routingLogic
    sessionKey := ""
    lmcacheControllerPort := 0
    engineScrapeInterval := 30
    requestStatsWindow := 60
    extraArgs := []
    nodeSelectorTerms := none
    serviceAccountName := "router-sa"
    port := 80
    image := ⟨"docker.io", "router", "", ""⟩
    resources := ⟨"2", "8Gi", "", ""⟩
    env := env
    vllmApiKeySecret := ""
    vllmApiKeyName := "" }

def aCacheServer (port : Int) (cpu : String) : CacheServer where
  name := "cache"
  ns := "default"
  spec := ⟨⟨"docker.io", "lmcache", "", ""⟩, port, ⟨cpu, "8Gi", "", ""⟩, 1⟩

/-- An edit of the spec that changes the pod template leads to an update exactly if it shows
in what the check reads, or leaves alone what it does not read. -/
theorem router_and_cache_edit_detected_iff [DecidableEq Q] (q : Quantities Q) :
    (∀ (router : VLLMRouter) (spec : VLLMRouterSpec) (dep dep' : Deployment Q)
      (resources expected : ResourceRequirements Q) (args args' : List String),
      deploymentForVLLMRouter router q = .ok dep →
      deploymentForVLLMRouter { router with spec } q = .ok dep' →
      buildCpuAndMemory q router.spec.resources = .ok resources →
      buildCpuAndMemory q spec.resources = .ok expected →
      router.args = .ok args → ({ router with spec } : VLLMRouter).args = .ok args' →
      ((¬ dep.SameTemplate dep' →
          VLLMRouter.deploymentNeedsUpdate q dep { router with spec } = .ok true) ↔
        router.Noticed { router with spec } resources expected args args' ∨
          router.UnreadAgree { router with spec })) ∧
    ∀ (cacheServer : CacheServer) (spec : CacheServerSpec) (dep dep' : Deployment Q)
      (resources expected : ResourceRequirements Q),
      deploymentForCacheServer cacheServer q = .ok dep →
      deploymentForCacheServer { cacheServer with spec } q = .ok dep' →
      buildCpuAndMemory q cacheServer.spec.resources = .ok resources →
      buildCpuAndMemory q spec.resources = .ok expected →
      ((¬ dep.SameTemplate dep' →
          CacheServer.deploymentNeedsUpdate q dep { cacheServer with spec } = .ok true) ↔
        cacheServer.Noticed { cacheServer with spec } resources expected ∨
          cacheServer.UnreadAgree { cacheServer with spec }) := by
  constructor
  · intro router spec dep dep' resources expected args args' hdep hdep' hr he hargs hargs'
    obtain ⟨_, _, hr', ha', rfl⟩ := VLLMRouter.deployment_of_built hdep
    obtain ⟨_, _, he', hb', rfl⟩ := VLLMRouter.deployment_of_built hdep'
    cases hr.symm.trans hr'
    cases he.symm.trans he'
    cases hargs.symm.trans ha'
    cases hargs'.symm.trans hb'
    rw [VLLMRouter.deploymentNeedsUpdate_built hdep']
    by_cases hnoticed : router.Noticed { router with spec } resources expected args args'
    · simp [hnoticed]
    · simp [hnoticed, VLLMRouter.sameTemplate_iff hargs hargs' hnoticed]
  · intro cacheServer spec dep dep' resources expected hdep hdep' hr he
    obtain ⟨_, hr', rfl⟩ := CacheServer.deployment_of_built hdep
    obtain ⟨_, he', rfl⟩ := CacheServer.deployment_of_built hdep'
    cases hr.symm.trans hr'
    cases he.symm.trans he'
    rw [CacheServer.deploymentNeedsUpdate_built hdep']
    by_cases hnoticed : cacheServer.Noticed { cacheServer with spec } resources expected
    · simp [hnoticed]
    · simp [hnoticed, CacheServer.sameTemplate_iff hnoticed]

theorem routing_and_cpu_edits_detected :
    (∃ dep, deploymentForVLLMRouter (aRouter "roundrobin" []) written = .ok dep ∧
      VLLMRouter.deploymentNeedsUpdate written dep (aRouter "prefixaware" []) = .ok true) ∧
    ∃ dep, deploymentForCacheServer (aCacheServer 8000 "1") written = .ok dep ∧
      CacheServer.deploymentNeedsUpdate written dep (aCacheServer 8000 "2") = .ok true := by
  obtain ⟨hrouter, hcache⟩ := router_and_cache_edit_detected_iff written
  constructor
  · refine ⟨_, rfl, (hrouter (aRouter "roundrobin" []) (aRouter "prefixaware" []).spec _ _ _ _ _ _
      rfl rfl rfl rfl rfl rfl).mpr (Or.inl ?_) ?_⟩
    · exact Or.inr (Or.inr (Or.inr (by decide)))
    · intro hsame
      obtain ⟨hcontainer, -⟩ := List.forall₂_cons.mp hsame.containers
      have hargs := congrArg Container.args hcontainer.others
      revert hargs
      decide
  · refine ⟨_, rfl, (hcache (aCacheServer 8000 "1") (aCacheServer 8000 "2").spec _ _ _ _
      rfl rfl rfl rfl).mpr (Or.inl ?_) ?_⟩
    · exact Or.inr (Or.inr (by decide))
    · intro hsame
      obtain ⟨hcontainer, -⟩ := List.forall₂_cons.mp hsame.containers
      have hresources := hcontainer.resources
      revert hresources
      decide

/-- Another environment variable of the router and another port of the cache server are not
noticed. -/
theorem env_and_port_edits_missed :
    (∃ dep dep', deploymentForVLLMRouter (aRouter "roundrobin" []) written = .ok dep ∧
      deploymentForVLLMRouter (aRouter "roundrobin" [⟨"LOG_LEVEL", "debug"⟩]) written = .ok dep' ∧
      ¬ dep.SameTemplate dep' ∧
      VLLMRouter.deploymentNeedsUpdate written dep
        (aRouter "roundrobin" [⟨"LOG_LEVEL", "debug"⟩]) = .ok false) ∧
    ∃ dep dep', deploymentForCacheServer (aCacheServer 8000 "1") written = .ok dep ∧
      deploymentForCacheServer (aCacheServer 9000 "1") written = .ok dep' ∧
      ¬ dep.SameTemplate dep' ∧
      CacheServer.deploymentNeedsUpdate written dep (aCacheServer 9000 "1") = .ok false := by
  constructor
  · refine ⟨_, _, rfl, rfl, ?_, rfl⟩
    intro hsame
    obtain ⟨hcontainer, -⟩ := List.forall₂_cons.mp hsame.containers
    have henv := congrArg (fun container => container.env.length) hcontainer.others
    revert henv
    decide
  · refine ⟨_, _, rfl, rfl, ?_, rfl⟩
    intro hsame
    obtain ⟨hcontainer, -⟩ := List.forall₂_cons.mp hsame.containers
    have hcommand := congrArg Container.command hcontainer.others
    revert hcommand
    decide

end ProductionStack.Operator

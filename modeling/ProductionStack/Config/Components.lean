import ProductionStack.Config.DynamicConfig
import ProductionStack.Python.Unicode

/-!
Service discovery and the router as they are built: by `initialize_all` from the
parsed arguments, and by `reconfigure_all` from a `DynamicRouterConfig`. The two
forward their arguments differently.
-/

namespace ProductionStack.Config

open Lib Python

/-! Service discovery. -/

def isLabelChar (c : Char) : Bool := c.isAlphanum || c = '_' || c = '-'

/-- A domain name, a single label, or an IPv4 address. -/
def isHost (host : List Char) : Bool :=
  let parts := host.splitOn '.'
  let topLevel := parts.getLastD []
  (parts.all (fun part => !part.isEmpty && part.all isLabelChar) &&
      (parts.length = 1 || (2 ≤ topLevel.length && topLevel.all Char.isAlpha))) ||
    (parts.length = 4 &&
      parts.all fun part => !part.isEmpty && part.length ≤ 3 && part.all isDecimal)

/-- `(/.*)?$`. The end may be before a last line break. -/
def isPath : List Char → Bool
  | [] | ['\n'] => true
  | '/' :: rest => (rest.dropWhile (· ≠ '\n')).length ≤ 1
  | _ => false

/-- `(:\d+)?(/.*)?$`. -/
def isPortAndPath : List Char → Bool
  | ':' :: rest => (rest.takeWhile isDecimal) ≠ [] && isPath (rest.dropWhile isDecimal)
  | rest => isPath rest

/-- What stands behind the protocol. -/
def withoutProtocol (url : String) : List Char :=
  if startsWith url "http://" then url.toList.drop 7
  else if startsWith url "https://" then url.toList.drop 8 else []

def inHost (c : Char) : Bool := isLabelChar c || c = '.' || isDecimal c

/-- The host of a URL. -/
def hostPart (url : String) : List Char := (withoutProtocol url).takeWhile inHost

/-- The port and the path. -/
def tailPart (url : String) : List Char := (withoutProtocol url).dropWhile inHost

def validateUrl (url : String) : Bool := isHost (hostPart url) && isPortAndPath (tailPart url)

/-- Invalid URLs are skipped. -/
def parseStaticUrls : Value → Except PyExc (List String)
  | .json (.str s) => .ok ((splitOn s ',').filter validateUrl)
  | _ => .error (.new .attributeError "object has no attribute 'split'")

def parseStaticAliases : Value → Except PyExc (Dict String String)
  | .json (.str s) =>
    (splitOn s ',').foldlM (fun aliases entry => match splitOn entry ':' with
      | [name, model] => .ok (aliases.set name model)
      | _ => .error (.new .valueError "wrong number of values to unpack")) .empty
  | _ => .error (.new .attributeError "object has no attribute 'split'")

/-- `parse_static_aliases(v) if v else None`. -/
def staticAliasesOf (v : Value) : Except PyExc (Option (Dict String String)) :=
  if v.truthy then some <$> parseStaticAliases v else .ok none

/-- A `StaticServiceDiscovery`. The labels of the prefill and decode engines are
whatever was passed. -/
structure StaticDiscovery where
  urls : List String
  models : List String
  paired : urls.length = models.length
  aliases : Option (Dict String String)
  modelLabels : Option (List String)
  modelTypes : Option (List String)
  healthChecks : Value
  healthCheckInterval : Value
  healthCheckTimeout : Value
  prefillModelLabels : Value
  decodeModelLabels : Value

/-- The attributes that both Kubernetes classes have. -/
structure K8sDiscovery where
  k8sNamespace : Value
  port : Value
  labelSelector : Value
  prefillModelLabels : Value
  decodeModelLabels : Value
  watcherTimeoutSeconds : Value
  healthCheckTimeoutSeconds : Value

/-- Only `K8sPodIPServiceDiscovery` has an event loop attached to it. -/
inductive Discovery where
  | static (d : StaticDiscovery)
  | podIP (d : K8sDiscovery) (eventLoop : Bool)
  | serviceName (d : K8sDiscovery)
  | externalOnly

/-- What the constructor of `StaticServiceDiscovery` is called with. -/
structure StaticArguments where
  urls : List String
  models : Option (List String)
  aliases : Option (Dict String String)
  modelLabels : Option (List String)
  modelTypes : Option (List String)
  healthChecks : Value
  healthCheckInterval : Value
  healthCheckTimeout : Value
  prefillModelLabels : Value
  decodeModelLabels : Value

def StaticArguments.create (a : StaticArguments) : Except PyExc Discovery :=
  match a.models with
  | none => .error (.new .typeError "object of type 'NoneType' has no len()")
  | some models =>
    if h : a.urls.length = models.length then
      .ok (.static ⟨a.urls, models, h, a.aliases, a.modelLabels, a.modelTypes, a.healthChecks,
        a.healthCheckInterval, a.healthCheckTimeout, a.prefillModelLabels, a.decodeModelLabels⟩)
    else .error (.new (.derived "AssertionError" .exception)
      "URLs and models should have the same length")

/-- `parse_comma_separated_args(v) if v else None`. -/
def unlessEmpty (v : Value) : Except PyExc (Option (List String)) :=
  if v.truthy then parseCommaSeparatedArgs v else .ok none

/-- A list of strings, as a value. -/
def listValue : Option (List String) → Value
  | none => .null
  | some items => .json (.arr (items.map .str))

/-- Which of the Kubernetes classes `k8s_service_discovery_type` names. -/
def isServiceName : Value → Except PyExc Bool
  | .json .null => .ok false
  | .json (.str s) => .ok (lower (strip s) = "service-name")
  | _ => .error (.new .attributeError "object has no attribute 'strip'")

/-- What a Kubernetes class needs from its surroundings: `load_incluster_config` or
`load_kube_config`, and the client. -/
abbrev KubeClient := Except PyExc Unit

/-- The service discovery that `initialize_all` creates. -/
def createAtStartup (kube : KubeClient) (args : Namespace) : Except PyExc Discovery := do
  let type := args (.field .serviceDiscovery)
  if is type "static" then
    let urls ← parseStaticUrls (args (.field .staticBackends))
    let models ← parseCommaSeparatedArgs (args (.field .staticModels))
    let aliases ← staticAliasesOf (args (.field .staticAliases))
    let modelTypes ← unlessEmpty (args (.field .staticModelTypes))
    let modelLabels ← unlessEmpty (args (.field .staticModelLabels))
    StaticArguments.create {
      urls, models, aliases, modelLabels, modelTypes
      healthChecks := args (.field .staticBackendHealthChecks)
      healthCheckInterval := args (.field .staticBackendHealthCheckInterval)
      healthCheckTimeout := args (.field .staticBackendHealthCheckTimeoutSeconds)
      prefillModelLabels := args (.field .prefillModelLabels)
      decodeModelLabels := args (.field .decodeModelLabels) }
  else if is type "k8s" then
    let serviceName ← isServiceName (args (.startup .k8sServiceDiscoveryType))
    kube
    let discovery : K8sDiscovery := {
      k8sNamespace := args (.field .k8sNamespace)
      port := args (.field .k8sPort)
      labelSelector := args (.field .k8sLabelSelector)
      prefillModelLabels := args (.field .prefillModelLabels)
      decodeModelLabels := args (.field .decodeModelLabels)
      watcherTimeoutSeconds := args (.startup .k8sWatcherTimeoutSeconds)
      healthCheckTimeoutSeconds := args (.startup .backendHealthCheckTimeoutSeconds) }
    pure (if serviceName then .serviceName discovery else .podIP discovery false)
  else if is type "external-only" then pure .externalOnly
  else .error (.new .valueError "Invalid service discovery type")

/-- The service discovery that `reconfigure_service_discovery` creates. -/
def createAtReload (kube : KubeClient) (config : DynamicRouterConfig) :
    Except PyExc Discovery := do
  let type := config .serviceDiscovery
  if is type "static" then
    let urls ← parseStaticUrls (config .staticBackends)
    let models ← parseCommaSeparatedArgs (config .staticModels)
    let aliases ← staticAliasesOf (config .staticAliases)
    let modelLabels ← parseCommaSeparatedArgs (config .staticModelLabels)
    let modelTypes ← parseCommaSeparatedArgs (config .staticModelTypes)
    let prefillModelLabels ← parseCommaSeparatedArgs (config .prefillModelLabels)
    let decodeModelLabels ← parseCommaSeparatedArgs (config .decodeModelLabels)
    StaticArguments.create {
      urls, models, aliases, modelLabels, modelTypes
      healthChecks := config .staticBackendHealthChecks
      healthCheckInterval := config .staticBackendHealthCheckInterval
      healthCheckTimeout := config .staticBackendHealthCheckTimeoutSeconds
      prefillModelLabels := listValue prefillModelLabels
      decodeModelLabels := listValue decodeModelLabels }
  else if is type "k8s" then
    let prefillModelLabels ← parseCommaSeparatedArgs (config .prefillModelLabels)
    let decodeModelLabels ← parseCommaSeparatedArgs (config .decodeModelLabels)
    kube
    -- the type is not passed, and the timeouts are those of the constructor
    pure (.podIP {
      k8sNamespace := config .k8sNamespace
      port := config .k8sPort
      labelSelector := config .k8sLabelSelector
      prefillModelLabels := listValue prefillModelLabels
      decodeModelLabels := listValue decodeModelLabels
      watcherTimeoutSeconds := .json (.int 0)
      healthCheckTimeoutSeconds := .json (.int 10) } false)
  else .error (.new .valueError "Invalid service discovery type")

/-- `set_event_loop` in `lifespan`. -/
def Discovery.attached : Discovery → Discovery
  | .podIP d _ => .podIP d true
  | d => d

/-! The router. -/

inductive RoutingLogic where
  | roundRobin
  | sessionBased
  | kvaware
  | loadaware
  | prefixaware
  | disaggregatedPrefill
  | disaggregatedPrefillOrchestrated
  | priority
  deriving DecidableEq

def RoutingLogic.ofString : String → Option RoutingLogic
  | "roundrobin" => some .roundRobin
  | "session" => some .sessionBased
  | "kvaware" => some .kvaware
  | "loadaware" => some .loadaware
  | "prefixaware" => some .prefixaware
  | "disaggregated_prefill" => some .disaggregatedPrefill
  | "disaggregated_prefill_orchestrated" => some .disaggregatedPrefillOrchestrated
  | "priority" => some .priority
  | _ => none

/-- Which routing logic a value is equal to. -/
def RoutingLogic.of : Value → Option RoutingLogic
  | .json (.str s) => RoutingLogic.ofString s
  | _ => none

/-- The keyword arguments of `initialize_routing_logic`. What is not passed is
absent. -/
structure RoutingArguments where
  sessionKey : Option Value
  lmcacheControllerPort : Option Value
  lmcacheControllerReplyPort : Option Value
  lmcacheControllerHeartbeatPort : Option Value
  prefillModelLabels : Option Value
  decodeModelLabels : Option Value
  kvAwareThreshold : Option Value
  loadawareBeta : Option Value
  prefixMinMatchLength : Option Value
  priorityHeader : Option Value
  priorityField : Option Value
  priorityDefault : Option Value
  priorityThreshold : Option Value
  maxInstanceFailoverRerouteAttempts : Option Value
  lmcacheHealthCheckInterval : Option Value
  lmcacheWorkerTimeout : Option Value

/-- The LMCache controller of a `KvawareRouter` or `LoadAwareRouter`. -/
structure KvController where
  controllerPort : Value
  replyPort : Value
  heartbeatPort : Value
  healthCheckInterval : Value
  workerTimeout : Value

inductive RouterState where
  | roundRobin
  | sessionBased (sessionKey : Value)
  | kvaware (controller : KvController) (sessionKey threshold : Value)
  | loadaware (controller : KvController) (sessionKey threshold beta : Value)
  | prefixaware (prefixMinMatchLength : Value)
  | disaggregatedPrefill (prefillModelLabels decodeModelLabels : Value)
  | disaggregatedPrefillOrchestrated (prefillModelLabels decodeModelLabels : Value)
  | priority (header field default threshold : Value)

def RouterState.logic : RouterState → RoutingLogic
  | .roundRobin => .roundRobin
  | .sessionBased _ => .sessionBased
  | .kvaware _ _ _ => .kvaware
  | .loadaware _ _ _ _ => .loadaware
  | .prefixaware _ => .prefixaware
  | .disaggregatedPrefill _ _ => .disaggregatedPrefill
  | .disaggregatedPrefillOrchestrated _ _ => .disaggregatedPrefillOrchestrated
  | .priority _ _ _ _ => .priority

/-- A router. One whose `max_instance_failover_reroute_attempts` was never set has
no such attribute. -/
structure Router where
  state : RouterState
  maxInstanceFailoverRerouteAttempts : Option Value

/-- What LMCache and the environment answer: whether the controller starts, and the
weight of the load. -/
structure RouterSurroundings where
  controller : Except PyExc Unit
  loadawareBeta : Value → Except PyExc Value

/-- `kwargs.get(name)`. -/
def orNone (v : Option Value) : Value := v.getD .null

/-- `v or []`. -/
def orEmpty (v : Value) : Value := if v.truthy then v else .json (.arr [])

/-- `a if a is not None else b`. -/
def unlessNone (a b : Value) : Value := if isNone a then b else a

namespace RoutingArguments

variable (a : RoutingArguments)

def kvController : KvController where
  controllerPort := orNone a.lmcacheControllerPort
  replyPort := orNone a.lmcacheControllerReplyPort
  heartbeatPort := orNone a.lmcacheControllerHeartbeatPort
  healthCheckInterval := orNone a.lmcacheHealthCheckInterval
  workerTimeout := orNone a.lmcacheWorkerTimeout

/-- The constructors of the routers. -/
def create (surroundings : RouterSurroundings) : RoutingLogic → Except PyExc RouterState
  | .roundRobin => .ok .roundRobin
  | .sessionBased =>
    if isNone (orNone a.sessionKey) then
      .error (.new .valueError "SessionRouter must be initialized with a session_key")
    else .ok (.sessionBased (orNone a.sessionKey))
  | .kvaware => do
      surroundings.controller
      pure (.kvaware a.kvController (orNone a.sessionKey) (orNone a.kvAwareThreshold))
  | .loadaware => do
      surroundings.controller
      let beta ← surroundings.loadawareBeta (orNone a.loadawareBeta)
      pure (.loadaware a.kvController (orNone a.sessionKey)
        (unlessNone (orNone a.kvAwareThreshold) (.json (.int 2000))) beta)
  | .prefixaware => .ok (.prefixaware (a.prefixMinMatchLength.getD (.json (.int 0))))
  | .disaggregatedPrefill =>
    .ok (.disaggregatedPrefill (orNone a.prefillModelLabels) (orNone a.decodeModelLabels))
  | .disaggregatedPrefillOrchestrated =>
    .ok (.disaggregatedPrefillOrchestrated (orEmpty (orNone a.prefillModelLabels))
      (orEmpty (orNone a.decodeModelLabels)))
  | .priority =>
    let default := a.priorityDefault.getD (.json (.int 0))
    .ok (.priority (a.priorityHeader.getD (.str "x-request-priority"))
      (a.priorityField.getD (.str "priority")) default
      (unlessNone (orNone a.priorityThreshold) default))

/-- The orchestrated router is returned before the number of reroute attempts is
set. -/
def reroutes : RoutingLogic → Option Value
  | .disaggregatedPrefillOrchestrated => none
  | _ => some (a.maxInstanceFailoverRerouteAttempts.getD (.json (.int 0)))

/-- `initialize_routing_logic`. -/
def initializeRoutingLogic (surroundings : RouterSurroundings) (routingLogic : Value) :
    Except PyExc Router :=
  match RoutingLogic.of routingLogic with
  | none => .error (.new .valueError "Invalid routing logic")
  | some logic => do
      let state ← a.create surroundings logic
      pure ⟨state, a.reroutes logic⟩

end RoutingArguments

/-- What `initialize_all` passes. -/
def routingArgumentsAtStartup (args : Namespace) : RoutingArguments where
  sessionKey := some (args (.field .sessionKey))
  lmcacheControllerPort := some (args (.startup .lmcacheControllerPort))
  lmcacheControllerReplyPort := some (args (.startup .lmcacheControllerReplyPort))
  lmcacheControllerHeartbeatPort := some (args (.startup .lmcacheControllerHeartbeatPort))
  prefillModelLabels := some (args (.field .prefillModelLabels))
  decodeModelLabels := some (args (.field .decodeModelLabels))
  kvAwareThreshold := some (args (.startup .kvAwareThreshold))
  loadawareBeta := some (args (.startup .loadawareBeta))
  prefixMinMatchLength := some (args (.startup .prefixMinMatchLength))
  priorityHeader := some (args (.field .priorityHeader))
  priorityField := some (args (.field .priorityField))
  priorityDefault := some (args (.field .priorityDefault))
  priorityThreshold := some (args (.field .priorityThreshold))
  maxInstanceFailoverRerouteAttempts :=
    some (args (.startup .maxInstanceFailoverRerouteAttempts))
  lmcacheHealthCheckInterval := some (args (.startup .lmcacheHealthCheckInterval))
  lmcacheWorkerTimeout := some (args (.startup .lmcacheWorkerTimeout))

/-- What the watcher passes. -/
def routingArgumentsAtReload (config : DynamicRouterConfig) : RoutingArguments where
  sessionKey := some (config .sessionKey)
  lmcacheControllerPort := none
  lmcacheControllerReplyPort := none
  lmcacheControllerHeartbeatPort := none
  prefillModelLabels := none
  decodeModelLabels := none
  kvAwareThreshold := none
  loadawareBeta := none
  prefixMinMatchLength := none
  priorityHeader := some (config .priorityHeader)
  priorityField := some (config .priorityField)
  priorityDefault := some (config .priorityDefault)
  priorityThreshold := some (config .priorityThreshold)
  maxInstanceFailoverRerouteAttempts := none
  lmcacheHealthCheckInterval := none
  lmcacheWorkerTimeout := none

def routerAtStartup (surroundings : RouterSurroundings) (args : Namespace) :
    Except PyExc Router :=
  (routingArgumentsAtStartup args).initializeRoutingLogic surroundings
    (args (.field .routingLogic))

def routerAtReload (surroundings : RouterSurroundings) (config : DynamicRouterConfig) :
    Except PyExc Router :=
  (routingArgumentsAtReload config).initializeRoutingLogic surroundings (config .routingLogic)

end ProductionStack.Config

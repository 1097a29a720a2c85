import ProductionStack.Routing.PrefixAware

/-!
The arguments of the router: what `build_parser` declares, how a configuration
file and the command line fill it, and what `validate_args` asks of the result.
The values of the file become defaults of the parser. A default that is a string
is converted as a string on the command line would be; any other value stays as
the file has it, and the choices are not checked.
-/

namespace ProductionStack.Config

open Lib Python

/-- A value that the file or the command line gives. YAML knows values that JSON
does not, such as dates. Of these it only matters whether they are true, and
whether a second load of the file gives an equal one. -/
inductive Value where
  | json (value : Json)
  | other (id : Nat) (holds reloads : Bool)

namespace Value

def null : Value := .json .null

def str (s : String) : Value := .json (.str s)

/-- `bool(v)`. -/
def truthy : Value → Bool
  | .json j => j.truthy
  | .other _ holds _ => holds

/-- `isinstance(v, str)`. -/
def isStr : Value → Bool
  | .json (.str _) => true
  | _ => false

/-- `v == v'`, for values of two loads. -/
def pyEq : Value → Value → Bool
  | .json j, .json j' => j.pyEq j'
  | .other id _ reloads, .other id' _ _ => id = id' && reloads
  | _, _ => false

/-- A second load gives an equal value. -/
def reloads : Value → Bool
  | .json _ => true
  | .other _ _ reloads => reloads

theorem pyEq_self (v : Value) : v.pyEq v = v.reloads := by
  cases v with
  | json j => exact j.pyEq_refl
  | other id holds reloads => simp [pyEq, Value.reloads]

/-- `v <= q`. -/
def atMost (v : Value) (q : ℚ) : Except PyExc Bool :=
  match v with
  | .json j => match j.number? with
      | some (.finite x) => .ok (x ≤ q)
      | some .negInf => .ok true
      | some .inf | some .nan => .ok false
      | none => .error (.new .typeError "'<=' not supported between these instances")
  | .other _ _ _ => .error (.new .typeError "'<=' not supported between these instances")

/-- `q <= v`. -/
def atLeast (v : Value) (q : ℚ) : Except PyExc Bool :=
  match v with
  | .json j => match j.number? with
      | some (.finite x) => .ok (q ≤ x)
      | some .inf => .ok true
      | some .negInf | some .nan => .ok false
      | none => .error (.new .typeError "'<=' not supported between these instances")
  | .other _ _ _ => .error (.new .typeError "'<=' not supported between these instances")

end Value

/-! `build_parser`. -/

inductive ArgType where
  | str
  | int
  | float
  | untyped
  deriving DecidableEq

/-- An argument. A flag that is set by being named is untyped. -/
structure Action where
  dest : String
  type : ArgType
  default : Json
  choices : List String := []

/-- The arguments that are fields of `DynamicRouterConfig` too. -/
inductive Field where
  | serviceDiscovery
  | routingLogic
  | staticBackends
  | staticModels
  | staticAliases
  | staticModelLabels
  | staticModelTypes
  | staticBackendHealthChecks
  | staticBackendHealthCheckInterval
  | staticBackendHealthCheckTimeoutSeconds
  | prefillModelLabels
  | decodeModelLabels
  | k8sPort
  | k8sNamespace
  | k8sLabelSelector
  | sessionKey
  | priorityHeader
  | priorityField
  | priorityDefault
  | priorityThreshold
  | callbacks
  | timeoutKeepAlive
  deriving DecidableEq

/-- The other arguments, which only count at startup. -/
inductive StartupOption where
  | help
  | version
  | host
  | port
  | rootPath
  | backendConnectTimeout
  | backendReadTimeout
  | k8sServiceDiscoveryType
  | k8sWatcherTimeoutSeconds
  | backendHealthCheckTimeoutSeconds
  | lmcacheControllerPort
  | lmcacheControllerReplyPort
  | lmcacheControllerHeartbeatPort
  | requestRewriter
  | enableBatchApi
  | fileStorageClass
  | fileStoragePath
  | batchProcessor
  | engineStatsInterval
  | requestStatsWindow
  | logStats
  | logStatsInterval
  | dynamicConfigYaml
  | dynamicConfigJson
  | featureGates
  | logLevel
  | logFormat
  | sentryDsn
  | sentryTracesSampleRate
  | sentryProfileSessionSampleRate
  | otelEndpoint
  | otelServiceName
  | otelSecure
  | kvAwareThreshold
  | loadawareBeta
  | prefixMinMatchLength
  | maxInstanceFailoverRerouteAttempts
  | lmcacheHealthCheckInterval
  | lmcacheWorkerTimeout
  | externalProvidersConfig
  | semanticCacheModel
  | semanticCacheDir
  | semanticCacheThreshold
  deriving DecidableEq

inductive Dest where
  | field (f : Field)
  | startup (o : StartupOption)
  deriving DecidableEq

def Field.all : List Field :=
  [.serviceDiscovery, .routingLogic, .staticBackends, .staticModels, .staticAliases,
    .staticModelLabels, .staticModelTypes, .staticBackendHealthChecks,
    .staticBackendHealthCheckInterval, .staticBackendHealthCheckTimeoutSeconds,
    .prefillModelLabels, .decodeModelLabels, .k8sPort, .k8sNamespace, .k8sLabelSelector,
    .sessionKey, .priorityHeader, .priorityField, .priorityDefault, .priorityThreshold,
    .callbacks, .timeoutKeepAlive]

def StartupOption.all : List StartupOption :=
  [.help, .version, .host, .port, .rootPath, .backendConnectTimeout, .backendReadTimeout,
    .k8sServiceDiscoveryType, .k8sWatcherTimeoutSeconds, .backendHealthCheckTimeoutSeconds,
    .lmcacheControllerPort, .lmcacheControllerReplyPort, .lmcacheControllerHeartbeatPort,
    .requestRewriter, .enableBatchApi, .fileStorageClass, .fileStoragePath, .batchProcessor,
    .engineStatsInterval, .requestStatsWindow, .logStats, .logStatsInterval,
    .dynamicConfigYaml, .dynamicConfigJson, .featureGates, .logLevel, .logFormat, .sentryDsn,
    .sentryTracesSampleRate, .sentryProfileSessionSampleRate, .otelEndpoint, .otelServiceName,
    .otelSecure, .kvAwareThreshold, .loadawareBeta, .prefixMinMatchLength,
    .maxInstanceFailoverRerouteAttempts, .lmcacheHealthCheckInterval, .lmcacheWorkerTimeout,
    .externalProvidersConfig, .semanticCacheModel, .semanticCacheDir, .semanticCacheThreshold]

def Dest.all : List Dest := Field.all.map .field ++ StartupOption.all.map .startup

theorem Field.mem_all (f : Field) : f ∈ Field.all := by
  cases f <;> decide

theorem StartupOption.mem_all (o : StartupOption) : o ∈ StartupOption.all := by
  cases o <;> decide

theorem Dest.mem_all : ∀ d : Dest, d ∈ Dest.all
  | .field f => List.mem_append_left _ (List.mem_map_of_mem f.mem_all)
  | .startup o => List.mem_append_right _ (List.mem_map_of_mem o.mem_all)

def routingLogics : List String :=
  ["roundrobin", "session", "kvaware", "loadaware", "prefixaware", "disaggregated_prefill",
    "disaggregated_prefill_orchestrated", "priority"]

def Field.action : Field → Action
  | .serviceDiscovery => ⟨"service_discovery", .str, .null, ["static", "k8s", "external-only"]⟩
  | .routingLogic => ⟨"routing_logic", .str, .null, routingLogics⟩
  | .staticBackends => ⟨"static_backends", .str, .null, []⟩
  | .staticModels => ⟨"static_models", .str, .null, []⟩
  | .staticAliases => ⟨"static_aliases", .str, .null, []⟩
  | .staticModelLabels => ⟨"static_model_labels", .str, .null, []⟩
  | .staticModelTypes => ⟨"static_model_types", .str, .null, []⟩
  | .staticBackendHealthChecks => ⟨"static_backend_health_checks", .untyped, .bool false, []⟩
  | .staticBackendHealthCheckInterval =>
    ⟨"static_backend_health_check_interval", .int, .int 60, []⟩
  | .staticBackendHealthCheckTimeoutSeconds =>
    ⟨"static_backend_health_check_timeout_seconds", .int, .int 10, []⟩
  | .prefillModelLabels => ⟨"prefill_model_labels", .str, .null, []⟩
  | .decodeModelLabels => ⟨"decode_model_labels", .str, .null, []⟩
  | .k8sPort => ⟨"k8s_port", .int, .int 8000, []⟩
  | .k8sNamespace => ⟨"k8s_namespace", .str, .str "default", []⟩
  | .k8sLabelSelector => ⟨"k8s_label_selector", .str, .str "", []⟩
  | .sessionKey => ⟨"session_key", .str, .null, []⟩
  | .priorityHeader => ⟨"priority_header", .str, .str "x-request-priority", []⟩
  | .priorityField => ⟨"priority_field", .str, .str "priority", []⟩
  | .priorityDefault => ⟨"priority_default", .int, .int 0, []⟩
  | .priorityThreshold => ⟨"priority_threshold", .int, .null, []⟩
  | .callbacks => ⟨"callbacks", .str, .null, []⟩
  | .timeoutKeepAlive => ⟨"timeout_keep_alive", .int, .int 5, []⟩

/-- `help` and `version` have no default: they are not in the namespace unless the
file puts them there. -/
def StartupOption.action : StartupOption → Action
  | .help => ⟨"help", .untyped, .null, []⟩
  | .version => ⟨"version", .untyped, .null, []⟩
  | .host => ⟨"host", .str, .str "0.0.0.0", []⟩
  | .port => ⟨"port", .int, .int 8080, []⟩
  | .rootPath => ⟨"root_path", .str, .str "", []⟩
  | .backendConnectTimeout => ⟨"backend_connect_timeout", .float, .float (.finite 10), []⟩
  | .backendReadTimeout => ⟨"backend_read_timeout", .float, .float (.finite 300), []⟩
  | .k8sServiceDiscoveryType =>
    ⟨"k8s_service_discovery_type", .str, .null, ["pod-ip", "service-name"]⟩
  | .k8sWatcherTimeoutSeconds => ⟨"k8s_watcher_timeout_seconds", .int, .int 0, []⟩
  | .backendHealthCheckTimeoutSeconds =>
    ⟨"backend_health_check_timeout_seconds", .int, .int 10, []⟩
  | .lmcacheControllerPort => ⟨"lmcache_controller_port", .int, .int 9000, []⟩
  | .lmcacheControllerReplyPort => ⟨"lmcache_controller_reply_port", .int, .null, []⟩
  | .lmcacheControllerHeartbeatPort => ⟨"lmcache_controller_heartbeat_port", .int, .null, []⟩
  | .requestRewriter => ⟨"request_rewriter", .str, .str "noop", ["noop"]⟩
  | .enableBatchApi => ⟨"enable_batch_api", .untyped, .bool false, []⟩
  | .fileStorageClass => ⟨"file_storage_class", .str, .str "local_file", ["local_file"]⟩
  | .fileStoragePath => ⟨"file_storage_path", .str, .str "/tmp/vllm_files", []⟩
  | .batchProcessor => ⟨"batch_processor", .str, .str "local", ["local"]⟩
  | .engineStatsInterval => ⟨"engine_stats_interval", .int, .int 30, []⟩
  | .requestStatsWindow => ⟨"request_stats_window", .int, .int 60, []⟩
  | .logStats => ⟨"log_stats", .untyped, .bool false, []⟩
  | .logStatsInterval => ⟨"log_stats_interval", .int, .int 10, []⟩
  | .dynamicConfigYaml => ⟨"dynamic_config_yaml", .str, .null, []⟩
  | .dynamicConfigJson => ⟨"dynamic_config_json", .str, .null, []⟩
  | .featureGates => ⟨"feature_gates", .str, .str "", []⟩
  | .logLevel =>
    ⟨"log_level", .str, .str "info", ["critical", "error", "warning", "info", "debug", "trace"]⟩
  | .logFormat => ⟨"log_format", .str, .str "text", ["text", "json"]⟩
  | .sentryDsn => ⟨"sentry_dsn", .str, .null, []⟩
  | .sentryTracesSampleRate =>
    ⟨"sentry_traces_sample_rate", .float, .float (.finite (1 / 10)), []⟩
  | .sentryProfileSessionSampleRate =>
    ⟨"sentry_profile_session_sample_rate", .float, .float (.finite 1), []⟩
  | .otelEndpoint => ⟨"otel_endpoint", .str, .null, []⟩
  | .otelServiceName => ⟨"otel_service_name", .str, .str "vllm-router", []⟩
  | .otelSecure => ⟨"otel_secure", .untyped, .bool false, []⟩
  | .kvAwareThreshold => ⟨"kv_aware_threshold", .int, .int 2000, []⟩
  | .loadawareBeta => ⟨"loadaware_beta", .float, .null, []⟩
  | .prefixMinMatchLength => ⟨"prefix_min_match_length", .int, .int 0, []⟩
  | .maxInstanceFailoverRerouteAttempts =>
    ⟨"max_instance_failover_reroute_attempts", .int, .int 0, []⟩
  | .lmcacheHealthCheckInterval => ⟨"lmcache_health_check_interval", .int, .int 5, []⟩
  | .lmcacheWorkerTimeout => ⟨"lmcache_worker_timeout", .int, .int 30, []⟩
  | .externalProvidersConfig => ⟨"external_providers_config", .str, .null, []⟩
  | .semanticCacheModel => ⟨"semantic_cache_model", .str, .str "all-MiniLM-L6-v2", []⟩
  | .semanticCacheDir => ⟨"semantic_cache_dir", .str, .str "semantic_cache", []⟩
  | .semanticCacheThreshold =>
    ⟨"semantic_cache_threshold", .float, .float (.finite (95 / 100)), []⟩

def Dest.action : Dest → Action
  | .field f => f.action
  | .startup o => o.action

/-- What the interpreter and the installed packages decide: what `int`, `float` and
`str` make of a value, and whether the semantic cache is there. -/
structure Runtime where
  int : String → Option Int
  float : String → Option PyFloat
  str : Json → String
  semanticCacheAvailable : Bool

/-- `add_semantic_cache_args` is only called if the package is there. -/
def Runtime.declares (runtime : Runtime) : Dest → Bool
  | .startup .semanticCacheModel | .startup .semanticCacheDir
  | .startup .semanticCacheThreshold => runtime.semanticCacheAvailable
  | _ => true

/-- `_recognized_arg_dests`. -/
def Runtime.recognizedArgDests (runtime : Runtime) : List String :=
  (Dest.all.filter runtime.declares).map (·.action.dest)

/-! `parse_args`. -/

/-- What the command line may say for an argument. -/
def Action.accepts (action : Action) : Json → Bool
  | .str s => action.type = .str && (action.choices.isEmpty || action.choices.contains s)
  | .int _ => action.type = .int
  | .float _ => action.type = .float
  | .bool b => action.type = .untyped && b
  | .null | .arr _ | .obj _ => false

/-- The arguments that the command line gives. `--help` and `--version` exit, and
only one configuration file may be named. -/
structure CommandLine where
  given : Dest → Option Json
  accepted : ∀ dest v, given dest = some v → dest.action.accepts v = true
  runs : given (.startup .help) = none ∧ given (.startup .version) = none
  exclusive : given (.startup .dynamicConfigYaml) = none ∨
    given (.startup .dynamicConfigJson) = none

/-- How the start of the router fails: the process exits, or an exception is raised. -/
inductive Failure where
  | exit (code : Nat)
  | raised (e : PyExc)

abbrev Namespace := Dest → Value

def Namespace.set (args : Namespace) (dest : Dest) (v : Value) : Namespace :=
  Function.update args dest v

/-- A default is converted if it is a string. -/
def Runtime.getValue (runtime : Runtime) (type : ArgType) : Value → Option Value
  | .json (.str s) =>
    match type with
    | .str | .untyped => some (.str s)
    | .int => (runtime.int s).map fun n => .json (.int n)
    | .float => (runtime.float s).map fun x => .json (.float x)
  | v => some v

/-- The value of an argument, unless it cannot be converted. -/
def Runtime.argument (runtime : Runtime) (cli : CommandLine) (defaults : Dict String Value)
    (dest : Dest) : Option Value :=
  match cli.given dest with
  | some v => some (.json v)
  | none =>
    let default := (defaults.get? dest.action.dest).getD (.json dest.action.default)
    if runtime.declares dest then runtime.getValue dest.action.type default else some default

/-- `parser.set_defaults(**defaults)` and `parser.parse_args()`. -/
def Runtime.parse (runtime : Runtime) (cli : CommandLine) (defaults : Dict String Value) :
    Except Failure Namespace :=
  if Dest.all.all fun dest => (runtime.argument cli defaults dest).isSome then
    .ok fun dest => (runtime.argument cli defaults dest).getD .null
  else .error (.exit 2)

theorem argument_of_parse {runtime : Runtime} {cli : CommandLine} {defaults : Dict String Value}
    {args : Namespace} (h : runtime.parse cli defaults = .ok args) (dest : Dest) :
    runtime.argument cli defaults dest = some (args dest) := by
  unfold Runtime.parse at h
  split at h
  · rename_i hall
    have hsome := List.all_eq_true.mp hall dest dest.mem_all
    obtain ⟨v, hv⟩ := Option.isSome_iff_exists.mp hsome
    obtain rfl := Except.ok.inj h
    simp [hv]
  · cases h

/-! `validate_args`. -/

def verifyRequiredArgsProvided (args : Namespace) : Except Failure Namespace :=
  if !(args (.field .routingLogic)).truthy then .error (.exit 1)
  else if (args (.field .serviceDiscovery)).truthy then .ok args
  else if !(args (.startup .externalProvidersConfig)).truthy then .error (.exit 1)
  else .ok (args.set (.field .serviceDiscovery) (.str "external-only"))

/-- `s.split(sep)`. -/
def splitOn (s : String) (sep : Char) : List String :=
  (s.toList.splitOn sep).map String.ofList

def parseCommaSeparatedArgs : Value → Except PyExc (Option (List String))
  | .json .null => .ok none
  | .json (.str s) => .ok (some (splitOn s ','))
  | _ => .error (.new .attributeError "object has no attribute 'split'")

def modelTypes : List String :=
  ["chat", "completion", "embeddings", "rerank", "score", "transcription", "vision", "messages"]

def validateStaticModelTypes (types : Value) : Except PyExc Unit := do
  match ← parseCommaSeparatedArgs types with
  | none => .error (.new .valueError
      "Static model types must be provided when using the backend healthcheck.")
  | some names =>
    match names.find? fun name => !modelTypes.contains name with
    | some name => .error (.new .valueError ("The model type '" ++ name ++
        "' is not supported. Supported model types are '" ++ ",".intercalate modelTypes ++ "'"))
    | none => pure ()

def isNone (v : Value) : Bool :=
  match v with
  | .json .null => true
  | _ => false

/-- `v == s`, for a string `s`. -/
def is (v : Value) (s : String) : Bool :=
  match v with
  | .json (.str t) => t = s
  | _ => false

def require (condition : Bool) (message : String) : Except PyExc Unit :=
  if condition then pure () else .error (.new .valueError message)

/-- The checks of `validate_args` after the required arguments are there. -/
def checkArgs (args : Namespace) : Except PyExc Unit := do
  if is (args (.field .serviceDiscovery)) "static" then
    require (!isNone (args (.field .staticBackends)))
      "Static backends must be provided when using static service discovery."
    require (!isNone (args (.field .staticModels)))
      "Static models must be provided when using static service discovery."
    if (args (.field .staticBackendHealthChecks)).truthy then
      validateStaticModelTypes (args (.field .staticModelTypes))
  if is (args (.field .serviceDiscovery)) "k8s" then
    require (!isNone (args (.field .k8sPort)))
      "K8s port must be provided when using K8s service discovery."
  if is (args (.field .routingLogic)) "session" then
    require (!isNone (args (.field .sessionKey)))
      "Session key must be provided when using session routing logic."
  if (args (.startup .logStats)).truthy then
    require (!(← (args (.startup .logStatsInterval)).atMost 0))
      "Log stats interval must be greater than 0."
  require (!(← (args (.startup .engineStatsInterval)).atMost 0))
    "Engine stats interval must be greater than 0."
  require (!(← (args (.startup .requestStatsWindow)).atMost 0))
    "Request stats window must be greater than 0."
  let traces := args (.startup .sentryTracesSampleRate)
  require ((← traces.atLeast 0) && (← traces.atMost 1))
    "Sentry traces sample rate must be between 0.0 and 1.0."
  let profiles := args (.startup .sentryProfileSessionSampleRate)
  require ((← profiles.atLeast 0) && (← profiles.atMost 1))
    "Sentry profile session sample rate must be between 0.0 and 1.0."

def validateArgs (args : Namespace) : Except Failure Namespace := do
  let args ← verifyRequiredArgsProvided args
  (checkArgs args).mapError .raised
  pure args

end ProductionStack.Config

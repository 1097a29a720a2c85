import ProductionStack.Config.Watcher

/-!
A hot reload against a restart. What the watcher builds from a file is compared with
what a fresh start with the same command line and the same file builds.
-/

namespace ProductionStack.Config

open Lib Python

/-! What is compared. -/

inductive DiscoveryClass where
  | static
  | podIP
  | serviceName
  | externalOnly
  deriving DecidableEq

/-- The class, the URLs, models and labels, the label lists, the timeouts, and whether
an event loop is attached. -/
structure DiscoveryView where
  cls : DiscoveryClass
  urls : List String
  models : List String
  modelLabels : Option (List String)
  prefillModelLabels : Value
  decodeModelLabels : Value
  timeouts : List Value
  eventLoop : Bool

def K8sDiscovery.view (d : K8sDiscovery) (cls : DiscoveryClass) (eventLoop : Bool) :
    DiscoveryView :=
  ⟨cls, [], [], none, d.prefillModelLabels, d.decodeModelLabels,
    [d.watcherTimeoutSeconds, d.healthCheckTimeoutSeconds], eventLoop⟩

def Discovery.view : Discovery → DiscoveryView
  | .static d => ⟨.static, d.urls, d.models, d.modelLabels, d.prefillModelLabels,
      d.decodeModelLabels, [d.healthCheckTimeout], false⟩
  | .podIP d eventLoop => d.view .podIP eventLoop
  | .serviceName d => d.view .serviceName false
  | .externalOnly => ⟨.externalOnly, [], [], none, .null, .null, [], false⟩

/-- The class, the session key, the thresholds, the label lists and the number of
reroute attempts. -/
structure RouterView where
  logic : RoutingLogic
  sessionKey : Option Value
  thresholds : List Value
  labels : Option (Value × Value)
  reroutes : Option Value

def RouterState.sessionKey : RouterState → Option Value
  | .sessionBased key | .kvaware _ key _ | .loadaware _ key _ _ => some key
  | _ => none

def RouterState.thresholds : RouterState → List Value
  | .kvaware _ _ threshold | .loadaware _ _ threshold _ | .prefixaware threshold
  | .priority _ _ _ threshold => [threshold]
  | _ => []

def RouterState.labels : RouterState → Option (Value × Value)
  | .disaggregatedPrefill prefill decode | .disaggregatedPrefillOrchestrated prefill decode =>
    some (prefill, decode)
  | _ => none

def Router.view (r : Router) : RouterView :=
  ⟨r.state.logic, r.state.sessionKey, r.state.thresholds, r.state.labels,
    r.maxInstanceFailoverRerouteAttempts⟩

def Process.view (p : Process) : DiscoveryView × RouterView :=
  (p.discovery.value.view, p.router.value.view)

/-! Service discovery. -/

/-- A static service discovery as the watcher builds it. -/
structure StaticAtReload (config : DynamicRouterConfig) (d : StaticDiscovery) : Prop where
  type : is (config .serviceDiscovery) "static" = true
  urls : parseStaticUrls (config .staticBackends) = .ok d.urls
  models : parseCommaSeparatedArgs (config .staticModels) = .ok (some d.models)
  modelLabels : parseCommaSeparatedArgs (config .staticModelLabels) = .ok d.modelLabels
  modelTypes : parseCommaSeparatedArgs (config .staticModelTypes) = .ok d.modelTypes
  prefill : ∃ labels, parseCommaSeparatedArgs (config .prefillModelLabels) = .ok labels ∧
    d.prefillModelLabels = listValue labels
  decode : ∃ labels, parseCommaSeparatedArgs (config .decodeModelLabels) = .ok labels ∧
    d.decodeModelLabels = listValue labels
  timeout : d.healthCheckTimeout = config .staticBackendHealthCheckTimeoutSeconds

/-- A static service discovery as `initialize_all` builds it. -/
structure StaticAtStartup (args : Namespace) (d : StaticDiscovery) : Prop where
  type : is (args (.field .serviceDiscovery)) "static" = true
  urls : parseStaticUrls (args (.field .staticBackends)) = .ok d.urls
  models : parseCommaSeparatedArgs (args (.field .staticModels)) = .ok (some d.models)
  modelLabels : unlessEmpty (args (.field .staticModelLabels)) = .ok d.modelLabels
  modelTypes : unlessEmpty (args (.field .staticModelTypes)) = .ok d.modelTypes
  prefill : d.prefillModelLabels = args (.field .prefillModelLabels)
  decode : d.decodeModelLabels = args (.field .decodeModelLabels)
  timeout : d.healthCheckTimeout = args (.field .staticBackendHealthCheckTimeoutSeconds)

variable {discovery : Discovery}

theorem create_ok {a : StaticArguments} (h : a.create = .ok discovery) :
    ∃ d, discovery = .static d ∧ a.models = some d.models ∧ d.urls = a.urls ∧
      d.modelLabels = a.modelLabels ∧ d.modelTypes = a.modelTypes ∧
      d.prefillModelLabels = a.prefillModelLabels ∧ d.decodeModelLabels = a.decodeModelLabels ∧
      d.healthCheckTimeout = a.healthCheckTimeout := by
  unfold StaticArguments.create at h
  split at h
  · cases h
  · rename_i models hmodels
    split at h
    · obtain rfl := Except.ok.inj h
      exact ⟨_, rfl, hmodels, rfl, rfl, rfl, rfl, rfl, rfl⟩
    · cases h

variable {config : DynamicRouterConfig} {kube : KubeClient} {args : Namespace}
  {items : Option (List String)} {file : ConfigFile}

/-- The watcher builds a static service discovery, or one for pods without an event
loop. -/
theorem createAtReload_ok (h : createAtReload kube config = .ok discovery) :
    (∃ d, discovery = .static d ∧ StaticAtReload config d) ∨
      (is (config .serviceDiscovery) "static" = false ∧ ∃ d, discovery = .podIP d false) := by
  unfold createAtReload at h
  cases hstatic : is (config .serviceDiscovery) "static" with
  | true =>
    simp only [hstatic, if_true] at h
    obtain ⟨urls, hurls, h⟩ := bind_ok h
    obtain ⟨models, hmodels, h⟩ := bind_ok h
    obtain ⟨aliases, -, h⟩ := bind_ok h
    obtain ⟨modelLabels, hmodelLabels, h⟩ := bind_ok h
    obtain ⟨modelTypes, hmodelTypes, h⟩ := bind_ok h
    obtain ⟨prefill, hprefill, h⟩ := bind_ok h
    obtain ⟨decode, hdecode, h⟩ := bind_ok h
    obtain ⟨d, rfl, hm, hu, hl, hy, hp, hd, ht⟩ := create_ok h
    refine Or.inl ⟨d, rfl, hstatic, ?_, ?_, ?_, ?_, ⟨prefill, hprefill, hp⟩,
      ⟨decode, hdecode, hd⟩, ht⟩
    · rw [hu]
      exact hurls
    · rw [← hm]
      exact hmodels
    · rw [hl]
      exact hmodelLabels
    · rw [hy]
      exact hmodelTypes
  | false =>
    simp only [hstatic, Bool.false_eq_true, if_false] at h
    split at h
    · obtain ⟨_, -, h⟩ := bind_ok h
      obtain ⟨_, -, h⟩ := bind_ok h
      obtain ⟨_, -, h⟩ := bind_ok h
      exact Or.inr ⟨rfl, _, (Except.ok.inj h).symm⟩
    · cases h

/-- A start builds a static service discovery, or one that is not static, and has an
event loop if it is for pods. -/
theorem createAtStartup_ok (h : createAtStartup kube args = .ok discovery) :
    (∃ d, discovery = .static d ∧ StaticAtStartup args d) ∨
      (is (args (.field .serviceDiscovery)) "static" = false ∧
        (discovery.attached.view.cls ≠ .static ∧
          (discovery.attached.view.cls = .podIP → discovery.attached.view.eventLoop = true))) := by
  unfold createAtStartup at h
  cases hstatic : is (args (.field .serviceDiscovery)) "static" with
  | true =>
    simp only [hstatic, if_true] at h
    obtain ⟨urls, hurls, h⟩ := bind_ok h
    obtain ⟨models, hmodels, h⟩ := bind_ok h
    obtain ⟨aliases, -, h⟩ := bind_ok h
    obtain ⟨modelTypes, hmodelTypes, h⟩ := bind_ok h
    obtain ⟨modelLabels, hmodelLabels, h⟩ := bind_ok h
    obtain ⟨d, rfl, hm, hu, hl, hy, hp, hd, ht⟩ := create_ok h
    refine Or.inl ⟨d, rfl, hstatic, ?_, ?_, ?_, ?_, hp, hd, ht⟩
    · rw [hu]
      exact hurls
    · rw [← hm]
      exact hmodels
    · rw [hl]
      exact hmodelLabels
    · rw [hy]
      exact hmodelTypes
  | false =>
    simp only [hstatic, Bool.false_eq_true, if_false] at h
    refine Or.inr ⟨rfl, ?_⟩
    split at h
    · obtain ⟨serviceName, -, h⟩ := bind_ok h
      obtain ⟨_, -, h⟩ := bind_ok h
      obtain rfl := Except.ok.inj h
      cases serviceName with
      | true => exact ⟨fun h => (by cases h), fun h => (by cases h)⟩
      | false => exact ⟨fun h => (by cases h), fun _ => rfl⟩
    · split at h
      · obtain rfl := Except.ok.inj h
        exact ⟨fun h => (by cases h), fun h => (by cases h)⟩
      · cases h

/-! Values that are lists separated by commas. -/

theorem splitOn_injective {s s' : String} {sep : Char} (h : splitOn s sep = splitOn s' sep) :
    s = s' := by
  have hparts : s.toList.splitOn sep = s'.toList.splitOn sep := by
    refine List.map_injective_iff.mpr ?_ h
    intro x y hxy
    exact String.ofList_injective hxy
  have hjoin (chars : List Char) : [sep].intercalate (chars.splitOn sep) = chars :=
    List.intercalate_splitOn sep
  have hjoined : s.toList = s'.toList := by
    rw [← hjoin s.toList, hparts, hjoin]
  exact String.toList_injective hjoined

variable {v : Value}

theorem parseCommaSeparatedArgs_ok (h : parseCommaSeparatedArgs v = .ok items) :
    (v = .null ∧ items = none) ∨ ∃ s, v = .str s ∧ items = some (splitOn s ',') := by
  unfold parseCommaSeparatedArgs at h
  split at h
  · exact Or.inl ⟨rfl, (Except.ok.inj h).symm⟩
  · exact Or.inr ⟨_, rfl, (Except.ok.inj h).symm⟩
  · cases h

/-- A value can be read back from the list it stands for. -/
theorem parseCommaSeparatedArgs_injective {v' : Value} (h : parseCommaSeparatedArgs v = .ok items)
    (h' : parseCommaSeparatedArgs v' = .ok items) : v = v' := by
  rcases parseCommaSeparatedArgs_ok h with ⟨rfl, rfl⟩ | ⟨s, rfl, rfl⟩
  · rcases parseCommaSeparatedArgs_ok h' with ⟨rfl, -⟩ | ⟨s', -, hitems⟩
    · rfl
    · cases hitems
  · rcases parseCommaSeparatedArgs_ok h' with ⟨-, hitems⟩ | ⟨s', rfl, hitems⟩
    · cases hitems
    · rw [splitOn_injective (Option.some.inj hitems)]

variable {a c : Value}

/-- A list of labels for the engines of the models. -/
theorem labels_iff {items' : Option (List String)} (ha : unlessEmpty a = .ok items)
    (hc : parseCommaSeparatedArgs c = .ok items') :
    items' = items ↔ if a.truthy then a = c else c = .null := by
  unfold unlessEmpty at ha
  cases htruthy : a.truthy with
  | true =>
    rw [htruthy, if_pos rfl] at ha
    constructor
    · rintro rfl
      exact parseCommaSeparatedArgs_injective ha hc
    · rintro rfl
      exact Except.ok.inj (hc.symm.trans ha)
  | false =>
    rw [htruthy, if_neg Bool.false_ne_true] at ha
    obtain rfl := Except.ok.inj ha
    constructor
    · rintro rfl
      exact parseCommaSeparatedArgs_injective hc rfl
    · rintro rfl
      exact (Except.ok.inj hc).symm

/-- An argument against the field of a configuration: the command line has given a
string, or the argument comes from the file. -/
def Inherits (a c : Value) : Prop :=
  (∃ s, a = .str s) ∨ ∀ items, parseCommaSeparatedArgs c = .ok items → a = c

/-- The argument is passed on as it is, and the field as a list. -/
theorem labelList_iff (h : Inherits a c) (hc : parseCommaSeparatedArgs c = .ok items) :
    listValue items = a ↔ a = .null ∧ c = .null := by
  rcases parseCommaSeparatedArgs_ok hc with ⟨rfl, rfl⟩ | ⟨s, rfl, rfl⟩
  · constructor
    · intro ha
      exact ⟨ha.symm, rfl⟩
    · rintro ⟨rfl, -⟩
      rfl
  · refine iff_of_false ?_ ?_
    · intro ha
      rcases h with ⟨s', rfl⟩ | hsame
      · cases ha
      · rw [hsame _ hc] at ha
        cases ha
    · rintro ⟨-, hnull⟩
      cases hnull

/-- Service discovery comes out the same: it is static, and the values mean the same on
both ways. -/
structure DiscoveryReloads (args : Namespace) (config : DynamicRouterConfig) : Prop where
  static : is (args (.field .serviceDiscovery)) "static" = true
  type : is (config .serviceDiscovery) "static" = true
  urls : parseStaticUrls (args (.field .staticBackends)) = parseStaticUrls (config .staticBackends)
  models : args (.field .staticModels) = config .staticModels
  modelLabels : if (args (.field .staticModelLabels)).truthy
    then args (.field .staticModelLabels) = config .staticModelLabels
    else config .staticModelLabels = .null
  prefill : args (.field .prefillModelLabels) = .null ∧ config .prefillModelLabels = .null
  decode : args (.field .decodeModelLabels) = .null ∧ config .decodeModelLabels = .null
  timeout : args (.field .staticBackendHealthCheckTimeoutSeconds) =
    config .staticBackendHealthCheckTimeoutSeconds

/-- The label lists come from the file unless the command line gives them. -/
structure LabelsInherited (args : Namespace) (config : DynamicRouterConfig) : Prop where
  prefill : Inherits (args (.field .prefillModelLabels)) (config .prefillModelLabels)
  decode : Inherits (args (.field .decodeModelLabels)) (config .decodeModelLabels)

theorem static_view_iff {d d' : StaticDiscovery} (hlabels : LabelsInherited args config)
    (h : StaticAtReload config d) (h' : StaticAtStartup args d') :
    (Discovery.static d).view = (Discovery.static d').view ↔ DiscoveryReloads args config := by
  obtain ⟨prefill, hprefill, hprefillList⟩ := h.prefill
  obtain ⟨decode, hdecode, hdecodeList⟩ := h.decode
  have hurls : d.urls = d'.urls ↔ parseStaticUrls (args (.field .staticBackends)) =
      parseStaticUrls (config .staticBackends) := by
    rw [h.urls, h'.urls]
    exact ⟨fun heq => by rw [heq], fun heq => (Except.ok.inj heq).symm⟩
  have hmodels : d.models = d'.models ↔ args (.field .staticModels) = config .staticModels := by
    constructor
    · intro heq
      refine parseCommaSeparatedArgs_injective h'.models ?_
      rw [h.models, heq]
    · intro heq
      have hparsed := h'.models
      rw [heq, h.models] at hparsed
      exact Option.some.inj (Except.ok.inj hparsed)
  have hmodelLabels := labels_iff h'.modelLabels h.modelLabels
  have hprefills := labelList_iff hlabels.prefill hprefill
  have hdecodes := labelList_iff hlabels.decode hdecode
  rw [← hprefillList, ← h'.prefill] at hprefills
  rw [← hdecodeList, ← h'.decode] at hdecodes
  have htimeout : d.healthCheckTimeout = d'.healthCheckTimeout ↔
      args (.field .staticBackendHealthCheckTimeoutSeconds) =
        config .staticBackendHealthCheckTimeoutSeconds := by
    rw [h.timeout, h'.timeout]
    exact eq_comm
  have hview : (Discovery.static d).view = (Discovery.static d').view ↔
      d.urls = d'.urls ∧ d.models = d'.models ∧ d.modelLabels = d'.modelLabels ∧
        d.prefillModelLabels = d'.prefillModelLabels ∧ d.decodeModelLabels = d'.decodeModelLabels ∧
        d.healthCheckTimeout = d'.healthCheckTimeout := by
    simp [Discovery.view]
  rw [hview, hurls, hmodels, hmodelLabels, hprefills, hdecodes, htimeout]
  constructor
  · rintro ⟨hu, hm, hl, hp, hd, ht⟩
    rw [h'.prefill] at hp
    rw [h'.decode] at hd
    exact ⟨h'.type, h.type, hu, hm, hl, hp, hd, ht⟩
  · intro hreloads
    refine ⟨hreloads.urls, hreloads.models, hreloads.modelLabels, ?_, ?_, hreloads.timeout⟩
    · rw [h'.prefill]
      exact hreloads.prefill
    · rw [h'.decode]
      exact hreloads.decode

theorem discovery_view_iff {kube' : KubeClient} {discovery' : Discovery}
    (hlabels : LabelsInherited args config) (h : createAtReload kube config = .ok discovery)
    (h' : createAtStartup kube' args = .ok discovery') :
    discovery.view = discovery'.attached.view ↔ DiscoveryReloads args config := by
  rcases createAtReload_ok h with ⟨d, rfl, hreload⟩ | ⟨htype, d, rfl⟩
  · rcases createAtStartup_ok h' with ⟨d', rfl, hstartup⟩ | ⟨htype, hclass, -⟩
    · exact static_view_iff hlabels hreload hstartup
    · refine iff_of_false ?_ ?_
      · intro hview
        exact hclass (congrArg DiscoveryView.cls hview).symm
      · intro hreloads
        rw [hreloads.static] at htype
        cases htype
  · -- pods, but without an event loop
    refine iff_of_false ?_ ?_
    · intro hview
      have hclass := (congrArg DiscoveryView.cls hview).symm
      have hloop := (congrArg DiscoveryView.eventLoop hview).symm
      rcases createAtStartup_ok h' with ⟨d', rfl, -⟩ | ⟨-, -, hattached⟩
      · cases hclass
      · rw [hattached hclass] at hloop
        cases hloop
    · intro hreloads
      rw [hreloads.type] at htype
      cases htype

/-! The router. -/

namespace RoutingArguments

variable (a : RoutingArguments)

def sessionKeyOf : RoutingLogic → Option Value
  | .sessionBased | .kvaware | .loadaware => some (orNone a.sessionKey)
  | _ => none

def thresholdsOf : RoutingLogic → List Value
  | .kvaware => [orNone a.kvAwareThreshold]
  | .loadaware => [unlessNone (orNone a.kvAwareThreshold) (.json (.int 2000))]
  | .prefixaware => [a.prefixMinMatchLength.getD (.json (.int 0))]
  | .priority =>
    [unlessNone (orNone a.priorityThreshold) (a.priorityDefault.getD (.json (.int 0)))]
  | _ => []

def labelsOf : RoutingLogic → Option (Value × Value)
  | .disaggregatedPrefill => some (orNone a.prefillModelLabels, orNone a.decodeModelLabels)
  | .disaggregatedPrefillOrchestrated =>
    some (orEmpty (orNone a.prefillModelLabels), orEmpty (orNone a.decodeModelLabels))
  | _ => none

/-- What is compared of the router that the arguments make. -/
def view (logic : RoutingLogic) : RouterView :=
  ⟨logic, a.sessionKeyOf logic, a.thresholdsOf logic, a.labelsOf logic, a.reroutes logic⟩

end RoutingArguments

variable {surroundings : RouterSurroundings}

theorem create_view {a : RoutingArguments} {logic : RoutingLogic} {state : RouterState}
    (h : a.create surroundings logic = .ok state) :
    Router.view ⟨state, a.reroutes logic⟩ = a.view logic := by
  cases logic with
  | roundRobin | prefixaware | disaggregatedPrefill | disaggregatedPrefillOrchestrated
  | priority =>
    obtain rfl := Except.ok.inj h
    rfl
  | sessionBased =>
    simp only [RoutingArguments.create] at h
    split at h
    · cases h
    · obtain rfl := Except.ok.inj h
      rfl
  | kvaware =>
    obtain ⟨_, -, h⟩ := bind_ok h
    obtain rfl := Except.ok.inj h
    rfl
  | loadaware =>
    obtain ⟨_, -, h⟩ := bind_ok h
    obtain ⟨_, -, h⟩ := bind_ok h
    obtain rfl := Except.ok.inj h
    rfl

variable {router : Router} {started : Process} {applied : Option DynamicRouterConfig}
  {ticks : List (TickSurroundings × ConfigFile)} {files : List ConfigFile}
  {latest : DynamicRouterConfig} {launch : Launch}

theorem initializeRoutingLogic_view {a : RoutingArguments} {routingLogic : Value}
    (h : a.initializeRoutingLogic surroundings routingLogic = .ok router) :
    ∃ logic, RoutingLogic.of routingLogic = some logic ∧ router.view = a.view logic := by
  unfold RoutingArguments.initializeRoutingLogic at h
  split at h
  · cases h
  · rename_i logic hlogic
    obtain ⟨state, hstate, h⟩ := bind_ok h
    obtain rfl := Except.ok.inj h
    exact ⟨logic, hlogic, create_view hstate⟩

/-- The parameters of a class that the watcher forwards are the same, and those that it
does not forward are at what the class takes for them. -/
def ParametersReload (args : Namespace) (config : DynamicRouterConfig) : RoutingLogic → Prop
  | .sessionBased => args (.field .sessionKey) = config .sessionKey
  | .kvaware => args (.field .sessionKey) = config .sessionKey ∧
      args (.startup .kvAwareThreshold) = .null
  | .loadaware => args (.field .sessionKey) = config .sessionKey ∧
      unlessNone (args (.startup .kvAwareThreshold)) (.json (.int 2000)) = .json (.int 2000)
  | .prefixaware => args (.startup .prefixMinMatchLength) = .json (.int 0)
  | .priority => unlessNone (args (.field .priorityThreshold)) (args (.field .priorityDefault)) =
      unlessNone (config .priorityThreshold) (config .priorityDefault)
  | .roundRobin | .disaggregatedPrefill | .disaggregatedPrefillOrchestrated => True

/-- The router comes out the same. -/
structure RouterReloads (args : Namespace) (config : DynamicRouterConfig) : Prop where
  logic : RoutingLogic.of (args (.field .routingLogic)) = RoutingLogic.of (config .routingLogic)
  parameters : ∀ logic, RoutingLogic.of (config .routingLogic) = some logic →
    ParametersReload args config logic
  reroutes : RoutingLogic.of (config .routingLogic) = some .disaggregatedPrefillOrchestrated ∨
    args (.startup .maxInstanceFailoverRerouteAttempts) = .json (.int 0)

theorem view_reload_iff (hprefill : args (.field .prefillModelLabels) = .null)
    (hdecode : args (.field .decodeModelLabels) = .null) (logic : RoutingLogic) :
    (routingArgumentsAtStartup args).view logic = (routingArgumentsAtReload config).view logic ↔
      ParametersReload args config logic ∧ (logic = .disaggregatedPrefillOrchestrated ∨
        args (.startup .maxInstanceFailoverRerouteAttempts) = .json (.int 0)) := by
  have hviews : (routingArgumentsAtStartup args).view logic =
      (routingArgumentsAtReload config).view logic ↔
        (routingArgumentsAtStartup args).sessionKeyOf logic =
            (routingArgumentsAtReload config).sessionKeyOf logic ∧
          (routingArgumentsAtStartup args).thresholdsOf logic =
            (routingArgumentsAtReload config).thresholdsOf logic ∧
          (routingArgumentsAtStartup args).labelsOf logic =
            (routingArgumentsAtReload config).labelsOf logic ∧
          (routingArgumentsAtStartup args).reroutes logic =
            (routingArgumentsAtReload config).reroutes logic := by
    simp [RoutingArguments.view]
  have hload : unlessNone .null (.json (.int 2000)) = .json (.int 2000) := rfl
  rw [hviews]
  cases logic <;>
    simp [RoutingArguments.sessionKeyOf, RoutingArguments.thresholdsOf, RoutingArguments.labelsOf,
      RoutingArguments.reroutes, routingArgumentsAtReload, routingArgumentsAtStartup,
      ParametersReload, orNone, hprefill, hdecode, hload, and_assoc]

theorem router_view_iff {surroundings' : RouterSurroundings} {router' : Router}
    (hprefill : args (.field .prefillModelLabels) = .null)
    (hdecode : args (.field .decodeModelLabels) = .null)
    (h : routerAtReload surroundings config = .ok router)
    (h' : routerAtStartup surroundings' args = .ok router') :
    router.view = router'.view ↔ RouterReloads args config := by
  obtain ⟨logic, hlogic, hview⟩ := initializeRoutingLogic_view h
  obtain ⟨logic', hlogic', hview'⟩ := initializeRoutingLogic_view h'
  rw [hview, hview', eq_comm]
  constructor
  · intro hsame
    have hclass : logic' = logic := congrArg RouterView.logic hsame
    subst hclass
    obtain ⟨hparameters, hreroutes⟩ := (view_reload_iff hprefill hdecode logic').mp hsame
    refine ⟨hlogic'.trans hlogic.symm, ?_, ?_⟩
    · intro other hother
      obtain rfl := Option.some.inj (hlogic.symm.trans hother)
      exact hparameters
    · rw [hlogic]
      exact hreroutes.imp_left (congrArg some)
  · intro hreloads
    have hclass : logic' = logic := by
      have heq := hreloads.logic
      rw [hlogic, hlogic'] at heq
      exact Option.some.inj heq
    subst hclass
    refine (view_reload_iff hprefill hdecode logic').mpr ⟨hreloads.parameters _ hlogic, ?_⟩
    have hreroutes := hreloads.reroutes
    rw [hlogic] at hreroutes
    exact hreroutes.imp_left Option.some.inj

/-! The run of the watcher. -/

/-- The watcher ticks on these files in turn, and no tick raises. -/
inductive Applies (runtime : Runtime) : Process → List (TickSurroundings × ConfigFile) →
    Process → Prop where
  | nil (p : Process) : Applies runtime p [] p
  | cons {p p' p'' : Process} {around : TickSurroundings} {file : ConfigFile}
      {rest : List (TickSurroundings × ConfigFile)}
      (htick : (runtime.tick around file).on p = (.ok (), p')) (hrest : Applies runtime p' rest p'') :
      Applies runtime p ((around, file) :: rest) p''

/-- The recorded configuration, and the one that was applied last. -/
def Runtime.recorded (runtime : Runtime)
    (state : DynamicRouterConfig × Option DynamicRouterConfig) (file : ConfigFile) :
    DynamicRouterConfig × Option DynamicRouterConfig :=
  match runtime.fromFile file with
  | .ok config => if config.pyEq state.1 then state else (config, some config)
  | .error _ => state

/-- The configuration that the watcher applied last, if it has applied one. -/
def Runtime.lastApplied (runtime : Runtime) (initial : DynamicRouterConfig)
    (files : List ConfigFile) : Option DynamicRouterConfig :=
  (files.foldl runtime.recorded (initial, none)).2

/-- The process has the objects of the start, or those of the configuration that was
applied last. -/
def BuiltFrom (started : Process) (p : Process) : Option DynamicRouterConfig → Prop
  | none => p.view = started.view
  | some config => ∃ around : TickSurroundings,
      createAtReload around.kube config = .ok p.discovery.value ∧
        routerAtReload around.routers config = .ok p.router.value

variable {runtime : Runtime} {around : TickSurroundings} {p p' : Process}

theorem recorded_of_tick (hbuilt : BuiltFrom started p applied)
    (htick : (runtime.tick around file).on p = (.ok (), p')) :
    p'.currentConfig = (runtime.recorded (p.currentConfig, applied) file).1 ∧
      BuiltFrom started p' (runtime.recorded (p.currentConfig, applied) file).2 := by
  have hticked := tick_gives runtime around file p
  unfold Act.Gives at hticked
  rw [htick] at hticked
  unfold Runtime.recorded
  cases hticked with
  | same config hread hsame =>
    simp only [hread, hsame, if_true]
    exact ⟨trivial, hbuilt⟩
  | applied config p' hread hchanged hrun =>
    simp only [hread, hchanged, Bool.false_eq_true, if_false]
    have hgives := around.reconfigureAll_gives config (p := p)
    unfold Act.Gives at hgives
    rw [hrun] at hgives
    rcases hgives with ⟨hfailed, -⟩ | hrebuilt
    · exact absurd rfl hfailed
    · exact ⟨trivial, around, hrebuilt.discovery, hrebuilt.router rfl⟩

theorem recorded_of_applies (happlies : Applies runtime p ticks p')
    (hbuilt : BuiltFrom started p applied) : BuiltFrom started p'
      ((ticks.map Prod.snd).foldl runtime.recorded (p.currentConfig, applied)).2 := by
  induction happlies generalizing applied with
  | nil p => exact hbuilt
  | @cons p p' p'' around file rest htick hrest ih =>
    obtain ⟨hcurrent, hbuilt'⟩ := recorded_of_tick hbuilt htick
    have hrecorded : runtime.recorded (p.currentConfig, applied) file =
        (p'.currentConfig, (runtime.recorded (p.currentConfig, applied) file).2) := by
      rw [hcurrent]
    rw [List.map_cons, List.foldl_cons, hrecorded]
    exact ih hbuilt'

/-- What was applied last is what is recorded. -/
theorem recorded_applied {state : DynamicRouterConfig × Option DynamicRouterConfig}
    (hstate : ∀ config, state.2 = some config → state.1 = config)
    (h : (files.foldl runtime.recorded state).2 = some config) :
    (files.foldl runtime.recorded state).1 = config := by
  induction files generalizing state with
  | nil => exact hstate config h
  | cons file rest ih =>
    refine ih ?_ h
    intro config' h'
    unfold Runtime.recorded at h' ⊢
    split at h'
    · split at h'
      · rename_i hsame
        simp only [hsame, if_true]
        exact hstate config' h'
      · rename_i hchanged
        simp only [hchanged]
        exact Option.some.inj h'
    · exact hstate config' h'

/-- After a tick on a file, what was applied last says what the file says. -/
theorem lastApplied_append {initial : DynamicRouterConfig}
    (hread : runtime.fromFile file = .ok latest)
    (h : runtime.lastApplied initial (files ++ [file]) = some config) :
    config = latest ∨ latest.pyEq config = true := by
  unfold Runtime.lastApplied at h
  rw [List.foldl_append, List.foldl_cons, List.foldl_nil] at h
  unfold Runtime.recorded at h
  simp only [hread] at h
  split at h
  · rename_i hsame
    right
    rw [← recorded_applied (fun _ h => by cases h) h]
    exact hsame
  · exact Or.inl (Option.some.inj h).symm

variable {dict : Dict String Value}

/-- A string of the command line, or the value of the file. -/
theorem argument_or_field {parsed : Namespace} {f : Field}
    (hparse : runtime.parse launch.cli dict = .ok parsed) (hvalid : validateArgs parsed = .ok args)
    (hconfig : runtime.fromConfigDict dict = .ok config) (hf : f ≠ .serviceDiscovery)
    (htype : f.action.type = .str) (hdefault : f.default? = some .null) :
    (∃ s, args (.field f) = .str s) ∨ args (.field f) = config f := by
  have hparsed : args (.field f) = parsed (.field f) := by
    rcases (validateArgs_ok hvalid).2 with ⟨-, rfl⟩ | ⟨-, rfl⟩
    · rfl
    · refine Function.update_of_ne ?_ _ _
      intro heq
      exact hf (Dest.field.inj heq)
  have hargument := argument_of_parse hparse (.field f)
  rw [hparsed]
  cases hgiven : launch.cli.given (.field f) with
  | some v =>
    left
    have haccepted := launch.cli.accepted _ _ hgiven
    simp only [Runtime.argument, hgiven] at hargument
    rw [← Option.some.inj hargument]
    change f.action.accepts v = true at haccepted
    cases v with
    | str s => exact ⟨s, rfl⟩
    | _ => simp [Action.accepts, htype] at haccepted
  | none =>
    right
    have hfield := fieldOf_of_fromConfigDict hconfig f
    simp only [Runtime.argument, hgiven] at hargument
    change (if true = true then runtime.getValue f.action.type
      ((dict.get? f.action.dest).getD (.json f.action.default)) else _) = _ at hargument
    rw [if_pos rfl, htype, getValue_str, default_agrees f hdefault] at hargument
    unfold fieldOf at hfield
    rw [hdefault] at hfield
    cases hget : dict.get? f.action.dest with
    | none | some v =>
      rw [hget] at hargument hfield
      exact (Option.some.inj hargument).symm.trans (Option.some.inj hfield)

/-- A list that equals another one is the same. -/
theorem eq_of_pyEq (h : v.pyEq c = true) (hc : parseCommaSeparatedArgs c = .ok items) : v = c := by
  cases v with
  | other id holds reloads =>
    rcases parseCommaSeparatedArgs_ok hc with ⟨rfl, -⟩ | ⟨s, rfl, -⟩ <;> cases h
  | json j =>
    rcases parseCommaSeparatedArgs_ok hc with ⟨rfl, -⟩ | ⟨s, rfl, -⟩
    · cases j <;> simp [Value.pyEq, Value.null, Json.pyEq, Json.number?] at h ⊢
    · cases j <;> simp [Value.pyEq, Value.str, Json.pyEq, Json.number?] at h ⊢
      exact h

theorem inherits_of {latest : Value} (h : (∃ s, a = .str s) ∨ a = latest)
    (hc : c = latest ∨ latest.pyEq c = true) : Inherits a c := by
  rcases h with hgiven | rfl
  · exact Or.inl hgiven
  · right
    intro items hitems
    rcases hc with rfl | hequal
    · rfl
    · exact eq_of_pyEq hequal hitems

/-! A reload and a restart. -/

theorem Applies.last (h : Applies runtime p (ticks ++ [(around, file)]) p') :
    ∃ before, (runtime.tick around file).on before = (.ok (), p') := by
  induction ticks generalizing p with
  | nil =>
    cases h with
    | cons htick hrest =>
      cases hrest
      exact ⟨p, htick⟩
  | cons tick rest ih =>
    cases h with
    | cons htick hrest => exact ih hrest

theorem read_of_tick (h : (runtime.tick around file).on p = (.ok (), p')) :
    ∃ config, runtime.fromFile file = .ok config := by
  have hticked := tick_gives runtime around file p
  unfold Act.Gives at hticked
  rw [h] at hticked
  cases hticked with
  | same config hread _ | applied config _ hread _ _ => exact ⟨config, hread⟩

/-- A start with a file from which the watcher can build a configuration. -/
theorem labelsInherited_of_start {content : Except PyExc (Dict String Value)}
    {surroundings : Surroundings}
    (hstart : launch.start runtime content surroundings = .ok (args, p))
    (hread : runtime.fromFile (launch.file content) = .ok latest)
    (hconfig : config = latest ∨ latest.pyEq config = true) : LabelsInherited args config := by
  obtain ⟨dict, hdict, hlatest⟩ := bind_ok hread
  cases content with
  | error e =>
    obtain ⟨_, hparseArgs, -⟩ := bind_ok hstart
    obtain ⟨_, hdefaults, -⟩ := bind_ok hparseArgs
    cases hdefaults
  | ok raw =>
    obtain ⟨parsed, hparse, hvalid⟩ := parsed_of_start hdict hstart
    have hfield (f : Field) : config f = latest f ∨ (latest f).pyEq (config f) = true := by
      rcases hconfig with rfl | hequal
      · exact Or.inl rfl
      · exact Or.inr ((DynamicRouterConfig.pyEq_iff _ _).mp hequal f)
    refine ⟨inherits_of ?_ (hfield _), inherits_of ?_ (hfield _)⟩
    · exact argument_or_field hparse hvalid hlatest (by decide) rfl rfl
    · exact argument_or_field hparse hvalid hlatest (by decide) rfl rfl

/-- What was applied last comes to what the restart builds. If nothing was applied, the
two starts have to build the same. -/
def ReloadsAlike (started restarted : Process) (args : Namespace) :
    Option DynamicRouterConfig → Prop
  | none => started.view = restarted.view
  | some config => DiscoveryReloads args config ∧ RouterReloads args config

/-- After a start with one file and ticks up to another, the router is as after a start
with the other exactly if what was applied last comes to the same on both ways. -/
theorem hot_reload_iff (launch : Launch) (runtime : Runtime)
    (first second : Except PyExc (Dict String Value)) (surroundings surroundings' : Surroundings)
    (args args' : Namespace) (started restarted p : Process)
    (hstart : launch.start runtime first surroundings = .ok (args, started))
    (hrestart : launch.start runtime second surroundings' = .ok (args', restarted))
    (earlier : List (TickSurroundings × ConfigFile)) (around : TickSurroundings)
    (happlies : Applies runtime started (earlier ++ [(around, launch.file second)]) p) :
    p.view = restarted.view ↔
      ReloadsAlike started restarted args'
        (runtime.lastApplied (fromArgs args) (earlier.map Prod.snd ++ [launch.file second])) := by
  have hinitial : BuiltFrom started started none := rfl
  have hbuilt := recorded_of_applies happlies hinitial
  rw [(built_of_start hstart).current, List.map_append] at hbuilt
  change BuiltFrom started p (runtime.lastApplied (fromArgs args)
    (earlier.map Prod.snd ++ [launch.file second])) at hbuilt
  cases hlast : runtime.lastApplied (fromArgs args)
      (earlier.map Prod.snd ++ [launch.file second]) with
  | none =>
    rw [hlast] at hbuilt
    rw [hbuilt]
    rfl
  | some config =>
    rw [hlast] at hbuilt
    obtain ⟨around', hdiscovery, hrouter⟩ := hbuilt
    obtain ⟨before, htick⟩ := happlies.last
    obtain ⟨latest, hread⟩ := read_of_tick htick
    have hlabels := labelsInherited_of_start hrestart hread (lastApplied_append hread hlast)
    have hrestarted := built_of_start hrestart
    obtain ⟨discovery', hdiscovery', hactive⟩ := hrestarted.discovery
    have hviews : p.view = restarted.view ↔
        p.discovery.value.view = discovery'.attached.view ∧
          p.router.value.view = restarted.router.value.view := by
      unfold Process.view
      rw [hactive, Prod.mk.injEq]
    rw [hviews, discovery_view_iff hlabels hdiscovery hdiscovery']
    refine and_congr_right ?_
    intro hreloads
    exact router_view_iff hreloads.prefill.1 hreloads.decode.1 hrouter hrestarted.router

/-- One engine, round robin, and this many attempts on other instances. -/
def staticFile (backend : String) (attempts : Int) : Dict String Value :=
  ((((Dict.empty.set "service_discovery" (.str "static")).set "static_backends"
    (.str backend)).set "static_models" (.str "m")).set "routing_logic"
      (.str "roundrobin")).set "max_instance_failover_reroute_attempts" (.json (.int attempts))

/-- A start with one file, a tick on another that is applied, and a restart with it. -/
theorem applied_after_start (first second : Dict String Value)
    (h : (match onlyFile.start asciiRuntime (.ok first) calm with
        | .ok (args, p) =>
          ((asciiRuntime.tick calmTick (onlyFile.file (.ok second))).on p).1.isOk &&
            (asciiRuntime.lastApplied (fromArgs args) [onlyFile.file (.ok second)]).isSome
        | .error _ => false) = true)
    (h' : (onlyFile.start asciiRuntime (.ok second) calm).isOk = true) :
    ∃ args started args' restarted p config,
      onlyFile.start asciiRuntime (.ok first) calm = .ok (args, started) ∧
      onlyFile.start asciiRuntime (.ok second) calm = .ok (args', restarted) ∧
      Applies asciiRuntime started [(calmTick, onlyFile.file (.ok second))] p ∧
      asciiRuntime.fromConfigDict second = .ok config ∧
      asciiRuntime.lastApplied (fromArgs args) [onlyFile.file (.ok second)] = some config := by
  cases hrestart : onlyFile.start asciiRuntime (.ok second) calm with
  | error failure =>
    rw [hrestart] at h'
    cases h'
  | ok restarted =>
    obtain ⟨args', restarted⟩ := restarted
    cases hstart : onlyFile.start asciiRuntime (.ok first) calm with
    | error failure =>
      rw [hstart] at h
      cases h
    | ok started =>
      obtain ⟨args, started⟩ := started
      rw [hstart] at h
      simp only [Bool.and_eq_true] at h
      obtain ⟨htick, hlast⟩ := h
      rcases hrun : (asciiRuntime.tick calmTick (onlyFile.file (.ok second))).on started with
        ⟨r, p⟩
      rw [hrun] at htick
      cases r with
      | error e => cases htick
      | ok u =>
        obtain ⟨config, hconfig⟩ := Option.isSome_iff_exists.mp hlast
        obtain ⟨latest, hread⟩ := read_of_tick hrun
        have hlatest : config = latest := by
          unfold Runtime.lastApplied at hconfig
          simp only [List.foldl_cons, List.foldl_nil, Runtime.recorded, hread] at hconfig
          split at hconfig
          · cases hconfig
          · exact (Option.some.inj hconfig).symm
        subst hlatest
        exact ⟨args, started, args', restarted, p, config, rfl, rfl, .cons hrun (.nil p), hread,
          hconfig⟩

section OnlyFile

variable (hstart : onlyFile.start asciiRuntime (.ok dict) calm = .ok (args, p))

include hstart

/-- The arguments are those of the file. -/
theorem argument_of_onlyFile {dest : Dest} (hdest : dest ≠ .startup .dynamicConfigJson)
    (hdiscovery : dest ≠ .field .serviceDiscovery) (hdeclared : asciiRuntime.declares dest = true)
    (hv : asciiRuntime.getValue dest.action.type
      ((dict.get? dest.action.dest).getD (.json dest.action.default)) = some v) :
    args dest = v := by
  obtain ⟨parsed, hparse, hvalid⟩ := parsed_of_start rfl hstart
  have hvalue := getValue_of_alone onlyFile_alone hparse hdest hdeclared
  rw [hv] at hvalue
  rcases (validateArgs_ok hvalid).2 with ⟨-, rfl⟩ | ⟨-, rfl⟩
  · exact (Option.some.inj hvalue).symm
  · rw [Option.some.inj hvalue]
    exact Function.update_of_ne hdiscovery _ _

theorem discovery_of_onlyFile (htruthy : (dict.getD "service_discovery" .null).truthy = true) :
    args (.field .serviceDiscovery) = dict.getD "service_discovery" .null := by
  obtain ⟨parsed, hparse, hvalid⟩ := parsed_of_start rfl hstart
  have hfield : parsed (.field .serviceDiscovery) = dict.getD "service_discovery" .null :=
    field_of_str onlyFile_alone hparse rfl rfl
  rcases (validateArgs_ok hvalid).2 with ⟨-, rfl⟩ | ⟨hfalse, -⟩
  · exact hfield
  · rw [hfield, htruthy] at hfalse
    cases hfalse

end OnlyFile

/-- Another engine, and no attempts on other instances. -/
theorem hot_reload_backend : ∃ args started args' restarted p,
    onlyFile.start asciiRuntime (.ok (staticFile "http://a" 0)) calm = .ok (args, started) ∧
      onlyFile.start asciiRuntime (.ok (staticFile "http://b" 0)) calm = .ok (args', restarted) ∧
      Applies asciiRuntime started [(calmTick, onlyFile.file (.ok (staticFile "http://b" 0)))] p ∧
      p.view = restarted.view := by
  obtain ⟨args, started, args', restarted, p, config, hstart, hrestart, happlies, hread, hlast⟩ :=
    applied_after_start (staticFile "http://a" 0) (staticFile "http://b" 0) (by decide +kernel)
      (by decide +kernel)
  refine ⟨args, started, args', restarted, p, hstart, hrestart, happlies, ?_⟩
  refine (hot_reload_iff onlyFile asciiRuntime _ _ calm calm args args' started restarted p hstart
    hrestart [] calmTick happlies).mpr ?_
  change ReloadsAlike started restarted args' (asciiRuntime.lastApplied (fromArgs args) [_])
  rw [hlast]
  have hargument (f : Field) {v : Value} (hf : Dest.field f ≠ .field .serviceDiscovery)
      (hv : asciiRuntime.getValue f.action.type (((staticFile "http://b" 0).get?
        f.action.dest).getD (.json f.action.default)) = some v) : args' (.field f) = v :=
    argument_of_onlyFile hrestart Dest.noConfusion hf rfl hv
  have hconfig (f : Field) {v : Value} (hv : fieldOf (staticFile "http://b" 0) f = some v) :
      config f = v :=
    Option.some.inj ((fieldOf_of_fromConfigDict hread f).symm.trans hv)
  have hdiscovery := discovery_of_onlyFile hrestart rfl
  constructor
  · refine ⟨?_, ?_, ?_, ?_, ?_, ?_, ?_, ?_⟩
    · rw [hdiscovery]
      rfl
    · rw [hconfig .serviceDiscovery rfl]
      rfl
    · rw [hargument .staticBackends (by decide) rfl, hconfig .staticBackends rfl]
    · rw [hargument .staticModels (by decide) rfl, hconfig .staticModels rfl]
    · rw [hargument .staticModelLabels (by decide) rfl, hconfig .staticModelLabels rfl]
      rfl
    · exact ⟨hargument .prefillModelLabels (by decide) rfl, hconfig .prefillModelLabels rfl⟩
    · exact ⟨hargument .decodeModelLabels (by decide) rfl, hconfig .decodeModelLabels rfl⟩
    · rw [hargument .staticBackendHealthCheckTimeoutSeconds (by decide) rfl,
        hconfig .staticBackendHealthCheckTimeoutSeconds rfl]
      rfl
  · refine ⟨?_, ?_, Or.inr ?_⟩
    · rw [hargument .routingLogic (by decide) rfl, hconfig .routingLogic rfl]
    · intro logic hlogic
      rw [hconfig .routingLogic rfl] at hlogic
      cases hlogic
      trivial
    · exact argument_of_onlyFile hrestart (by decide) Dest.noConfusion rfl rfl

/-- The number of attempts on other instances is not forwarded by the watcher. -/
theorem hot_reload_loses_attempts : ∃ args started args' restarted p,
    onlyFile.start asciiRuntime (.ok (staticFile "http://a" 3)) calm = .ok (args, started) ∧
      onlyFile.start asciiRuntime (.ok (staticFile "http://b" 3)) calm = .ok (args', restarted) ∧
      Applies asciiRuntime started [(calmTick, onlyFile.file (.ok (staticFile "http://b" 3)))] p ∧
      p.view ≠ restarted.view := by
  obtain ⟨args, started, args', restarted, p, config, hstart, hrestart, happlies, hread, hlast⟩ :=
    applied_after_start (staticFile "http://a" 3) (staticFile "http://b" 3) (by decide +kernel)
      (by decide +kernel)
  refine ⟨args, started, args', restarted, p, hstart, hrestart, happlies, ?_⟩
  intro hview
  have hinitial : BuiltFrom started started none := rfl
  have hbuilt := recorded_of_applies happlies hinitial
  rw [(built_of_start hstart).current] at hbuilt
  change BuiltFrom started p (asciiRuntime.lastApplied (fromArgs args) [_]) at hbuilt
  rw [hlast] at hbuilt
  obtain ⟨around, -, hrouter⟩ := hbuilt
  have hprefill : args' (.field .prefillModelLabels) = .null :=
    argument_of_onlyFile hrestart (by decide) (by decide) rfl rfl
  have hdecode : args' (.field .decodeModelLabels) = .null :=
    argument_of_onlyFile hrestart (by decide) (by decide) rfl rfl
  have hattempts : args' (.startup .maxInstanceFailoverRerouteAttempts) = .json (.int 3) :=
    argument_of_onlyFile hrestart (by decide) (by decide) rfl rfl
  have hlogic : config .routingLogic = .str "roundrobin" :=
    Option.some.inj (fieldOf_of_fromConfigDict hread .routingLogic).symm
  have hreloads := (router_view_iff hprefill hdecode hrouter
    (built_of_start hrestart).router).mp (congrArg Prod.snd hview)
  rcases hreloads.reroutes with horchestrated | hzero
  · rw [hlogic] at horchestrated
    cases horchestrated
  · rw [hattempts] at hzero
    cases hzero

end ProductionStack.Config

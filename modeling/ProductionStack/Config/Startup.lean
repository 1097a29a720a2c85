import ProductionStack.Config.Components
import ProductionStack.Routing.Immediate

/-!
The start of the router with a configuration file, up to the running process. The
watcher compares the file with the parsed arguments: for an unchanged file it
should find no difference.
-/

namespace ProductionStack.Config

open Lib Python

def FileType.flag : FileType → Dest
  | .yaml => .startup .dynamicConfigYaml
  | .json => .startup .dynamicConfigJson

/-- A command line that names a configuration file. -/
structure Launch where
  cli : CommandLine
  type : FileType
  path : String
  named : cli.given type.flag = some (.str path)
  nonempty : path ≠ ""

/-- What is around the router when it starts: Kubernetes, LMCache, the modules with
callbacks, and all that the other parts of `initialize_all` need. -/
structure Surroundings where
  kube : KubeClient
  routers : RouterSurroundings
  importCallbacks : String → Except PyExc Nat
  others : Namespace → Except PyExc Unit

/-- An object: which one it is, and what it holds. -/
structure Instance (α : Type) where
  id : Nat
  value : α

/-- A running router: the active service discovery and whether it is closed, the
registry of router singletons, what `app.state` holds, the watcher's configuration,
and the number of objects made so far. -/
structure Process where
  discovery : Instance Discovery
  closed : Bool
  registry : Dict RoutingLogic (Instance Router)
  router : Instance Router
  callbacks : Option Nat
  currentConfig : DynamicRouterConfig
  created : Nat

def configureCustomCallbacks (importCallbacks : String → Except PyExc Nat) :
    Value → Except PyExc Nat
  | .json (.str location) => importCallbacks location
  | _ => .error (.new .attributeError "object has no attribute 'split'")

/-- `if args.callbacks: ...`. -/
def Surroundings.callbacksAtStartup (surroundings : Surroundings) (location : Value) :
    Except PyExc (Option Nat) :=
  if location.truthy then
    some <$> configureCustomCallbacks surroundings.importCallbacks location
  else pure none

/-- `initialize_all`, and the part of `lifespan` that attaches the event loop. -/
def Surroundings.initializeAll (surroundings : Surroundings) (args : Namespace) :
    Except PyExc Process := do
  let discovery ← createAtStartup surroundings.kube args
  surroundings.others args
  let callbacks ← surroundings.callbacksAtStartup (args (.field .callbacks))
  let router ← routerAtStartup surroundings.routers args
  pure {
    discovery := ⟨0, discovery.attached⟩
    closed := false
    registry := Dict.empty.set router.state.logic ⟨1, router⟩
    router := ⟨1, router⟩
    callbacks := callbacks
    currentConfig := fromArgs args
    created := 2 }

namespace Launch

variable (launch : Launch) (runtime : Runtime) (content : Except PyExc (Dict String Value))

def file : ConfigFile := ⟨launch.type, content⟩

def parseArgs : Except Failure Namespace := do
  let defaults ← (runtime.read (launch.file content)).mapError .raised
  let args ← runtime.parse launch.cli defaults
  validateArgs args

/-- The start with a file of this content: the arguments and the process. -/
def start (surroundings : Surroundings) : Except Failure (Namespace × Process) := do
  let args ← launch.parseArgs runtime content
  let process ← (surroundings.initializeAll args).mapError .raised
  pure (args, process)

end Launch

/-- The file that `initialize_all` lets the watcher watch. -/
def watched (args : Namespace) : Option (FileType × Value) :=
  let yaml := args (.startup .dynamicConfigYaml)
  let json := args (.startup .dynamicConfigJson)
  if yaml.truthy then some (.yaml, yaml)
  else if json.truthy then some (.json, json) else none

/-! The first tick. -/

/-- The watcher builds the configuration from the file that was named, and finds
nothing changed. -/
def FirstTickIsNoOp (launch : Launch) (runtime : Runtime)
    (content : Except PyExc (Dict String Value)) (args : Namespace) : Prop :=
  watched args = some (launch.type, .str launch.path) ∧
    ∃ config, runtime.fromFile (launch.file content) = .ok config ∧
      config.pyEq (fromArgs args) = true

/-- The values of the file mean the same with and without the parser. -/
structure ReadsAlike (type : FileType) (dict : Dict String Value) : Prop where
  discovery : (dict.getD "service_discovery" .null).truthy = true
  integers : ∀ f : Field, f.action.type = .int → ∀ v, dict.get? f.action.dest = some v →
    v.isStr = false
  reloads : ∀ (f : Field) v, dict.get? f.action.dest = some v → v.reloads = true
  unredirected : type = .json → (dict.getD "dynamic_config_yaml" .null).truthy = false

/-- A process that was started, and the objects it was made of. -/
structure Built (surroundings : Surroundings) (args : Namespace) (p : Process) : Prop where
  discovery : ∃ discovery, createAtStartup surroundings.kube args = .ok discovery ∧
    p.discovery = ⟨0, discovery.attached⟩
  router : routerAtStartup surroundings.routers args = .ok p.router.value
  current : p.currentConfig = fromArgs args
  created : p.created = 2

variable {runtime : Runtime} {launch : Launch} {content : Except PyExc (Dict String Value)}
  {surroundings : Surroundings} {args : Namespace} {p : Process} {key : String} {a : Value}

theorem initialized_of_start (h : launch.start runtime content surroundings = .ok (args, p)) :
    surroundings.initializeAll args = .ok p := by
  obtain ⟨_, -, h⟩ := bind_ok h
  obtain ⟨_, hinitialize, h⟩ := bind_ok h
  cases h
  exact mapError_ok hinitialize

theorem built_of_start (h : launch.start runtime content surroundings = .ok (args, p)) :
    Built surroundings args p := by
  obtain ⟨discovery, hdiscovery, h⟩ := bind_ok (initialized_of_start h)
  obtain ⟨_, -, h⟩ := bind_ok h
  obtain ⟨_, -, h⟩ := bind_ok h
  obtain ⟨router, hrouter, h⟩ := bind_ok h
  obtain rfl := Except.ok.inj h
  exact ⟨⟨discovery, hdiscovery, rfl⟩, hrouter, rfl, rfl⟩

variable {args' : Namespace} {raw : Dict String Value} {v : Value} {f : Field}

/-- Required arguments are there, and the type of service discovery has its default. -/
theorem validateArgs_ok (h : validateArgs args = .ok args') :
    (args (.field .routingLogic)).truthy = true ∧
      (((args (.field .serviceDiscovery)).truthy = true ∧ args' = args) ∨
        ((args (.field .serviceDiscovery)).truthy = false ∧
          args' = args.set (.field .serviceDiscovery) (.str "external-only"))) := by
  obtain ⟨verified, hverified, h⟩ := bind_ok h
  obtain ⟨-, -, h⟩ := bind_ok h
  obtain rfl := Except.ok.inj h
  unfold verifyRequiredArgsProvided at hverified
  split_ifs at hverified with hlogic hdiscovery
  · rw [Bool.not_eq_true', Bool.not_eq_false] at hlogic
    exact ⟨hlogic, Or.inl ⟨hdiscovery, (Except.ok.inj hverified).symm⟩⟩
  · rw [Bool.not_eq_true', Bool.not_eq_false] at hlogic
    exact ⟨hlogic, Or.inr ⟨Bool.eq_false_iff.mpr hdiscovery, (Except.ok.inj hverified).symm⟩⟩

/-! The keys of the file. -/

/-- The keys that the processing of a YAML document may add. -/
def generatedKeys : List String :=
  ["static_backends", "static_models", "static_model_types", "static_aliases"]

variable {config dict : Dict String Value}

theorem setStaticModels_keys {models : Value} (h : setStaticModels config models = .ok dict)
    (hkey : key ∈ dict) : key ∈ config ∨ key ∈ generatedKeys := by
  unfold setStaticModels at h
  split at h
  · obtain ⟨_, -, h⟩ := bind_ok h
    obtain ⟨_, -, h⟩ := bind_ok h
    obtain ⟨_, -, h⟩ := bind_ok h
    obtain ⟨_, -, h⟩ := bind_ok h
    obtain rfl := Except.ok.inj h
    simp only [Dict.mem_set] at hkey
    rcases hkey with rfl | rfl | rfl | hkey
    · exact Or.inr (by decide)
    · exact Or.inr (by decide)
    · exact Or.inr (by decide)
    · exact Or.inl hkey
  · obtain rfl := Except.ok.inj h
    exact Or.inl hkey

theorem setStaticAliases_keys {aliases : Value}
    (h : runtime.setStaticAliases config aliases = .ok dict) (hkey : key ∈ dict) :
    key ∈ config ∨ key ∈ generatedKeys := by
  unfold Runtime.setStaticAliases at h
  split at h
  · obtain ⟨_, -, h⟩ := bind_ok h
    obtain rfl := Except.ok.inj h
    rcases (Dict.mem_set _ _ _ _).mp hkey with rfl | hkey
    · exact Or.inr (by decide)
    · exact Or.inl hkey
  · obtain rfl := Except.ok.inj h
    exact Or.inl hkey

theorem readAndProcess_keys (h : runtime.readAndProcessYamlConfigFile config = .ok dict)
    (hkey : key ∈ dict) : key ∈ config ∨ key ∈ generatedKeys := by
  obtain ⟨modelled, hmodelled, h⟩ := bind_ok h
  rcases setStaticAliases_keys h hkey with hkey | hkey
  · rcases setStaticModels_keys hmodelled hkey with hkey | hkey
    · simp only [Dict.mem_erase] at hkey
      exact Or.inl hkey.2.2
    · exact Or.inr hkey
  · exact Or.inr hkey

theorem generatedKeys_recognized (runtime : Runtime) (h : key ∈ generatedKeys) :
    key ∈ runtime.recognizedArgDests := by
  have hfield (f : Field) : f.action.dest ∈ runtime.recognizedArgDests :=
    List.mem_map.mpr ⟨.field f, List.mem_filter.mpr ⟨Dest.mem_all _, rfl⟩, rfl⟩
  simp only [generatedKeys, List.mem_cons, List.not_mem_nil, or_false] at h
  rcases h with rfl | rfl | rfl | rfl
  · exact hfield .staticBackends
  · exact hfield .staticModels
  · exact hfield .staticModelTypes
  · exact hfield .staticAliases

/-- The keys stay recognized. -/
theorem read_recognized {type : FileType}
    (hraw : ∀ key ∈ raw.keys, key ∈ runtime.recognizedArgDests)
    (h : runtime.read ⟨type, .ok raw⟩ = .ok dict) :
    ∀ key ∈ dict.keys, key ∈ runtime.recognizedArgDests := by
  intro key hkey
  cases type with
  | json =>
    obtain rfl := Except.ok.inj h
    exact hraw key hkey
  | yaml =>
    rcases readAndProcess_keys h hkey with hmem | hmem
    · exact hraw key hmem
    · exact generatedKeys_recognized runtime hmem

/-! A field, read with and without the parser. -/

theorem getValue_pyEq {type : ArgType} (htype : type ≠ .float)
    (h : runtime.getValue type v = some a) :
    v.pyEq a = true ↔ v.reloads = true ∧ (type = .int → v.isStr = false) := by
  have hsame (hstr : v.isStr = false) (ha : a = v) :
      v.pyEq a = true ↔ v.reloads = true ∧ (type = .int → v.isStr = false) := by
    rw [ha, v.pyEq_self]
    exact ⟨fun h => ⟨h, fun _ => hstr⟩, fun h => h.1⟩
  cases v with
  | other id holds reloads => exact hsame rfl (Option.some.inj h).symm
  | json j =>
    cases j with
    | str s =>
      cases type with
      | float => exact absurd rfl htype
      | str | untyped =>
        obtain rfl := Option.some.inj h
        exact iff_of_true (Json.pyEq_refl _) ⟨rfl, fun h => by cases h⟩
      | int =>
        obtain ⟨n, -, rfl⟩ := Option.map_eq_some_iff.mp h
        refine iff_of_false ?_ ?_
        · intro hequal
          simp [Value.pyEq, Json.pyEq, Json.number?] at hequal
        · rintro ⟨-, hstr⟩
          cases hstr rfl
    | _ => exact hsame rfl (Option.some.inj h).symm

/-- No field is a float. -/
theorem Field.type_ne_float (f : Field) : f.action.type ≠ .float := by
  cases f <;> decide

/-- A default stays as it is. -/
theorem getValue_default (runtime : Runtime) (f : Field) :
    runtime.getValue f.action.type (.json f.action.default) = some (.json f.action.default) := by
  cases f <;> rfl

theorem field_pyEq {c : Value}
    (ha : runtime.getValue f.action.type ((dict.get? f.action.dest).getD (.json f.action.default)) = some a)
    (hc : fieldOf dict f = some c) : c.pyEq a = true ↔ ∀ v, dict.get? f.action.dest = some v →
      v.reloads = true ∧ (f.action.type = .int → v.isStr = false) := by
  unfold fieldOf at hc
  cases hgiven : dict.get? f.action.dest with
  | none =>
    rw [hgiven] at ha hc
    obtain ⟨d, hdefault, rfl⟩ := Option.map_eq_some_iff.mp hc
    rw [Option.getD_none, getValue_default, default_agrees f hdefault] at ha
    obtain rfl := Option.some.inj ha
    refine iff_of_true (Json.pyEq_refl _) ?_
    intro v h
    cases h
  | some v =>
    rw [hgiven] at ha hc
    obtain rfl := Option.some.inj hc
    rw [Option.getD_some] at ha
    rw [getValue_pyEq f.type_ne_float ha]
    constructor
    · rintro h _ ⟨⟩
      exact h
    · intro h
      exact h v rfl

/-! The whole file. -/

theorem getValue_str (runtime : Runtime) (v : Value) : runtime.getValue .str v = some v := by
  cases v with
  | other id holds reloads => rfl
  | json j => cases j <;> rfl

section FirstTick

section Alone

variable (halone : ∀ dest, dest ≠ launch.type.flag → launch.cli.given dest = none)
  (hparse : runtime.parse launch.cli dict = .ok args)

include halone hparse

/-- Without another flag, every other argument is a default. -/
theorem getValue_of_alone {dest : Dest} (hdest : dest ≠ launch.type.flag)
    (hdeclared : runtime.declares dest = true) : runtime.getValue dest.action.type
      ((dict.get? dest.action.dest).getD (.json dest.action.default)) = some (args dest) := by
  have hargument := argument_of_parse hparse dest
  simp only [Runtime.argument, halone dest hdest, hdeclared, if_true] at hargument
  exact hargument

theorem getValue_field (f : Field) : runtime.getValue f.action.type
      ((dict.get? f.action.dest).getD (.json f.action.default)) = some (args (.field f)) := by
  have hdest : Dest.field f ≠ launch.type.flag := by
    cases launch.type <;> exact Dest.noConfusion
  exact getValue_of_alone halone hparse hdest rfl

/-- The watcher watches the file unless a JSON file names a YAML file. -/
theorem watched_iff (hargs : ∀ o, args' (.startup o) = args (.startup o)) :
    watched args' = some (launch.type, .str launch.path) ↔
      (launch.type = .json → (dict.getD "dynamic_config_yaml" .null).truthy = false) := by
  have hpath : args launch.type.flag = .str launch.path := by
    have hargument := argument_of_parse hparse launch.type.flag
    simp only [Runtime.argument, launch.named] at hargument
    exact (Option.some.inj hargument).symm
  have htruthy : (Value.str launch.path).truthy = true := decide_eq_true launch.nonempty
  simp only [watched, hargs]
  cases htype : launch.type with
  | yaml =>
    rw [htype] at hpath
    change args (.startup .dynamicConfigYaml) = _ at hpath
    rw [hpath, if_pos htruthy]
    exact iff_of_true rfl fun h => by cases h
  | json =>
    have hflag : Dest.startup .dynamicConfigYaml ≠ launch.type.flag := by
      rw [htype]
      decide
    have hyaml := getValue_of_alone halone hparse hflag rfl
    rw [show (Dest.startup .dynamicConfigYaml).action.type = .str from rfl, getValue_str] at hyaml
    rw [htype] at hpath
    change args (.startup .dynamicConfigJson) = _ at hpath
    have hyaml : args (.startup .dynamicConfigYaml) =
        dict.getD "dynamic_config_yaml" .null := (Option.some.inj hyaml).symm
    rw [hpath, if_pos htruthy, hyaml]
    cases (dict.getD "dynamic_config_yaml" .null).truthy with
    | true => simp
    | false => simp

/-- An argument without a conversion has the value that the file gives it. -/
theorem field_of_str (htype : f.action.type = .str) (hdefault : f.action.default = .null) :
    args (.field f) = dict.getD f.action.dest .null := by
  have hvalue := getValue_field halone hparse f
  rw [htype, getValue_str, hdefault] at hvalue
  exact (Option.some.inj hvalue).symm

end Alone

theorem fromConfigDict_ok (hkeys : ∀ key ∈ dict.keys, key ∈ runtime.recognizedArgDests)
    (hfields : ∀ f, (fieldOf dict f).isSome = true) :
    ∃ config, runtime.fromConfigDict dict = .ok config := by
  have hrecognized : dict.keys.all runtime.recognizedArgDests.contains = true := by
    rw [List.all_eq_true]
    intro key hkey
    exact List.contains_iff_mem.mpr (hkeys key hkey)
  have hall : (Field.all.all fun f => (fieldOf dict f).isSome) = true :=
    List.all_eq_true.mpr fun f _ => hfields f
  unfold Runtime.fromConfigDict
  rw [if_pos hrecognized, if_pos hall]
  exact ⟨_, rfl⟩

/-- A field that is given or has a default is there. -/
theorem isSome_fieldOf (h : f.default? = none → (dict.getD f.action.dest .null).truthy = true) :
    (fieldOf dict f).isSome = true := by
  unfold fieldOf
  cases hgiven : dict.get? f.action.dest with
  | some v => rfl
  | none =>
    cases hdefault : f.default? with
    | some d => rfl
    | none =>
      have htruthy := h hdefault
      rw [Dict.getD, hgiven] at htruthy
      cases htruthy

/-- `"external-only"` is not what a file says that is not true. -/
theorem pyEq_external_only (hfalse : v.truthy = false) : v.pyEq (.str "external-only") = false := by
  rw [Bool.eq_false_iff]
  intro hequal
  cases v with
  | other id holds reloads => cases hequal
  | json j =>
    cases j with
    | str s =>
      simp only [Value.pyEq, Value.str, Json.pyEq, decide_eq_true_eq] at hequal
      rw [hequal] at hfalse
      cases hfalse
    | _ => simp [Value.pyEq, Value.str, Json.pyEq, Json.number?] at hequal

/-- The configuration of the watcher is that of the arguments. -/
theorem fromConfigDict_iff (halone : ∀ dest, dest ≠ launch.type.flag → launch.cli.given dest = none)
    (hparse : runtime.parse launch.cli dict = .ok args) (hvalid : validateArgs args = .ok args')
    (hkeys : ∀ key ∈ dict.keys, key ∈ runtime.recognizedArgDests) :
    (∃ config, runtime.fromConfigDict dict = .ok config ∧ config.pyEq (fromArgs args') = true) ↔
      (dict.getD "service_discovery" .null).truthy = true ∧
        ∀ (f : Field) v, dict.get? f.action.dest = some v →
          v.reloads = true ∧ (f.action.type = .int → v.isStr = false) := by
  have hdiscovery : args (.field .serviceDiscovery) = dict.getD "service_discovery" .null :=
    field_of_str halone hparse rfl rfl
  have hlogic : args (.field .routingLogic) = dict.getD "routing_logic" .null :=
    field_of_str halone hparse rfl rfl
  have hfield := getValue_field halone hparse
  obtain ⟨hrouting, hcases⟩ := validateArgs_ok hvalid
  rw [hlogic] at hrouting
  rw [hdiscovery] at hcases
  rcases hcases with ⟨htruthy, rfl⟩ | ⟨hfalse, rfl⟩
  · constructor
    · rintro ⟨config, hconfig, hequal⟩
      refine ⟨htruthy, fun f => ?_⟩
      rw [DynamicRouterConfig.pyEq_iff] at hequal
      exact (field_pyEq (hfield f) (fieldOf_of_fromConfigDict hconfig f)).mp (hequal f)
    · rintro ⟨-, halike⟩
      have hthere (f : Field) : (fieldOf dict f).isSome = true := by
        apply isSome_fieldOf
        intro hrequired
        cases f with
        | serviceDiscovery => exact htruthy
        | routingLogic => exact hrouting
        | _ => cases hrequired
      obtain ⟨config, hconfig⟩ := fromConfigDict_ok hkeys hthere
      refine ⟨config, hconfig, (DynamicRouterConfig.pyEq_iff _ _).mpr fun f => ?_⟩
      exact (field_pyEq (hfield f) (fieldOf_of_fromConfigDict hconfig f)).mpr (halike f)
  · -- the type of service discovery is not the one of the file
    refine iff_of_false ?_ ?_
    · rintro ⟨config, hconfig, hequal⟩
      have hgiven := fieldOf_of_fromConfigDict hconfig .serviceDiscovery
      have hsame := (DynamicRouterConfig.pyEq_iff _ _).mp hequal .serviceDiscovery
      have hvalue : config .serviceDiscovery = dict.getD "service_discovery" .null := by
        unfold fieldOf at hgiven
        rw [show Field.serviceDiscovery.default? = none from rfl, Option.map_none,
          Option.or_none] at hgiven
        unfold Dict.getD
        rw [show dict.get? "service_discovery" = some (config .serviceDiscovery) from hgiven]
        rfl
      have hexternal : fromArgs (args.set (.field .serviceDiscovery) (.str "external-only"))
          .serviceDiscovery = .str "external-only" := by
        unfold fromArgs Namespace.set
        exact Function.update_self _ _ _
      rw [hexternal, hvalue, pyEq_external_only hfalse] at hsame
      cases hsame
    · rintro ⟨htruthy, -⟩
      rw [hfalse] at htruthy
      cases htruthy

/-- A start parses the arguments with the file as defaults, and validates them. -/
theorem parsed_of_start {process : Process}
    (hread : runtime.read (launch.file (.ok raw)) = .ok dict)
    (hstart : launch.start runtime (.ok raw) surroundings = .ok (args', process)) :
    ∃ parsed, runtime.parse launch.cli dict = .ok parsed ∧ validateArgs parsed = .ok args' := by
  obtain ⟨validated, hparseArgs, h⟩ := bind_ok hstart
  obtain ⟨_, -, h⟩ := bind_ok h
  cases h
  obtain ⟨defaults, hdefaults, h⟩ := bind_ok hparseArgs
  obtain ⟨parsed, hparse, hvalid⟩ := bind_ok h
  rw [mapError_ok hdefaults] at hread
  cases hread
  exact ⟨parsed, hparse, hvalid⟩

/-- What is validated keeps the arguments that count at startup. -/
theorem validateArgs_startup (hvalid : validateArgs args = .ok args') (o : StartupOption) :
    args' (.startup o) = args (.startup o) := by
  rcases (validateArgs_ok hvalid).2 with ⟨-, rfl⟩ | ⟨-, rfl⟩
  · rfl
  · exact Function.update_of_ne Dest.noConfusion _ _

end FirstTick

/-- With the file as the only argument, the first tick changes nothing exactly if the
values of the file mean the same with and without the parser. -/
theorem first_tick_noop_iff (launch : Launch) (runtime : Runtime) (surroundings : Surroundings)
    (raw dict : Dict String Value) (args : Namespace) (process : Process)
    (halone : ∀ dest, dest ≠ launch.type.flag → launch.cli.given dest = none)
    (hkeys : ∀ key ∈ raw.keys, key ∈ runtime.recognizedArgDests)
    (hread : runtime.read (launch.file (.ok raw)) = .ok dict)
    (hstart : launch.start runtime (.ok raw) surroundings = .ok (args, process)) :
    FirstTickIsNoOp launch runtime (.ok raw) args ↔ ReadsAlike launch.type dict := by
  obtain ⟨parsed, hparse, hvalid⟩ := parsed_of_start hread hstart
  have hfile : runtime.fromFile (launch.file (.ok raw)) = runtime.fromConfigDict dict := by
    unfold Runtime.fromFile
    rw [hread]
    rfl
  unfold FirstTickIsNoOp
  rw [hfile, watched_iff halone hparse (validateArgs_startup hvalid),
    fromConfigDict_iff halone hparse hvalid (read_recognized hkeys hread)]
  constructor
  · rintro ⟨hunredirected, hdiscovery, halike⟩
    exact ⟨hdiscovery, fun f hint v hv => (halike f v hv).2 hint, fun f v hv => (halike f v hv).1,
      hunredirected⟩
  · rintro ⟨hdiscovery, hintegers, hreloads, hunredirected⟩
    exact ⟨hunredirected, hdiscovery, fun f v hv => ⟨hreloads f v hv, fun hint =>
      hintegers f hint v hv⟩⟩

/-- `--dynamic-config-json c.json`, and nothing else. -/
def onlyFile : Launch where
  cli := {
    given := fun dest => if dest = .startup .dynamicConfigJson then some (.str "c.json") else none
    accepted := by
      intro dest v h
      split_ifs at h with hdest
      obtain rfl := Option.some.inj h
      rw [hdest]
      rfl
    runs := ⟨rfl, rfl⟩
    exclusive := Or.inl rfl }
  type := .json
  path := "c.json"
  named := rfl
  nonempty := by decide

theorem onlyFile_alone (dest : Dest) (h : dest ≠ onlyFile.type.flag) :
    onlyFile.cli.given dest = none := if_neg h

def asciiRuntime : Runtime := ⟨Routing.intOfString, fun _ => none, fun _ => "", false⟩

/-- Nothing around the router fails. -/
def calm : Surroundings := ⟨.ok (), ⟨.ok (), .ok⟩, fun _ => .ok 0, fun _ => .ok ()⟩

/-- A router without engines of its own, and a port that it does not use. -/
def externalFile (port : Json) : Dict String Value :=
  ((Dict.empty.set "service_discovery" (.str "external-only")).set "routing_logic"
    (.str "roundrobin")).set "k8s_port" (.json port)

theorem externalFile_keys (port : Json) :
    ∀ key ∈ (externalFile port).keys, key ∈ asciiRuntime.recognizedArgDests := by
  intro key hkey
  have hkeys : (externalFile port).keys = ["service_discovery", "routing_logic", "k8s_port"] := rfl
  rw [hkeys] at hkey
  revert key
  decide

/-- A port that is a number is read alike. -/
theorem first_tick_noop_number : ∃ args process,
    onlyFile.start asciiRuntime (.ok (externalFile (.int 80))) calm = .ok (args, process) ∧
      FirstTickIsNoOp onlyFile asciiRuntime (.ok (externalFile (.int 80))) args := by
  have hok : (onlyFile.start asciiRuntime (.ok (externalFile (.int 80))) calm).isOk = true := by
    decide +kernel
  cases hstart : onlyFile.start asciiRuntime (.ok (externalFile (.int 80))) calm with
  | error failure =>
    rw [hstart] at hok
    cases hok
  | ok started =>
    obtain ⟨args, process⟩ := started
    refine ⟨args, process, rfl, ?_⟩
    refine (first_tick_noop_iff onlyFile asciiRuntime calm _ _ args process onlyFile_alone
      (externalFile_keys _) rfl hstart).mpr ⟨rfl, ?_, ?_, fun _ => rfl⟩
    · intro f hint v hv
      cases f <;> cases hint <;> cases hv
      rfl
    · intro f v hv
      cases f <;> cases hv <;> rfl

/-- A port that is a string becomes a number in the arguments, and the first tick
finds the file changed. -/
theorem first_tick_string_port : ∃ args process,
    onlyFile.start asciiRuntime (.ok (externalFile (.str "80"))) calm = .ok (args, process) ∧
      ¬ FirstTickIsNoOp onlyFile asciiRuntime (.ok (externalFile (.str "80"))) args := by
  have hok : (onlyFile.start asciiRuntime (.ok (externalFile (.str "80"))) calm).isOk = true := by
    decide +kernel
  cases hstart : onlyFile.start asciiRuntime (.ok (externalFile (.str "80"))) calm with
  | error failure =>
    rw [hstart] at hok
    cases hok
  | ok started =>
    obtain ⟨args, process⟩ := started
    refine ⟨args, process, rfl, ?_⟩
    rintro ⟨-, hsame⟩
    obtain ⟨parsed, hparse, hvalid⟩ := parsed_of_start rfl hstart
    have halike := (fromConfigDict_iff onlyFile_alone hparse hvalid (externalFile_keys _)).mp hsame
    have hport := (halike.2 .k8sPort (.str "80") rfl).2 rfl
    cases hport

end ProductionStack.Config

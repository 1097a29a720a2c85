import ProductionStack.Config.Arguments

/-!
The configuration file. At startup its values become defaults of the parser; the
watcher builds a `DynamicRouterConfig` from it directly, without the parser.
-/

namespace ProductionStack.Config

open Lib Python Routing

inductive FileType where
  | yaml
  | json
  deriving DecidableEq

/-- A file. The content is what the loader makes of it: a mapping, empty for an
empty YAML document, or the error that a file without one leads to. -/
structure ConfigFile where
  type : FileType
  content : Except PyExc (Dict String Value)

/-! `yaml_utils`. -/

/-- `details["static_backends"]` of each model that has them. -/
def staticBackendsOf (models : List (String × Json)) :
    Except PyExc (List (String × Json × List Json)) := do
  let found ← models.mapM fun (name, details) => do
    if ← details.contains "static_backends" then
      let backends ← details.item "static_backends"
      let items ← iterItems backends
      pure [(name, details, items)]
    else pure []
  pure found.flatten

def generateStaticBackends (models : List (String × Json)) : Except PyExc String := do
  let found ← staticBackendsOf models
  joinStrings "," (found.flatMap fun (_, _, items) => items)

def generateStaticModels (models : List (String × Json)) : Except PyExc String := do
  let found ← staticBackendsOf models
  joinStrings "," (found.flatMap fun (name, _, items) => items.map fun _ => .str name)

def generateStaticModelTypes (models : List (String × Json)) : Except PyExc String := do
  let found ← staticBackendsOf models
  let types ← found.mapM fun (_, details, items) => do
    if ← details.contains "static_model_type" then
      let type ← details.item "static_model_type"
      pure (items.map fun _ => type)
    else pure []
  joinStrings "," types.flatten

/-- `f"{v}"`. -/
def Runtime.format (runtime : Runtime) : Json → String
  | .str s => s
  | v => runtime.str v

def Runtime.generateStaticAliases (runtime : Runtime) (aliases : List (String × Json)) : String :=
  ",".intercalate (aliases.map fun (name, model) => name ++ ":" ++ runtime.format model)

/-- `v.items()`. -/
def itemsOf : Value → Except PyExc (List (String × Json))
  | .json (.obj fields) => .ok fields
  | _ => .error (.new .attributeError "object has no attribute 'items'")

/-- `if models: ...`. -/
def setStaticModels (config : Dict String Value) (models : Value) :
    Except PyExc (Dict String Value) :=
  if models.truthy then do
    let models ← itemsOf models
    let backends ← generateStaticBackends models
    let names ← generateStaticModels models
    let types ← generateStaticModelTypes models
    pure (((config.set "static_backends" (.str backends)).set "static_models" (.str names)).set
      "static_model_types" (.str types))
  else pure config

/-- `if aliases: ...`. -/
def Runtime.setStaticAliases (runtime : Runtime) (config : Dict String Value) (aliases : Value) :
    Except PyExc (Dict String Value) :=
  if aliases.truthy then do
    let aliases ← itemsOf aliases
    pure (config.set "static_aliases" (.str (runtime.generateStaticAliases aliases)))
  else pure config

/-- The mappings under `static_models` and `static_aliases` become strings as on the
command line. -/
def Runtime.readAndProcessYamlConfigFile (runtime : Runtime) (config : Dict String Value) :
    Except PyExc (Dict String Value) := do
  let models := config.getD "static_models" .null
  let aliases := config.getD "static_aliases" .null
  let config ← setStaticModels ((config.erase "static_models").erase "static_aliases") models
  runtime.setStaticAliases config aliases

/-- What both paths start from. -/
def Runtime.read (runtime : Runtime) (file : ConfigFile) : Except PyExc (Dict String Value) := do
  let config ← file.content
  match file.type with
  | .yaml => runtime.readAndProcessYamlConfigFile config
  | .json => pure config

/-! `DynamicRouterConfig`. -/

abbrev DynamicRouterConfig := Field → Value

/-- The default of a field. Two fields have none. -/
def Field.default? : Field → Option Json
  | .serviceDiscovery | .routingLogic => none
  | .staticBackends | .staticModels | .staticAliases | .staticModelLabels | .staticModelTypes =>
    some .null
  | .staticBackendHealthChecks => some (.bool false)
  | .staticBackendHealthCheckInterval => some (.int 60)
  | .staticBackendHealthCheckTimeoutSeconds => some (.int 10)
  | .prefillModelLabels | .decodeModelLabels => some .null
  | .k8sPort => some (.int 8000)
  | .k8sNamespace => some (.str "default")
  | .k8sLabelSelector => some (.str "")
  | .sessionKey => some .null
  | .priorityHeader => some (.str "x-request-priority")
  | .priorityField => some (.str "priority")
  | .priorityDefault => some (.int 0)
  | .priorityThreshold => some .null
  | .callbacks => some .null
  | .timeoutKeepAlive => some (.int 5)

def fromArgs (args : Namespace) : DynamicRouterConfig := fun f => args (.field f)

/-- `c == c'`. -/
def DynamicRouterConfig.pyEq (config config' : DynamicRouterConfig) : Bool :=
  Field.all.all fun f => (config f).pyEq (config' f)

theorem DynamicRouterConfig.pyEq_iff (config config' : DynamicRouterConfig) :
    config.pyEq config' = true ↔ ∀ f, (config f).pyEq (config' f) = true := by
  unfold pyEq
  rw [List.all_eq_true]
  exact ⟨fun h f => h f f.mem_all, fun h f _ => h f⟩

/-- The value of a field, if the file or the class has one. -/
def fieldOf (config : Dict String Value) (f : Field) : Option Value :=
  (config.get? f.action.dest).or (f.default?.map .json)

/-- `_from_config_dict`: a key that is no field and no argument is refused, and so is
a file without a field that has no default. -/
def Runtime.fromConfigDict (runtime : Runtime) (config : Dict String Value) :
    Except PyExc DynamicRouterConfig :=
  if config.keys.all runtime.recognizedArgDests.contains then
    if Field.all.all fun f => (fieldOf config f).isSome then
      .ok fun f => (fieldOf config f).getD .null
    else .error (.new .typeError "missing required positional argument")
  else .error (.new .valueError "Unrecognized dynamic-config key(s)")

/-- `from_yaml` and `from_json`. -/
def Runtime.fromFile (runtime : Runtime) (file : ConfigFile) : Except PyExc DynamicRouterConfig := do
  let config ← runtime.read file
  runtime.fromConfigDict config

theorem fieldOf_of_fromConfigDict {runtime : Runtime} {dict : Dict String Value}
    {config : DynamicRouterConfig} (h : runtime.fromConfigDict dict = .ok config) (f : Field) :
    fieldOf dict f = some (config f) := by
  unfold Runtime.fromConfigDict at h
  split_ifs at h with hkeys hall
  have hsome := List.all_eq_true.mp hall f f.mem_all
  obtain ⟨v, hv⟩ := Option.isSome_iff_exists.mp hsome
  obtain rfl := Except.ok.inj h
  simp [hv]

/-- The defaults of the two classes agree. -/
theorem default_agrees (f : Field) {v : Json} (h : f.default? = some v) : f.action.default = v := by
  cases f <;> cases h <;> rfl

end ProductionStack.Config

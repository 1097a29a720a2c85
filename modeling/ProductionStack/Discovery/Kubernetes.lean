import Mathlib.Data.Finset.Dedup
import Mathlib.Data.Finset.Lattice.Basic
import ProductionStack.Lib.Table
import ProductionStack.Request.Events

/-!
Service discovery in a Kubernetes cluster. A thread watches the pods, or the
services, of a namespace and keeps `available_engines` in step with the events
it is sent. What the engines and the API server answer while an event is being
handled comes with the event.
-/

namespace ProductionStack.Discovery

open Lib Python Request

inductive WatchType where
  | added
  | modified
  | deleted
  deriving DecidableEq

/-- `uuid5` is `str(uuid.uuid5(uuid.NAMESPACE_DNS, name))`. -/
structure Settings where
  port : String
  uuid5 : String → String

structure Container where
  name : String
  command : List String

/-- What asking an engine for its models and its sleep status gives. -/
structure EngineAnswers where
  models : Except PyExc (List String)
  isSleeping : Except PyExc Bool

/-- What the watcher does with a failed `_get_model_names`: no models. -/
def getModelNames : Except PyExc (List String) → List String
  | .ok names => names
  | .error _ => []

def getModelLabel (labels : List (String × String)) : Option String :=
  if labels.isEmpty then none else labels.lookup "model"

def getEngineSleepStatus : Except PyExc Bool → Bool
  | .ok sleep => sleep
  | .error _ => false

/-- The first container called `vllm` decides. One without a command runs the
entrypoint of its image. -/
def enablesSleepMode (containers : List Container) : Bool :=
  match containers.find? (·.name = "vllm") with
  | some container =>
    container.command.isEmpty || container.command.contains "--enable-sleep-mode"
  | none => false

/-- `except client.rest.ApiException: return False`; other exceptions are raised. -/
def unlessApiException (r : Except PyExc Bool) : Except PyExc Bool :=
  match r with
  | .ok enabled => .ok enabled
  | .error e => if e.isInstance [.apiException] then .ok false else .error e

/-- The fields of the `EndpointInfo` that `_add_engine` registers. -/
def engineInfo (settings : Settings) (host engineName : String) (modelNames : List String)
    (modelLabel : Option String) (sleepStatus : Bool) : EndpointInfo where
  url := "http://" ++ host ++ ":" ++ settings.port
  modelNames := modelNames
  id := settings.uuid5 engineName
  modelLabel := modelLabel
  sleep := sleepStatus

/-- `del self.available_engines[engine_name]`. -/
def deleteEngine (engineName : String) (engines : Dict String EndpointInfo) :
    Except PyExc (Dict String EndpointInfo) :=
  if engineName ∈ engines then .ok (engines.erase engineName)
  else .error (.new .keyError engineName)

/-- `if name in self.available_engines: self._delete_engine(name)`. -/
def deleteIfPresent (engineName : String) (engines : Dict String EndpointInfo) :
    Except PyExc (Dict String EndpointInfo) :=
  if engineName ∈ engines then deleteEngine engineName engines else .ok engines

/-! Discovery by pod IP. -/

/-- `containerStatuses` says of each container whether it is ready. -/
structure Pod where
  name : String
  podIp : Option String
  containerStatuses : List Bool
  deletionTimestamp : Option ℚ
  labels : List (String × String)

/-- `containers` is what `read_namespaced_pod` says. -/
structure PodAnswers extends EngineAnswers where
  containers : Except PyExc (List Container)

structure K8sPodIPServiceDiscovery where
  availableEngines : Dict String EndpointInfo
  knownModels : Finset String

namespace K8sPodIPServiceDiscovery

variable (settings : Settings)

def checkPodReady (containerStatuses : List Bool) : Bool :=
  if containerStatuses.isEmpty then false
  else containerStatuses.countP (· = true) == containerStatuses.length

def isPodTerminating (pod : Pod) : Bool := pod.deletionTimestamp.isSome

def checkEngineSleepMode (answers : PodAnswers) : Except PyExc Bool :=
  unlessApiException (answers.containers.map enablesSleepMode)

def addEngine (answers : PodAnswers) (engineName engineIp : String) (modelNames : List String)
    (modelLabel : Option String) (self : K8sPodIPServiceDiscovery) :
    Except PyExc K8sPodIPServiceDiscovery := do
  let enabled ← checkEngineSleepMode answers
  let sleepStatus := if enabled then getEngineSleepStatus answers.isSleeping else false
  .ok {
    availableEngines := self.availableEngines.set engineName
      (engineInfo settings engineIp engineName modelNames modelLabel sleepStatus)
    knownModels := self.knownModels ∪ modelNames.toFinset }

def removeEngine (engineName : String) (self : K8sPodIPServiceDiscovery) :
    Except PyExc K8sPodIPServiceDiscovery := do
  let engines ← deleteIfPresent engineName self.availableEngines
  .ok { self with availableEngines := engines }

def onEngineUpdate (answers : PodAnswers) (engineName : String) (engineIp : Option String)
    (event : WatchType) (isPodReady : Bool) (modelNames : List String)
    (modelLabel : Option String) (self : K8sPodIPServiceDiscovery) :
    Except PyExc K8sPodIPServiceDiscovery :=
  match event, engineIp with
  | .added, none => .ok self
  | .added, some ip =>
    if !isPodReady then .ok self
    else if modelNames.isEmpty then .ok self
    else addEngine settings answers engineName ip modelNames modelLabel self
  | .deleted, _ => removeEngine engineName self
  | .modified, none => removeEngine engineName self
  | .modified, some ip =>
    if isPodReady && !modelNames.isEmpty then
      addEngine settings answers engineName ip modelNames modelLabel self
    else removeEngine engineName self

/-- The body of the loop in `_watch_engines`. -/
def handleEvent (event : WatchType) (pod : Pod) (answers : PodAnswers)
    (self : K8sPodIPServiceDiscovery) : Except PyExc K8sPodIPServiceDiscovery :=
  if event = .deleted then removeEngine pod.name self
  else
    let isPodReady := checkPodReady pod.containerStatuses && !isPodTerminating pod
    let modelNames := if isPodReady then getModelNames answers.models else []
    let modelLabel := if isPodReady then getModelLabel pod.labels else none
    onEngineUpdate settings answers pod.name pod.podIp event isPodReady modelNames modelLabel self

/-- Whether a model was ever served, even if its engines are gone. -/
def hasEverSeenModel (self : K8sPodIPServiceDiscovery) (modelName : String) : Bool :=
  modelName ∈ self.knownModels

def getEndpointInfo (self : K8sPodIPServiceDiscovery) : List EndpointInfo :=
  self.availableEngines.values

end K8sPodIPServiceDiscovery

/-! Discovery by service name. -/

/-- The API server gives every object a name. -/
structure Service where
  name : String
  named : name ≠ ""
  selector : List (String × String)

/-- `subsets` are the addresses that `read_namespaced_endpoints` lists; `selector`
and `pods` what `read_namespaced_service` and `list_namespaced_pod` say. -/
structure ServiceAnswers extends EngineAnswers where
  subsets : Except PyExc (List (List String))
  selector : Except PyExc (List (String × String))
  pods : Except PyExc (List (List Container))

structure K8sServiceNameServiceDiscovery where
  availableEngines : Dict String EndpointInfo

namespace K8sServiceNameServiceDiscovery

variable (settings : Settings)

/-- Some subset has an address. -/
def checkServiceReady (answers : ServiceAnswers) : Except PyExc Bool := do
  let subsets ← answers.subsets
  .ok (subsets.any fun addresses => !addresses.isEmpty)

def checkEngineSleepMode (answers : ServiceAnswers) : Except PyExc Bool :=
  unlessApiException do
    let selector ← answers.selector
    if selector.isEmpty then .ok false
    else do
      let pods ← answers.pods
      match pods with
      | [] => .ok false
      | containers :: _ => .ok (enablesSleepMode containers)

def addEngine (answers : ServiceAnswers) (engineName : String) (modelNames : List String)
    (modelLabel : Option String) (self : K8sServiceNameServiceDiscovery) :
    Except PyExc K8sServiceNameServiceDiscovery := do
  let enabled ← checkEngineSleepMode answers
  let sleepStatus := if enabled then getEngineSleepStatus answers.isSleeping else false
  .ok ⟨self.availableEngines.set engineName
    (engineInfo settings engineName engineName modelNames modelLabel sleepStatus)⟩

def removeEngine (engineName : String) (self : K8sServiceNameServiceDiscovery) :
    Except PyExc K8sServiceNameServiceDiscovery := do
  let engines ← deleteIfPresent engineName self.availableEngines
  .ok ⟨engines⟩

def onEngineUpdate (answers : ServiceAnswers) (engineName : String) (event : WatchType)
    (isServiceReady : Bool) (modelNames : List String) (modelLabel : Option String)
    (self : K8sServiceNameServiceDiscovery) : Except PyExc K8sServiceNameServiceDiscovery :=
  match event with
  | .added =>
    if engineName = "" then .ok self
    else if !isServiceReady then .ok self
    else if modelNames.isEmpty then .ok self
    else addEngine settings answers engineName modelNames modelLabel self
  | .deleted => removeEngine engineName self
  | .modified =>
    if engineName = "" then .ok self
    else if isServiceReady && !modelNames.isEmpty then
      addEngine settings answers engineName modelNames modelLabel self
    else removeEngine engineName self

def handleEvent (event : WatchType) (service : Service) (answers : ServiceAnswers)
    (self : K8sServiceNameServiceDiscovery) : Except PyExc K8sServiceNameServiceDiscovery :=
  if event = .deleted then removeEngine service.name self
  else do
    let isServiceReady ← checkServiceReady answers
    let modelNames := if isServiceReady then getModelNames answers.models else []
    let modelLabel := if isServiceReady then getModelLabel service.selector else none
    onEngineUpdate settings answers service.name event isServiceReady modelNames modelLabel self

def getEndpointInfo (self : K8sServiceNameServiceDiscovery) : List EndpointInfo :=
  self.availableEngines.values

end K8sServiceNameServiceDiscovery

end ProductionStack.Discovery

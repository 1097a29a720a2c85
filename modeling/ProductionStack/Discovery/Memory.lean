import Mathlib.Data.Finset.Lattice.Lemmas
import ProductionStack.Discovery.Registration

/-!
What service discovery remembers. Statically configured engines are never
forgotten; discovery by pod IP keeps the names of all models it has ever seen,
and discovery by service name keeps only the engines that are registered now. An
object of one of the three classes is followed through every change, and the
models that were ever registered are compared with those it remembers.
-/

namespace ProductionStack.Discovery

open Lib Python Request

/-! The static engines. -/

/-- `hash` is the hexadecimal MD5 digest. The URLs and models are as many as each
other; with fewer labels than URLs the endpoints could not be listed. -/
structure StaticServiceDiscovery where
  urls : List String
  models : List String
  aliases : List (String × String)
  modelLabels : List String
  modelTypes : Option (List String)
  enginesId : List String
  unhealthyEndpointHashes : List String
  hash : String → String
  paired : urls.length = models.length
  labelled : modelLabels = [] ∨ urls.length ≤ modelLabels.length

namespace StaticServiceDiscovery

variable (self : StaticServiceDiscovery)

def getModelEndpointHash (url model : String) : String := self.hash (url ++ model)

/-- The hashes of the engines that fail their check. A list of types that is too
short or too long ends the checks early. -/
def getUnhealthyEndpointHashes (isModelHealthy : String → String → String → Bool)
    (modelTypes : List String) : List String :=
  ((self.urls.zip (self.models.zip modelTypes)).filter fun (url, model, modelType) =>
    !isModelHealthy url model modelType).map fun (url, model, _) =>
      self.getModelEndpointHash url model

/-- One round of `check_model_health`. Without types it raises and changes nothing. -/
def checkModelHealth (isModelHealthy : String → String → String → Bool) :
    StaticServiceDiscovery :=
  match self.modelTypes with
  | some modelTypes =>
    { self with unhealthyEndpointHashes :=
        self.getUnhealthyEndpointHashes isModelHealthy modelTypes }
  | none => self

def getEndpointInfo : List EndpointInfo :=
  (self.urls.zip self.models).zipIdx.filterMap fun ((url, model), i) =>
    if self.unhealthyEndpointHashes.contains (self.getModelEndpointHash url model) then none
    else some {
      url := url
      modelNames := [model]
      id := self.enginesId.getD i ""
      modelLabel := if self.modelLabels.isEmpty then some "default" else self.modelLabels[i]?
      sleep := false }

/-- `model_name in self.models or (self.aliases and model_name in self.aliases)`. -/
def hasEverSeenModel (modelName : String) : Bool :=
  self.models.contains modelName || (self.aliases.map Prod.fst).contains modelName

end StaticServiceDiscovery

/-! The three classes. -/

/-- `learning` are the models of an engine that `_add_engine` has put into the
table, but not yet among the known models: in between it waits for the event loop. -/
inductive ServiceDiscovery where
  | static (self : StaticServiceDiscovery)
  | podIP (self : K8sPodIPServiceDiscovery) (learning : List String)
  | serviceName (self : K8sServiceNameServiceDiscovery)

/-- What may happen to a service discovery object: a round of health checks, a
watch event, or the end of `_add_engine`. -/
inductive Change where
  | healthCheck (isModelHealthy : String → String → String → Bool)
  | podEvent (event : WatchEvent .podIP)
  | learn
  | serviceEvent (event : WatchEvent .serviceName)

/-- The models of the engine that an event registers. -/
def WatchEvent.modelNames (settings : Settings) {cls : K8sClass} (event : WatchEvent cls) :
    List String :=
  ((event.registration settings).map (·.modelNames)).getD []

namespace ServiceDiscovery

def getEndpointInfo : ServiceDiscovery → List EndpointInfo
  | .static self => self.getEndpointInfo
  | .podIP self _ => self.getEndpointInfo
  | .serviceName self => self.getEndpointInfo

/-- The method `has_ever_seen_model`, of the classes that have one. -/
def hasEverSeenModel : ServiceDiscovery → Option (String → Bool)
  | .static self => some self.hasEverSeenModel
  | .podIP self _ => some self.hasEverSeenModel
  | .serviceName _ => none

/-- `getattr(service_discovery, "aliases", None)`. -/
def aliases : ServiceDiscovery → List (String × String)
  | .static self => self.aliases
  | .podIP _ _ => []
  | .serviceName _ => []

variable (settings : Settings)

/-- A watcher handles one event after the other, and what one raises leaves the
object as it was. -/
def after : ServiceDiscovery → Change → ServiceDiscovery
  | .static self, .healthCheck isModelHealthy => .static (self.checkModelHealth isModelHealthy)
  | .podIP self learning, .podEvent event =>
    if learning.isEmpty then
      match event.handle settings self with
      | .ok next =>
        .podIP { next with knownModels := self.knownModels } (event.modelNames settings)
      | .error _ => .podIP self learning
    else .podIP self learning
  | .podIP self learning, .learn =>
    .podIP { self with knownModels := self.knownModels ∪ learning.toFinset } []
  | .serviceName self, .serviceEvent event =>
    match event.handle settings self with
    | .ok next => .serviceName next
    | .error _ => .serviceName self
  | self, _ => self

def run (self : ServiceDiscovery) (changes : List Change) : ServiceDiscovery :=
  changes.foldl (after settings) self

end ServiceDiscovery

/-! What an event adds to the known models. -/

variable {event : WatchEvent .podIP}

namespace K8sPodIPServiceDiscovery

variable (settings : Settings) {engineName : String} {self self' : K8sPodIPServiceDiscovery}
  {answers : PodAnswers} {modelNames : List String} {modelLabel : Option String}

theorem addEngine_known {engineIp : String}
    (h : addEngine settings answers engineName engineIp modelNames modelLabel self = .ok self') :
    self'.knownModels = self.knownModels ∪ modelNames.toFinset := by
  unfold addEngine at h
  cases hmode : checkEngineSleepMode answers with
  | error e =>
    rw [hmode] at h
    cases h
  | ok enabled =>
    rw [hmode] at h
    cases h
    rfl

theorem removeEngine_known (h : removeEngine engineName self = .ok self') :
    self'.knownModels = self.knownModels := by
  rw [removeEngine_eq] at h
  cases h
  rfl

/-- The models that are learned are those of the registration. -/
theorem onEngineUpdate_known {engineIp : Option String} {event : WatchType} {isPodReady : Bool}
    (hevent : event ≠ .deleted)
    (h : onEngineUpdate settings answers engineName engineIp event isPodReady modelNames modelLabel self = .ok self') :
    self'.knownModels = self.knownModels ∪
      (((registration settings engineIp isPodReady modelNames modelLabel).map
        (·.modelNames)).getD []).toFinset := by
  have hnothing {self' : K8sPodIPServiceDiscovery} (hkept : self'.knownModels = self.knownModels) :
      self'.knownModels = self.knownModels ∪ ([] : List String).toFinset :=
    hkept.trans (Finset.union_empty _).symm
  cases engineIp with
  | none =>
    apply hnothing
    cases event with
    | deleted => exact absurd rfl hevent
    | added =>
      cases h
      rfl
    | modified => exact removeEngine_known h
  | some ip =>
    cases isPodReady with
    | false =>
      apply hnothing
      cases event with
      | deleted => exact absurd rfl hevent
      | added =>
        cases h
        rfl
      | modified => exact removeEngine_known h
    | true =>
      cases modelNames with
      | nil =>
        apply hnothing
        cases event with
        | deleted => exact absurd rfl hevent
        | added =>
          cases h
          rfl
        | modified => exact removeEngine_known h
      | cons first rest =>
        cases event with
        | deleted => exact absurd rfl hevent
        | added | modified => exact addEngine_known settings h

theorem handle_known (h : event.handle settings self = .ok self') :
    self'.knownModels = self.knownModels ∪ (event.modelNames settings).toFinset := by
  have hhandle : self.handleEvent settings event.type event.object event.answers = .ok self' := h
  unfold handleEvent at hhandle
  by_cases hdeleted : event.type = .deleted
  · rw [if_pos hdeleted] at hhandle
    have hnone : event.modelNames settings = [] := by
      unfold WatchEvent.modelNames
      rw [WatchEvent.registration_deleted hdeleted]
      rfl
    rw [hnone, removeEngine_known hhandle]
    exact (Finset.union_empty _).symm
  · rw [if_neg hdeleted] at hhandle
    rw [onEngineUpdate_known settings hdeleted hhandle]
    have hregistration : event.registration settings = registration settings event.object.podIp
        (checkPodReady event.object.containerStatuses && !isPodTerminating event.object)
        (getModelNames event.answers.models) (getModelLabel event.object.labels) := if_neg hdeleted
    unfold WatchEvent.modelNames
    rw [hregistration]
    -- A pod that is not ready is not asked for its models.
    cases checkPodReady event.object.containerStatuses && !isPodTerminating event.object with
    | false => cases event.object.podIp <;> rfl
    | true => rfl

end K8sPodIPServiceDiscovery

namespace ServiceDiscovery

variable {settings : Settings} (self : ServiceDiscovery) {next : K8sPodIPServiceDiscovery}
  (changes : List Change) (change : Change)

/-- The two halves of an event are what the handler does in all. -/
theorem learn_after_podEvent {self : K8sPodIPServiceDiscovery}
    (h : event.handle settings self = .ok next) :
    ((podIP self []).after settings (.podEvent event)).after settings .learn = .podIP next [] := by
  have hknown := K8sPodIPServiceDiscovery.handle_known settings h
  have hbegun : (podIP self []).after settings (.podEvent event) =
      .podIP { next with knownModels := self.knownModels } (event.modelNames settings) := by
    simp [after, h]
  rw [hbegun]
  change podIP { next with knownModels := self.knownModels ∪ _ } [] = _
  rw [← hknown]

/-! Whole histories. -/

theorem run_append :
    self.run settings (changes ++ [change]) = (self.run settings changes).after settings change :=
  List.foldl_append

end ServiceDiscovery

end ProductionStack.Discovery

import Mathlib.Data.Finset.Empty
import ProductionStack.Discovery.Kubernetes

/-!
Which engines are registered after a sequence of watch events, against the
latest event of each engine.
-/

namespace ProductionStack.Discovery

open Lib Python Request

/-- What clients see of a registered engine. -/
structure Registration where
  url : String
  modelNames : List String
  modelLabel : Option String
  deriving DecidableEq

def registrationOf (info : EndpointInfo) : Registration :=
  ⟨info.url, info.modelNames, info.modelLabel⟩

/-- An engine that is ready and reports models, under the host it is reached at. -/
def registration (settings : Settings) (host : Option String) (ready : Bool)
    (modelNames : List String) (modelLabel : Option String) : Option Registration :=
  match host with
  | none => none
  | some host =>
    if ready && !modelNames.isEmpty then
      some ⟨"http://" ++ host ++ ":" ++ settings.port, modelNames, modelLabel⟩
    else none

/-- An engine that cannot be registered is removed, unless it was just added. -/
def unregistered : WatchType → Effect EndpointInfo
  | .added => .keep
  | .modified => .remove
  | .deleted => .remove

/-- What an event about an engine does to its entry. -/
def effectOf (settings : Settings) (engineName : String) (event : WatchType)
    (sleepStatus : Bool) : Option Registration → Effect EndpointInfo
  | some r => .set ⟨r.url, r.modelNames, settings.uuid5 engineName, r.modelLabel, sleepStatus⟩
  | none => unregistered event

theorem deleteIfPresent_eq (engineName : String) (engines : Dict String EndpointInfo) :
    deleteIfPresent engineName engines = .ok (engines.erase engineName) := by
  unfold deleteIfPresent deleteEngine
  split
  · rfl
  · rename_i habsent
    rw [Dict.erase_of_not_mem engines habsent]

/-! What one event does to the table of engines. -/

variable {engineName : String} {modelNames : List String} {modelLabel : Option String}
  {event : WatchType} {settings : Settings}

namespace K8sPodIPServiceDiscovery

variable (settings : Settings)

/-- What an event says about an engine: a pod that is not terminating, whose
containers are all ready, that has an IP and that reports models. -/
def registrationIn (event : WatchType) (pod : Pod) (answers : PodAnswers) :
    Option Registration :=
  if event = .deleted then none
  else registration settings pod.podIp (checkPodReady pod.containerStatuses && !isPodTerminating pod)
    (getModelNames answers.models) (getModelLabel pod.labels)

def sleepStatus (answers : PodAnswers) : Bool :=
  match checkEngineSleepMode answers with
  | .ok true => getEngineSleepStatus answers.isSleeping
  | _ => false

theorem removeEngine_eq (engineName : String) (self : K8sPodIPServiceDiscovery) :
    removeEngine engineName self =
      .ok { self with availableEngines := self.availableEngines.erase engineName } := by
  unfold removeEngine
  rw [deleteIfPresent_eq]
  rfl

variable {self self' : K8sPodIPServiceDiscovery} {answers : PodAnswers}

theorem addEngine_engines {engineIp : String}
    (h : addEngine settings answers engineName engineIp modelNames modelLabel self = .ok self') :
    self'.availableEngines = self.availableEngines.set engineName
      (engineInfo settings engineIp engineName modelNames modelLabel (sleepStatus answers)) := by
  unfold addEngine at h
  unfold sleepStatus
  cases hmode : checkEngineSleepMode answers with
  | error e =>
    rw [hmode] at h
    cases h
  | ok enabled =>
    rw [hmode] at h
    cases enabled <;>
    · cases h
      rfl

theorem onEngineUpdate_engines {engineIp : Option String} {isPodReady : Bool}
    (hevent : event ≠ .deleted)
    (h : onEngineUpdate settings answers engineName engineIp event isPodReady modelNames modelLabel self = .ok self') :
    self'.availableEngines = self.availableEngines.apply engineName
      (effectOf settings engineName event (sleepStatus answers)
        (registration settings engineIp isPodReady modelNames modelLabel)) := by
  cases event with
  | deleted => exact absurd rfl hevent
  | added =>
    cases engineIp with
    | none =>
      cases h
      rfl
    | some ip =>
      cases isPodReady with
      | false =>
        cases h
        rfl
      | true =>
        cases modelNames with
        | nil =>
          cases h
          rfl
        | cons first rest => exact addEngine_engines settings h
  | modified =>
    have hremoved {ready : Bool} {names : List String}
        (hnone : registration settings engineIp ready names modelLabel = none)
        (hremove : removeEngine engineName self = .ok self') :
        self'.availableEngines = self.availableEngines.apply engineName
          (effectOf settings engineName .modified (sleepStatus answers)
            (registration settings engineIp ready names modelLabel)) := by
      rw [hnone]
      rw [removeEngine_eq] at hremove
      cases hremove
      rfl
    cases engineIp with
    | none => exact hremoved rfl h
    | some ip =>
      cases isPodReady with
      | false => exact hremoved rfl h
      | true =>
        cases modelNames with
        | nil => exact hremoved rfl h
        | cons first rest => exact addEngine_engines settings h

theorem handleEvent_engines {pod : Pod}
    (h : self.handleEvent settings event pod answers = .ok self') :
    self'.availableEngines = self.availableEngines.apply pod.name
      (effectOf settings pod.name event (sleepStatus answers)
        (registrationIn settings event pod answers)) := by
  unfold handleEvent at h
  unfold registrationIn
  by_cases hdeleted : event = .deleted
  · subst hdeleted
    rw [if_pos rfl, removeEngine_eq] at h
    cases h
    rfl
  · rw [if_neg hdeleted] at h
    rw [if_neg hdeleted, onEngineUpdate_engines settings hdeleted h]
    -- A pod that is not ready is not asked for its models.
    cases checkPodReady pod.containerStatuses && !isPodTerminating pod with
    | false => cases pod.podIp <;> rfl
    | true => rfl

end K8sPodIPServiceDiscovery

namespace K8sServiceNameServiceDiscovery

variable (settings : Settings)

/-- Whether the service has an address; a failed lookup says nothing. -/
def isReady (answers : ServiceAnswers) : Bool :=
  match checkServiceReady answers with
  | .ok ready => ready
  | .error _ => false

/-- What an event says about an engine: a service with an address that reports
models. -/
def registrationIn (event : WatchType) (service : Service) (answers : ServiceAnswers) :
    Option Registration :=
  if event = .deleted then none
  else registration settings (some service.name) (isReady answers)
    (getModelNames answers.models) (getModelLabel service.selector)

def sleepStatus (answers : ServiceAnswers) : Bool :=
  match checkEngineSleepMode answers with
  | .ok true => getEngineSleepStatus answers.isSleeping
  | _ => false

theorem removeEngine_eq (engineName : String) (self : K8sServiceNameServiceDiscovery) :
    removeEngine engineName self = .ok ⟨self.availableEngines.erase engineName⟩ := by
  unfold removeEngine
  rw [deleteIfPresent_eq]
  rfl

variable {self self' : K8sServiceNameServiceDiscovery} {answers : ServiceAnswers}

theorem addEngine_engines
    (h : addEngine settings answers engineName modelNames modelLabel self = .ok self') :
    self'.availableEngines = self.availableEngines.set engineName
      (engineInfo settings engineName engineName modelNames modelLabel (sleepStatus answers)) := by
  unfold addEngine at h
  unfold sleepStatus
  cases hmode : checkEngineSleepMode answers with
  | error e =>
    rw [hmode] at h
    cases h
  | ok enabled =>
    rw [hmode] at h
    cases enabled <;>
    · cases h
      rfl

theorem onEngineUpdate_engines {isServiceReady : Bool} (hnamed : engineName ≠ "")
    (hevent : event ≠ .deleted)
    (h : onEngineUpdate settings answers engineName event isServiceReady modelNames modelLabel self = .ok self') :
    self'.availableEngines = self.availableEngines.apply engineName
      (effectOf settings engineName event (sleepStatus answers)
        (registration settings (some engineName) isServiceReady modelNames modelLabel)) := by
  cases event with
  | deleted => exact absurd rfl hevent
  | added =>
    simp only [onEngineUpdate, if_neg hnamed] at h
    cases isServiceReady with
    | false =>
      cases h
      rfl
    | true =>
      cases modelNames with
      | nil =>
        cases h
        rfl
      | cons first rest => exact addEngine_engines settings h
  | modified =>
    simp only [onEngineUpdate, if_neg hnamed, removeEngine_eq] at h
    cases isServiceReady with
    | false =>
      cases h
      rfl
    | true =>
      cases modelNames with
      | nil =>
        cases h
        rfl
      | cons first rest => exact addEngine_engines settings h

theorem handleEvent_engines {service : Service}
    (h : self.handleEvent settings event service answers = .ok self') :
    self'.availableEngines = self.availableEngines.apply service.name
      (effectOf settings service.name event (sleepStatus answers)
        (registrationIn settings event service answers)) := by
  unfold handleEvent at h
  unfold registrationIn isReady
  by_cases hdeleted : event = .deleted
  · subst hdeleted
    rw [if_pos rfl, removeEngine_eq] at h
    cases h
    rfl
  · rw [if_neg hdeleted] at h
    rw [if_neg hdeleted]
    cases hready : checkServiceReady answers with
    | error e =>
      rw [hready] at h
      cases h
    | ok ready =>
      rw [hready] at h
      rw [onEngineUpdate_engines settings service.named hdeleted h]
      cases ready <;> rfl

end K8sServiceNameServiceDiscovery

/-- The two discovery classes. -/
inductive K8sClass where
  | podIP
  | serviceName
  deriving DecidableEq

namespace K8sClass

abbrev Object : K8sClass → Type
  | .podIP => Pod
  | .serviceName => Service

abbrev Answers : K8sClass → Type
  | .podIP => PodAnswers
  | .serviceName => ServiceAnswers

abbrev State : K8sClass → Type
  | .podIP => K8sPodIPServiceDiscovery
  | .serviceName => K8sServiceNameServiceDiscovery

def initial : (cls : K8sClass) → cls.State
  | .podIP => ⟨.empty, ∅⟩
  | .serviceName => ⟨.empty⟩

def engines : (cls : K8sClass) → cls.State → Dict String EndpointInfo
  | .podIP, self => self.availableEngines
  | .serviceName, self => self.availableEngines

def nameOf : (cls : K8sClass) → cls.Object → String
  | .podIP, pod => pod.name
  | .serviceName, service => service.name

end K8sClass

/-- An event of a watch stream, with what the engine and the API server answer
while it is handled. -/
structure WatchEvent (cls : K8sClass) where
  type : WatchType
  object : cls.Object
  answers : cls.Answers

variable {cls : K8sClass}

namespace WatchEvent

def name {cls : K8sClass} (event : WatchEvent cls) : String := cls.nameOf event.object

/-- Handle one event. What it raises ends the stream. -/
def handle (settings : Settings) : {cls : K8sClass} → WatchEvent cls → cls.State →
    Except PyExc cls.State
  | .podIP, event, self => self.handleEvent settings event.type event.object event.answers
  | .serviceName, event, self => self.handleEvent settings event.type event.object event.answers

/-- The registration of an engine that is there, ready and reports models. -/
def registration (settings : Settings) : {cls : K8sClass} → WatchEvent cls → Option Registration
  | .podIP, event =>
    K8sPodIPServiceDiscovery.registrationIn settings event.type event.object event.answers
  | .serviceName, event =>
    K8sServiceNameServiceDiscovery.registrationIn settings event.type event.object event.answers

def sleepStatus : {cls : K8sClass} → WatchEvent cls → Bool
  | .podIP, event => K8sPodIPServiceDiscovery.sleepStatus event.answers
  | .serviceName, event => K8sServiceNameServiceDiscovery.sleepStatus event.answers

def effect (settings : Settings) {cls : K8sClass} (event : WatchEvent cls) : Effect EndpointInfo :=
  effectOf settings event.name event.type event.sleepStatus (event.registration settings)

variable {event : WatchEvent cls}

theorem handle_engines {self self' : cls.State} (h : event.handle settings self = .ok self') :
    cls.engines self' = (cls.engines self).apply event.name (event.effect settings) := by
  cases cls with
  | podIP => exact K8sPodIPServiceDiscovery.handleEvent_engines settings h
  | serviceName => exact K8sServiceNameServiceDiscovery.handleEvent_engines settings h

theorem registration_deleted (h : event.type = .deleted) : event.registration settings = none := by
  cases cls with
  | podIP => exact if_pos h
  | serviceName => exact if_pos h

/-- Only an `ADDED` event leaves an engine registered that it cannot register. -/
theorem effect_eq_keep_iff (event : WatchEvent cls) : event.effect settings = .keep ↔
    event.type = .added ∧ event.registration settings = none := by
  unfold effect effectOf
  cases event.registration settings with
  | some r => simp
  | none => cases event.type <;> simp [unregistered]

theorem effect_deleted (h : event.type = .deleted) : event.effect settings = .remove := by
  unfold effect effectOf
  rw [registration_deleted h, h]
  rfl

theorem registration_eq_asks (event : WatchEvent cls) :
    event.registration settings = (event.effect settings).asks registrationOf := by
  unfold effect effectOf
  cases event.registration settings with
  | some r => rfl
  | none => cases event.type <;> rfl

end WatchEvent

/-! Whole sequences of events. -/

/-- A sequence of events, handled one after the other. -/
def watchEngines (settings : Settings) {cls : K8sClass} (self : cls.State)
    (events : List (WatchEvent cls)) : Except PyExc cls.State :=
  events.foldlM (fun self event => event.handle settings self) self

variable {self self' : cls.State} {events : List (WatchEvent cls)}

theorem watchEngines_cons_ok {event : WatchEvent cls}
    (h : watchEngines settings self (event :: events) = .ok self') :
    ∃ next, event.handle settings self = .ok next ∧
      watchEngines settings next events = .ok self' := by
  cases hhandle : event.handle settings self with
  | error e =>
    simp only [watchEngines, List.foldlM_cons, hhandle] at h
    cases h
  | ok next =>
    simp only [watchEngines, List.foldlM_cons, hhandle] at h
    exact ⟨next, rfl, h⟩

theorem watchEngines_append_ok {before after : List (WatchEvent cls)}
    (h : watchEngines settings self (before ++ after) = .ok self') :
    ∃ next, watchEngines settings self before = .ok next ∧
      watchEngines settings next after = .ok self' := by
  induction before generalizing self with
  | nil => exact ⟨self, rfl, h⟩
  | cons event before ih =>
    obtain ⟨next, hhandle, hrest⟩ := watchEngines_cons_ok h
    obtain ⟨middle, hbefore, hafter⟩ := ih hrest
    refine ⟨middle, ?_, hafter⟩
    simp only [watchEngines, List.foldlM_cons, hhandle]
    exact hbefore

/-- The table of engines replays the effects of the events. -/
theorem watchEngines_engines (h : watchEngines settings self events = .ok self') :
    cls.engines self' =
      replay WatchEvent.name (WatchEvent.effect settings) (cls.engines self) events := by
  induction events generalizing self with
  | nil =>
    cases h
    rfl
  | cons event events ih =>
    obtain ⟨next, hhandle, hrest⟩ := watchEngines_cons_ok h
    rw [ih hrest, WatchEvent.handle_engines hhandle]
    rfl

/-- After a sequence of events, every engine is registered as its latest event
says if and only if no engine's latest event is an `ADDED` that cannot register
it although it was registered before. -/
theorem registered_as_latest_iff (settings : Settings) (cls : K8sClass)
    (events : List (WatchEvent cls)) (self : cls.State)
    (hrun : watchEngines settings cls.initial events = .ok self) :
    (∀ name, ((cls.engines self).get? name).map registrationOf =
      (latest WatchEvent.name name events).bind (WatchEvent.registration settings)) ↔
    ∀ before event after, events = before ++ event :: after →
      (∀ later ∈ after, later.name ≠ event.name) →
      event.type = .added → event.registration settings = none →
      ∀ earlier, watchEngines settings cls.initial before = .ok earlier →
        event.name ∉ cls.engines earlier := by
  have hempty : cls.engines cls.initial = .empty := by cases cls <;> rfl
  have hengines := watchEngines_engines hrun
  rw [hempty] at hengines
  rw [hengines, replay_shows_latest_iff WatchEvent.registration_eq_asks]
  constructor
  · intro hlags before event after hsplit hafter hadded hnone earlier hearlier
    rw [watchEngines_engines hearlier, hempty]
    exact hlags before event after hsplit hafter
      ((WatchEvent.effect_eq_keep_iff event).mpr ⟨hadded, hnone⟩)
  · intro hlags before event after hsplit hafter hkeep
    obtain ⟨hadded, hnone⟩ := (WatchEvent.effect_eq_keep_iff event).mp hkeep
    obtain ⟨earlier, hearlier, -⟩ := watchEngines_append_ok (hsplit ▸ hrun)
    rw [← hempty, ← watchEngines_engines hearlier]
    exact hlags before event after hsplit hafter hadded hnone earlier hearlier

/-- An event about the pod `a`, which serves the model `m` when it is ready. -/
def podEvent (type : WatchType) (ready : Bool) : WatchEvent .podIP where
  type := type
  object := ⟨"a", some "10.0.0.1", [ready], none, [("model", "l")]⟩
  answers := { models := .ok ["m"], isSleeping := .ok false, containers := .ok [] }

def portSettings : Settings := ⟨"8000", fun name => name⟩

theorem registered_as_latest_modified : ∃ self,
    watchEngines portSettings (K8sClass.podIP.initial)
      [podEvent .added true, podEvent .modified false] = .ok self ∧
    ∀ name, ((K8sClass.podIP.engines self).get? name).map registrationOf =
      (latest WatchEvent.name name [podEvent .added true, podEvent .modified false]).bind
        (WatchEvent.registration portSettings) := by
  refine ⟨_, rfl, ?_⟩
  apply (registered_as_latest_iff portSettings .podIP
    [podEvent .added true, podEvent .modified false] _ rfl).mpr
  intro before event after hsplit _ hadded hnone
  have member : event ∈ [podEvent .added true, podEvent .modified false] := by simp [hsplit]
  rcases List.mem_pair.mp member with rfl | rfl
  · cases hnone
  · cases hadded

/-- The pod is listed again while it is not ready: it stays registered. -/
theorem relisted_unready_pod_stays : ∃ self,
    watchEngines portSettings (K8sClass.podIP.initial)
      [podEvent .added true, podEvent .added false] = .ok self ∧
    ((K8sClass.podIP.engines self).get? "a").map registrationOf =
      some ⟨"http://10.0.0.1:8000", ["m"], some "l"⟩ ∧
    (latest WatchEvent.name "a" [podEvent .added true, podEvent .added false]).bind
      (WatchEvent.registration portSettings) = none :=
  ⟨_, rfl, rfl, rfl⟩

end ProductionStack.Discovery

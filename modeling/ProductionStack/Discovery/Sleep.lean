import Mathlib.Logic.Function.Basic
import ProductionStack.Discovery.Memory

/-!
Putting engines to sleep. A `/sleep` request goes to the engine and then labels
its Kubernetes object; the label change makes the watcher ask the engine whether
it sleeps and register it anew. The request, the label and the watch event are
steps of their own here, and any number of requests may be under way.
-/

namespace ProductionStack.Discovery

open Lib Python Request

/-! The discovery classes. -/

inductive DiscoveryKind where
  | externalOnly
  | static
  | k8s (cls : K8sClass)

/-- A registered engine, with the `pod_name` of its `EndpointInfo`. -/
structure Target where
  engine : String
  info : EndpointInfo
  podName : Option String

namespace DiscoveryKind

abbrev State : DiscoveryKind → Type
  | externalOnly => Unit
  | static => StaticServiceDiscovery
  | k8s cls => cls.State

/-- What changes the engines: a round of health checks, or a watch event. -/
abbrev Update : DiscoveryKind → Type
  | externalOnly => Empty
  | static => String → String → String → Bool
  | k8s cls => WatchEvent cls

def handle (settings : Settings) : (kind : DiscoveryKind) → kind.Update → kind.State →
    Except PyExc kind.State
  | externalOnly, _, self => .ok self
  | static, isModelHealthy, self => .ok (self.checkModelHealth isModelHealthy)
  | k8s _, event, self => event.handle settings self

/-- The engine a watch event is about. -/
def named : (kind : DiscoveryKind) → kind.Update → Option String
  | externalOnly, _ => none
  | static, _ => none
  | k8s _, event => some event.name

/-- Only discovery by pod IP fills in `pod_name`. -/
def podNameOf (cls : K8sClass) (engineName : String) : Option String :=
  if cls = .podIP then some engineName else none

/-- `get_endpoint_info()`. -/
def targets : (kind : DiscoveryKind) → kind.State → List Target
  | externalOnly, _ => []
  | static, self => self.getEndpointInfo.map fun info => ⟨info.url, info, none⟩
  | k8s cls, self => (cls.engines self).entries.map fun (name, info) =>
    ⟨name, info, podNameOf cls name⟩

end DiscoveryKind

/-! The labels of pods and services. -/

/-- The labels of every object. An object may have none at all. -/
abbrev Labels := String → Option (List (String × String))

/-- What reading and patching an object raise. -/
structure ApiAnswers where
  read : Except PyExc Unit
  patch : Except PyExc Unit

/-- `except client.rest.ApiException` around a change of labels. -/
def swallowApiException (labels : Labels) : Except PyExc Labels → Except PyExc Labels
  | .ok changed => .ok changed
  | .error e => if e.isInstance [.apiException] then .ok labels else .error e

/-- The client checks its required parameters before it sends anything. -/
def missingName : PyExc :=
  .new (.derived "ApiValueError" .valueError) "Missing the required parameter name"

def requireName : Option String → Except PyExc String
  | some name => .ok name
  | none => .error missingName

/-- Of the classes that have the method; `AttributeError` otherwise. -/
def addSleepLabel (kind : DiscoveryKind) (podName : Option String) (api : ApiAnswers)
    (labels : Labels) : Except PyExc Labels :=
  match kind with
  | .k8s .podIP => swallowApiException labels do
      let name ← requireName podName
      api.read
      match labels name with
      | none => .error (.new .attributeError "'NoneType' object has no attribute 'update'")
      | some present => do
          api.patch
          .ok (Function.update labels name (some (upsert "sleeping" "true" present)))
  | .k8s .serviceName => swallowApiException labels do
      let name ← requireName podName
      api.patch
      .ok (Function.update labels name (some (upsert "sleeping" "true" ((labels name).getD []))))
  | _ => .error (.new .attributeError "add_sleep_label")

/-- The two classes do the same, one with pods and one with services. -/
def removeSleepLabel (kind : DiscoveryKind) (podName : Option String) (api : ApiAnswers)
    (labels : Labels) : Except PyExc Labels :=
  match kind with
  | .k8s _ => swallowApiException labels do
      let name ← requireName podName
      api.read
      match labels name with
      | none => .error (.new .typeError "argument of type 'NoneType' is not iterable")
      | some present =>
        if (present.map Prod.fst).contains "sleeping" then do
          api.patch
          .ok (Function.update labels name (some (present.filter (·.1 ≠ "sleeping"))))
        else .ok labels
  | _ => .error (.new .attributeError "remove_sleep_label")

/-! The request. -/

inductive Operation where
  | sleep
  | wakeUp
  deriving DecidableEq

inductive SleepEndpoint where
  | operation (operation : Operation)
  | isSleeping

structure SleepRequest where
  endpoint : SleepEndpoint
  queryParams : List (String × String)
  body : Bytes

structure SleepReply where
  status : Nat
  content : Json

/-- What the engine answers, to a `POST` or to `GET /is_sleeping`. -/
structure EngineReply where
  status : Nat
  json : Except PyExc Json

/-- The last value of a parameter counts. -/
def queryParam (params : List (String × String)) (key : String) : Option String :=
  params.reverse.lookup key

def errorContent (message : String) : Json := .obj [("error", .str message)]

def findTarget (request : SleepRequest) (targets : List Target) : Except SleepReply Target :=
  match queryParam request.queryParams "id" with
  | none => .error ⟨400, errorContent "Invalid request: missing target Engine Id."⟩
  | some id =>
    match targets.find? (·.info.id = id) with
    | none => .error ⟨400, errorContent ("Engine with Id " ++ id ++ " not found.")⟩
    | some target => .ok target

/-- The body of a `POST` is read as JSON, and what the engine answers passes
`raise_for_status`. -/
def callEngine (limit : Nat) (request : SleepRequest) (answer : Except PyExc EngineReply) :
    Except PyExc { reply : EngineReply // reply.status < 400 } := do
  match request.endpoint with
  | .isSleeping => pure ()
  | .operation _ =>
    if request.body.isEmpty then pure () else discard (jsonLoads limit request.body)
  let reply ← answer
  if h : reply.status < 400 then .ok ⟨reply, h⟩
  else .error (.new .clientResponseError "")

/-- An operation that the engine has carried out, and whose label is still to be
changed. -/
structure SucceededCall where
  operation : Operation
  target : Target
  status : Nat
  succeeded : status < 400

def changeLabel (kind : DiscoveryKind) (call : SucceededCall) (api : ApiAnswers)
    (labels : Labels) : Except PyExc Labels :=
  match call.operation with
  | .sleep => addSleepLabel kind call.target.podName api labels
  | .wakeUp => removeSleepLabel kind call.target.podName api labels

def successContent : Json := .obj [("status", .str "success")]

/-- The reply to a call that succeeded. -/
def replyTo (kind : DiscoveryKind) (call : SucceededCall) (api : ApiAnswers) (labels : Labels) :
    Except PyExc SleepReply := do
  let _ ← changeLabel kind call api labels
  .ok ⟨call.status, successContent⟩

/-- `route_sleep_wakeup_request`, when nothing else happens in the meantime: the
reply and the labels after it. -/
def routeSleepWakeupRequest (limit : Nat) (kind : DiscoveryKind) (self : kind.State)
    (request : SleepRequest) (answer : Except PyExc EngineReply) (api : ApiAnswers)
    (labels : Labels) : Except PyExc SleepReply × Labels :=
  match findTarget request (kind.targets self) with
  | .error reply => (.ok reply, labels)
  | .ok target =>
    match callEngine limit request answer with
    | .error e => (.error e, labels)
    | .ok reply =>
      match request.endpoint with
      | .isSleeping => (reply.val.json.map fun json => ⟨200, json⟩, labels)
      | .operation operation =>
        let call := ⟨operation, target, reply.val.status, reply.property⟩
        (replyTo kind call api labels,
          (changeLabel kind call api labels).toOption.getD labels)

/-! Requests, labels and watch events. -/

/-- How far the label change of the latest successful operation on an engine has got. -/
inductive Phase where
  | untouched
  /-- the operation succeeded, and no label was changed since -/
  | called
  /-- the label was changed -/
  | changed
  /-- an event of the engine came in after that and is being handled -/
  | received
  /-- that event has been handled -/
  | observed
  deriving DecidableEq

/-- `lastOperation` and `phase` only keep a record. `handling` is the update at work,
with the answers it was given, and `calls` are the requests under way. -/
structure World (kind : DiscoveryKind) where
  discovery : kind.State
  handling : Option kind.Update
  calls : List SucceededCall
  labels : Labels
  lastOperation : String → Option Operation
  phase : String → Phase

inductive WorldStep (kind : DiscoveryKind) where
  /-- a request, up to the answer of the engine -/
  | request (limit : Nat) (request : SleepRequest) (answer : Except PyExc EngineReply)
  /-- the label and the reply of one of the requests under way -/
  | reply (call : Nat) (api : ApiAnswers)
  | receive (update : kind.Update)
  | register

/-- The operation that a request has carried out, if any. -/
def operationOf (limit : Nat) (kind : DiscoveryKind) (self : kind.State) (request : SleepRequest)
    (answer : Except PyExc EngineReply) : Option SucceededCall :=
  match request.endpoint, findTarget request (kind.targets self),
    callEngine limit request answer with
  | .operation operation, .ok target, .ok reply =>
    some ⟨operation, target, reply.val.status, reply.property⟩
  | _, _, _ => none

variable {kind : DiscoveryKind} {settings : Settings} {cls : K8sClass} {engine : String}
  {call : SucceededCall}

namespace World

variable (settings : Settings)

def start (self : kind.State) (labels : Labels) : World kind where
  discovery := self
  handling := none
  calls := []
  labels := labels
  lastOperation _ := none
  phase _ := .untouched

def succeed (call : SucceededCall) (w : World kind) : World kind :=
  { w with
    calls := w.calls ++ [call]
    lastOperation := Function.update w.lastOperation call.target.engine (some call.operation)
    phase := Function.update w.phase call.target.engine .called }

/-- What it raises leaves the labels as they were. -/
def relabel (call : SucceededCall) (api : ApiAnswers) (w : World kind) : World kind :=
  match changeLabel kind call api w.labels with
  | .error _ => w
  | .ok labels =>
    { w with
      labels := labels
      phase :=
        if call.target.podName.any fun name => labels name ≠ w.labels name then
          Function.update w.phase call.target.engine .changed
        else w.phase }

def receive (update : kind.Update) (w : World kind) : World kind :=
  { w with
    handling := some update
    phase := fun engine =>
      if kind.named update = some engine ∧ w.phase engine = .changed then .received
      else w.phase engine }

/-- A handler that raises leaves the engines as they were; they are listed again when
the stream is opened again. -/
def register (update : kind.Update) (w : World kind) : World kind :=
  match kind.handle settings update w.discovery with
  | .error _ =>
    { w with
      handling := none
      phase := fun engine => if w.phase engine = .received then .changed else w.phase engine }
  | .ok next =>
    { w with
      discovery := next
      handling := none
      phase := fun engine => if w.phase engine = .received then .observed else w.phase engine }

def step (w : World kind) : WorldStep kind → World kind
  | .request limit request answer =>
    match operationOf limit kind w.discovery request answer with
    | some call => w.succeed call
    | none => w
  | .reply i api =>
    match w.calls[i]? with
    | some call => { w.relabel call api with calls := w.calls.eraseIdx i }
    | none => w
  | .receive update => if w.handling.isNone then w.receive update else w
  | .register =>
    match w.handling with
    | some update => w.register settings update
    | none => w

def run (w : World kind) (steps : List (WorldStep kind)) : World kind :=
  steps.foldl (step settings) w

/-- An engine that is a routing candidate was not put to sleep last. -/
def Respected (w : World kind) : Prop :=
  ∀ target ∈ kind.targets w.discovery, target.info.sleep = false →
    w.phase target.engine = .observed → w.lastOperation target.engine ≠ some .sleep

end World

/-- The route in terms of the operation it carries out. -/
theorem route_labels (limit : Nat) (kind : DiscoveryKind) (self : kind.State)
    (request : SleepRequest) (answer : Except PyExc EngineReply) (api : ApiAnswers)
    (labels : Labels) : (routeSleepWakeupRequest limit kind self request answer api labels).2 =
      match operationOf limit kind self request answer with
      | some call => (changeLabel kind call api labels).toOption.getD labels
      | none => labels := by
  unfold routeSleepWakeupRequest operationOf
  cases findTarget request (kind.targets self) with
  | error reply => cases request.endpoint <;> rfl
  | ok target =>
    cases callEngine limit request answer with
    | error e | ok reply => cases request.endpoint <;> rfl

namespace World

theorem relabel_labels (call : SucceededCall) (api : ApiAnswers) (w : World kind) :
    (w.relabel call api).labels = (changeLabel kind call api w.labels).toOption.getD w.labels := by
  unfold relabel
  cases changeLabel kind call api w.labels <;> rfl

/-- A request on its own is its two steps one after the other. -/
theorem request_reply_labels {w : World kind} (hcalls : w.calls = []) (limit : Nat)
    (request : SleepRequest) (answer : Except PyExc EngineReply) (api : ApiAnswers) :
    ((w.step settings (.request limit request answer)).step settings (.reply 0 api)).labels =
      (routeSleepWakeupRequest limit kind w.discovery request answer api w.labels).2 := by
  rw [route_labels]
  cases hcall : operationOf limit kind w.discovery request answer with
  | none => simp [step, hcall, hcalls]
  | some call => simp [step, hcall, hcalls, succeed, relabel_labels]

end World

/-! What an update does to the registered engines. -/

namespace DiscoveryKind

/-- The engine is registered, and not as sleeping. -/
def Awake (kind : DiscoveryKind) (self : kind.State) (engine : String) : Prop :=
  ∃ target ∈ kind.targets self, target.engine = engine ∧ target.info.sleep = false

/-- The event does not leave its engine registered as awake: the engine is found to
run with sleep mode and says that it sleeps, or it is removed. -/
def ReportsSleep (settings : Settings) : (kind : DiscoveryKind) → kind.Update → kind.State → Prop
  | externalOnly, _, _ => True
  | static, _, _ => True
  | k8s cls, event, self =>
    match event.effect settings with
    | .set info => info.sleep = true
    | .remove => True
    | .keep => ¬ (k8s cls).Awake self event.name

variable {self : cls.State} {event : WatchEvent cls} {next : cls.State}

theorem awake_k8s_iff : (k8s cls).Awake self engine ↔
      ∃ info, (cls.engines self).get? engine = some info ∧ info.sleep = false := by
  constructor
  · rintro ⟨target, htarget, rfl, hsleep⟩
    obtain ⟨⟨name, info⟩, hentry, rfl⟩ := List.mem_map.mp htarget
    exact ⟨info, (cls.engines self).get?_of_mem_entries hentry, hsleep⟩
  · rintro ⟨info, hget, hsleep⟩
    have hentry := mem_of_lookup hget
    exact ⟨_, List.mem_map_of_mem hentry, rfl, hsleep⟩

theorem not_awake_of_reportsSleep (hhandle : (k8s cls).handle settings event self = .ok next)
    (hreports : (k8s cls).ReportsSleep settings event self) :
    ¬ (k8s cls).Awake next event.name := by
  intro hawake
  obtain ⟨info, hget, hsleep⟩ := awake_k8s_iff.mp hawake
  rw [WatchEvent.handle_engines hhandle, Dict.get?_apply, if_pos rfl] at hget
  dsimp only [ReportsSleep] at hreports
  cases heffect : event.effect settings with
  | set value =>
    rw [heffect] at hget hreports
    obtain rfl : value = info := Option.some.inj hget
    rw [hreports] at hsleep
    cases hsleep
  | remove =>
    rw [heffect] at hget
    cases hget
  | keep =>
    rw [heffect] at hget hreports
    exact hreports (awake_k8s_iff.mpr ⟨info, hget, hsleep⟩)

theorem awake_of_other (hhandle : (k8s cls).handle settings event self = .ok next)
    (hother : engine ≠ event.name) (hawake : (k8s cls).Awake next engine) :
    (k8s cls).Awake self engine := by
  obtain ⟨info, hget, hsleep⟩ := awake_k8s_iff.mp hawake
  rw [WatchEvent.handle_engines hhandle, Dict.get?_apply, if_neg hother] at hget
  exact awake_k8s_iff.mpr ⟨info, hget, hsleep⟩

end DiscoveryKind

/-! The reply. -/

/-- Raises nothing, or something that is swallowed. -/
def Tolerated : Except PyExc Unit → Prop
  | .ok () => True
  | .error e => e.isInstance [.apiException]

/-- The label of a pod can be set: the pod has labels, and the API server lets it be
read and patched or raises an `ApiException`. -/
def Labelable (kind : DiscoveryKind) (target : Target) (api : ApiAnswers) (labels : Labels) :
    Prop :=
  match kind with
  | .k8s .podIP => Tolerated api.read ∧
      (api.read = .ok () → (labels target.engine).isSome ∧ Tolerated api.patch)
  | _ => False

/-- A target as its class builds it. -/
def Target.Built (kind : DiscoveryKind) (target : Target) : Prop :=
  target.podName = match kind with
    | .k8s cls => DiscoveryKind.podNameOf cls target.engine
    | _ => none

variable {labels : Labels} {target : Target} {api : ApiAnswers}

theorem built_of_mem_targets {self : kind.State} (h : target ∈ kind.targets self) :
    target.Built kind := by
  cases kind with
  | externalOnly => cases h
  | static =>
    obtain ⟨info, -, rfl⟩ := List.mem_map.mp h
    rfl
  | k8s cls =>
    obtain ⟨⟨name, info⟩, -, rfl⟩ := List.mem_map.mp h
    rfl

theorem swallowApiException_iff {r : Except PyExc Labels} :
    (∃ labels', swallowApiException labels r = .ok labels') ↔
      ∀ e, r = .error e → e.isInstance [.apiException] := by
  cases r with
  | ok changed => simp [swallowApiException]
  | error e =>
    dsimp only [swallowApiException]
    split
    · next hapi => simp [hapi]
    · next hapi => simp [hapi]

/-- Exactly when setting the label raises nothing. -/
theorem addSleepLabel_iff (hbuilt : target.Built kind) :
    (∃ labels', addSleepLabel kind target.podName api labels = .ok labels') ↔
      Labelable kind target api labels := by
  rw [hbuilt]
  cases kind with
  | externalOnly | static => simp [addSleepLabel, Labelable]
  | k8s cls =>
    cases cls with
    | serviceName =>
      -- the class has the method, but `pod_name` is `None`
      have hmissing : missingName.isInstance [.apiException] = false := by decide
      dsimp only [addSleepLabel, Labelable, DiscoveryKind.podNameOf]
      rw [swallowApiException_iff]
      refine ⟨?_, False.elim⟩
      intro h
      rw [h missingName rfl] at hmissing
      cases hmissing
    | podIP =>
      dsimp only [addSleepLabel, Labelable, DiscoveryKind.podNameOf]
      rw [swallowApiException_iff]
      cases hread : api.read with
      | error e => simp [requireName, Tolerated, bind, Except.bind]
      | ok _ =>
        cases hlabels : labels target.engine with
        | none =>
          have hattribute : (PyExc.new .attributeError
              "'NoneType' object has no attribute 'update'").isInstance
                [.apiException] = false := by decide
          simp [requireName, Tolerated, bind, Except.bind, hlabels, hattribute]
        | some present =>
          cases hpatch : api.patch with
          | error e | ok _ => simp [requireName, Tolerated, bind, Except.bind, hlabels]

/-- A sleep request is answered with success if and only if the label can be set. -/
theorem replyTo_sleep_iff (hsleep : call.operation = .sleep) (hbuilt : call.target.Built kind) :
    (∃ reply, replyTo kind call api labels = .ok reply ∧ reply.status < 400) ↔
      Labelable kind call.target api labels := by
  rw [← addSleepLabel_iff hbuilt]
  unfold replyTo changeLabel
  rw [hsleep]
  cases addSleepLabel kind call.target.podName api labels with
  | error e => simp [bind, Except.bind]
  | ok labels' => simp [bind, Except.bind, call.succeeded]

/-! Whole runs. -/

namespace World

variable (settings : Settings)

/-- The condition on a step: a sleeping engine is reported as such, and the label of an
engine that was put to sleep can be set. -/
def Allows (w : World kind) : WorldStep kind → Prop
  | .request _ _ _ => True
  | .reply i api => ∀ call ∈ w.calls[i]?, call.operation = .sleep →
      Labelable kind call.target api w.labels
  | .receive update => ∀ engine, kind.named update = some engine →
      w.lastOperation engine = some .sleep → kind.ReportsSleep settings update w.discovery
  | .register => True

def AllowsAll : World kind → List (WorldStep kind) → Prop
  | _, [] => True
  | w, next :: rest => w.Allows settings next ∧ AllowsAll (w.step settings next) rest

/-- The update at work is about the engine, and began when its label had been changed. -/
def Reporting (w : World kind) (engine : String) : Prop :=
  ∀ update, w.handling = some update → kind.named update = some engine →
    kind.ReportsSleep settings update w.discovery

/-- What holds of an engine that was put to sleep last. -/
structure Quiet (w : World kind) (engine : String) : Prop where
  received : w.phase engine = .received →
    (∃ update, w.handling = some update ∧ kind.named update = some engine) ∧
      w.Reporting settings engine
  observed : w.phase engine = .observed →
    (∃ cls, kind = .k8s cls) ∧ ¬ kind.Awake w.discovery engine ∧ w.Reporting settings engine

structure Sound (w : World kind) : Prop where
  quiet : ∀ engine, w.lastOperation engine = some .sleep → w.Quiet settings engine
  built : ∀ call ∈ w.calls, call.target.Built kind

variable {settings}

variable {w : World kind}

/-- Nothing is claimed of an engine whose label change is not on its way to the watcher. -/
theorem quiet_of_phase (hreceived : w.phase engine ≠ .received)
    (hobserved : w.phase engine ≠ .observed) : w.Quiet settings engine :=
  ⟨fun h => absurd h hreceived, fun h => absurd h hobserved⟩

/-- What is claimed of an engine depends on its phase and the watcher only. -/
theorem Quiet.congr {w' : World kind} (h : w.Quiet settings engine)
    (hphase : w'.phase engine = w.phase engine) (hhandling : w'.handling = w.handling)
    (hdiscovery : w'.discovery = w.discovery) : w'.Quiet settings engine := by
  obtain ⟨discovery, handling, calls, labels, lastOperation, phase⟩ := w
  obtain ⟨discovery', handling', calls', labels', lastOperation', phase'⟩ := w'
  cases hhandling
  cases hdiscovery
  refine ⟨?_, ?_⟩
  · intro hreceived
    exact h.received (hphase ▸ hreceived)
  · intro hobserved
    exact h.observed (hphase ▸ hobserved)

variable {update : kind.Update}

theorem Sound.succeed (h : w.Sound settings) (hbuilt : call.target.Built kind) :
    (w.succeed call).Sound settings := by
  refine ⟨?_, ?_⟩
  · intro engine hlast
    by_cases hengine : engine = call.target.engine
    · subst hengine
      apply quiet_of_phase <;> simp [World.succeed]
    · have hphase : (w.succeed call).phase engine = w.phase engine :=
        Function.update_of_ne hengine _ _
      have hlast : w.lastOperation engine = some .sleep := by
        rw [← hlast]
        exact (Function.update_of_ne hengine _ _).symm
      exact (h.quiet engine hlast).congr hphase rfl rfl
  · intro other hother
    rcases List.mem_append.mp hother with hother | hother
    · exact h.built other hother
    · rw [List.mem_singleton.mp hother]
      exact hbuilt

/-- A reply changes labels, and phases to `changed`. -/
theorem relabel_frame (call : SucceededCall) (api : ApiAnswers) (w : World kind) :
    (w.relabel call api).discovery = w.discovery ∧ (w.relabel call api).handling = w.handling ∧
    (w.relabel call api).lastOperation = w.lastOperation ∧
    ∀ engine, (w.relabel call api).phase engine = w.phase engine ∨
      (w.relabel call api).phase engine = .changed := by
  unfold relabel
  cases changeLabel kind call api w.labels with
  | error e => exact ⟨rfl, rfl, rfl, fun _ => Or.inl rfl⟩
  | ok labels =>
    refine ⟨rfl, rfl, rfl, ?_⟩
    intro engine
    dsimp only
    split
    · by_cases hengine : engine = call.target.engine
      · subst hengine
        exact Or.inr (Function.update_self _ _ _)
      · exact Or.inl (Function.update_of_ne hengine _ _)
    · exact Or.inl rfl

theorem Sound.reply (h : w.Sound settings) (call : SucceededCall) (api : ApiAnswers) (i : Nat) :
    ({ w.relabel call api with calls := w.calls.eraseIdx i } : World kind).Sound settings := by
  obtain ⟨hdiscovery, hhandling, hlast, hphase⟩ := relabel_frame call api w
  refine ⟨?_, ?_⟩
  · intro engine hsleep
    rw [hlast] at hsleep
    rcases hphase engine with hkept | hchanged
    · exact (h.quiet engine hsleep).congr hkept hhandling hdiscovery
    · apply quiet_of_phase
      · simp [hchanged]
      · simp [hchanged]
  · intro other hother
    exact h.built other (List.mem_of_mem_eraseIdx hother)

theorem Sound.receive (h : w.Sound settings) (hidle : w.handling = none)
    (hallows : w.Allows settings (.receive update)) : (w.receive update).Sound settings := by
  refine ⟨?_, h.built⟩
  intro engine hsleep
  have hquiet := h.quiet engine hsleep
  have hreporting : (w.receive update).Reporting settings engine := by
    intro update' hupdate' hnamed
    cases hupdate'
    exact hallows engine hnamed hsleep
  refine ⟨?_, ?_⟩
  · intro hreceived
    refine ⟨⟨update, rfl, ?_⟩, hreporting⟩
    dsimp only [World.receive] at hreceived
    split at hreceived
    · next hchanged => exact hchanged.1
    · obtain ⟨⟨other, hother, -⟩, -⟩ := hquiet.received hreceived
      rw [hidle] at hother
      cases hother
  · intro hobserved
    dsimp only [World.receive] at hobserved
    split at hobserved
    · cases hobserved
    · obtain ⟨hcls, hawake, -⟩ := hquiet.observed hobserved
      exact ⟨hcls, hawake, hreporting⟩

/-- A handled update leaves a sleeping engine that it reports, or that it is not about,
as it should be. -/
theorem not_awake_handle {update : WatchEvent cls} {self next : cls.State}
    (hhandle : (DiscoveryKind.k8s cls).handle settings update self = .ok next)
    (hreports : (DiscoveryKind.k8s cls).named update = some engine →
      (DiscoveryKind.k8s cls).ReportsSleep settings update self)
    (hbefore : (DiscoveryKind.k8s cls).named update ≠ some engine →
      ¬ (DiscoveryKind.k8s cls).Awake self engine) :
    ¬ (DiscoveryKind.k8s cls).Awake next engine := by
  by_cases hnamed : update.name = engine
  · subst hnamed
    exact DiscoveryKind.not_awake_of_reportsSleep hhandle (hreports rfl)
  · intro hawake
    have hother : (DiscoveryKind.k8s cls).named update ≠ some engine :=
      fun hsome => hnamed (Option.some.inj hsome)
    exact hbefore hother (DiscoveryKind.awake_of_other hhandle (Ne.symm hnamed) hawake)

theorem Sound.register (h : w.Sound settings) (hupdate : w.handling = some update) :
    (w.register settings update).Sound settings := by
  unfold World.register
  cases hhandle : kind.handle settings update w.discovery with
  | error e =>
    refine ⟨?_, h.built⟩
    intro engine hsleep
    refine ⟨?_, ?_⟩
    · intro hreceived
      dsimp only at hreceived
      split at hreceived
      · cases hreceived
      · next hphase => exact absurd hreceived hphase
    · intro hobserved
      dsimp only at hobserved
      split at hobserved
      · cases hobserved
      · obtain ⟨hcls, hawake, -⟩ := (h.quiet engine hsleep).observed hobserved
        refine ⟨hcls, hawake, ?_⟩
        intro update' hupdate'
        cases hupdate'
  | ok next =>
    refine ⟨?_, h.built⟩
    intro engine hsleep
    have hquiet := h.quiet engine hsleep
    refine ⟨?_, ?_⟩
    · intro hreceived
      dsimp only at hreceived
      split at hreceived
      · cases hreceived
      · next hphase => exact absurd hreceived hphase
    · intro hobserved
      have hcls : ∃ cls, kind = .k8s cls := by
        dsimp only at hobserved
        split at hobserved
        · next hreceived =>
            obtain ⟨⟨other, -, hnamed⟩, -⟩ := hquiet.received hreceived
            cases kind with
            | externalOnly => cases hnamed
            | static => cases hnamed
            | k8s cls => exact ⟨cls, rfl⟩
        · exact (hquiet.observed hobserved).1
      obtain ⟨cls, rfl⟩ := hcls
      refine ⟨⟨cls, rfl⟩, ?_, ?_⟩
      · dsimp only at hobserved
        split at hobserved
        · next hreceived =>
            obtain ⟨⟨other, hother, hnamed⟩, hreporting⟩ := hquiet.received hreceived
            rw [hupdate] at hother
            cases hother
            exact not_awake_handle hhandle (hreporting update hupdate)
              fun hnot => absurd hnamed hnot
        · obtain ⟨-, hawake, hreporting⟩ := hquiet.observed hobserved
          exact not_awake_handle hhandle (hreporting update hupdate) fun _ => hawake
      · intro update' hupdate'
        cases hupdate'

theorem target_of_operationOf {limit : Nat} {self : kind.State} {request : SleepRequest}
    {answer : Except PyExc EngineReply} (h : operationOf limit kind self request answer = some call) :
    call.target ∈ kind.targets self := by
  unfold operationOf at h
  split at h
  · next htarget _ =>
      cases h
      unfold findTarget at htarget
      split at htarget
      · cases htarget
      · split at htarget
        · cases htarget
        · next hfind =>
            cases htarget
            exact List.mem_of_find?_eq_some hfind
  · cases h

theorem Sound.step (h : w.Sound settings) {next : WorldStep kind}
    (hallows : w.Allows settings next) : (w.step settings next).Sound settings := by
  cases next with
  | request limit request answer =>
    dsimp only [World.step]
    split
    · next hcall => exact h.succeed (built_of_mem_targets (target_of_operationOf hcall))
    · exact h
  | reply i api =>
    dsimp only [World.step]
    split
    · next call _ => exact h.reply call api i
    · exact h
  | receive update =>
    dsimp only [World.step]
    split
    · next hidle => exact h.receive (Option.isNone_iff_eq_none.mp hidle) hallows
    · exact h
  | register =>
    dsimp only [World.step]
    split
    · next hupdate => exact h.register hupdate
    · exact h

theorem sound_start (self : kind.State) (labels : Labels) : (start self labels).Sound settings where
  quiet engine hsleep := by cases hsleep
  built call hcall := by cases hcall

theorem Sound.run (h : w.Sound settings) {steps : List (WorldStep kind)}
    (hallows : w.AllowsAll settings steps) : (w.run settings steps).Sound settings := by
  induction steps generalizing w with
  | nil => exact h
  | cons next rest ih => exact ih (h.step hallows.1) hallows.2

theorem Sound.respected (h : w.Sound settings) : w.Respected := by
  intro target htarget hawake hobserved hsleep
  obtain ⟨-, hnot, -⟩ := (h.quiet target.engine hsleep).observed hobserved
  exact hnot ⟨target, htarget, rfl, hawake⟩

theorem AllowsAll.of_append {before after : List (WorldStep kind)}
    (h : w.AllowsAll settings (before ++ after)) :
    w.AllowsAll settings before ∧ (w.run settings before).AllowsAll settings after := by
  induction before generalizing w with
  | nil => exact ⟨trivial, h⟩
  | cons next rest ih =>
    obtain ⟨hrest, hafter⟩ := ih h.2
    exact ⟨⟨h.1, hrest⟩, hafter⟩

/-- In a run whose steps all meet the condition sleep is respected in every state, and
every sleep request that reached its engine is answered with success. -/
theorem sleep_respected {self : kind.State} {labels : Labels} {steps : List (WorldStep kind)}
    (hallows : (start self labels).AllowsAll settings steps) :
    (∀ before after, steps = before ++ after →
      ((start self labels).run settings before).Respected) ∧
    ∀ before i api after, steps = before ++ .reply i api :: after →
      ∀ call ∈ ((start self labels).run settings before).calls[i]?, call.operation = .sleep →
        ∃ reply, replyTo kind call api ((start self labels).run settings before).labels =
          .ok reply ∧ reply.status < 400 := by
  refine ⟨?_, ?_⟩
  · intro before after hsplit
    subst hsplit
    exact ((sound_start self labels).run hallows.of_append.1).respected
  · intro before i api after hsplit call hcall hsleep
    subst hsplit
    obtain ⟨hbefore, hreply, -⟩ := hallows.of_append
    have hbuilt : call.target.Built kind :=
      ((sound_start self labels).run hbefore).built call (List.mem_of_getElem? hcall)
    exact (replyTo_sleep_iff hsleep hbuilt).mpr (hreply call hcall hsleep)

/-- `POST /sleep?id=a`. -/
def sleepA : SleepRequest := ⟨.operation .sleep, [("id", "a")], []⟩

/-- A pod comes up, is put to sleep and labelled, and the watcher sees it with the
given containers. -/
def sleepingPod (containers : List Container) : List (WorldStep (.k8s .podIP)) :=
  let pod : Pod := ⟨"a", some "10.0.0.1", [true], none, []⟩
  [.receive ⟨.added, pod, ⟨⟨.ok ["m"], .ok false⟩, .ok containers⟩⟩, .register,
    .request 100 sleepA (.ok ⟨200, .ok .null⟩), .reply 0 ⟨.ok (), .ok ()⟩,
    .receive ⟨.modified, pod, ⟨⟨.ok ["m"], .ok true⟩, .ok containers⟩⟩, .register]

/-- Nothing is registered, and every pod has labels. -/
def noEngines (cls : K8sClass) : World (.k8s cls) := start cls.initial fun _ => some []

/-- A container that runs the entrypoint of its image. -/
theorem sleep_respected_entrypoint :
    ((noEngines .podIP).run portSettings (sleepingPod [⟨"vllm", []⟩])).Respected := by
  have hallows : (noEngines .podIP).AllowsAll portSettings (sleepingPod [⟨"vllm", []⟩]) := by
    refine ⟨?_, trivial, trivial, ?_, ?_, trivial, trivial⟩
    · intro engine _ hsleep
      cases hsleep
    · intro call hcall _
      cases hcall
      exact ⟨trivial, fun _ => ⟨rfl, trivial⟩⟩
    · intro engine _ _
      exact rfl
  exact (sleep_respected hallows).1 _ [] (List.append_nil _).symm

def staticEngine : StaticServiceDiscovery where
  urls := ["http://10.0.0.1:8000"]
  models := ["m"]
  aliases := []
  modelLabels := []
  modelTypes := none
  enginesId := ["a"]
  unhealthyEndpointHashes := []
  hash := id
  paired := rfl
  labelled := Or.inl rfl

def serviceEngine : K8sServiceNameServiceDiscovery :=
  ⟨Dict.empty.set "a" ⟨"http://a:8000", ["m"], "a", none, false⟩⟩

/-- The engine carries out the sleep, and the request raises. -/
def SleepsAndFails (kind : DiscoveryKind) (self : kind.State) : Prop :=
  (operationOf 100 kind self sleepA (.ok ⟨200, .ok .null⟩)).isSome ∧
  ∃ e, (routeSleepWakeupRequest 100 kind self sleepA (.ok ⟨200, .ok .null⟩)
    ⟨.ok (), .ok ()⟩ fun _ => some []).1 = .error e

/-- With the flag among the arguments of the container, the engine is a candidate in its
sleep. A static engine and a service are put to sleep by a request that fails. -/
theorem sleep_not_respected :
    ¬ ((noEngines .podIP).run portSettings (sleepingPod [⟨"vllm", ["vllm", "serve"]⟩])).Respected ∧
    SleepsAndFails .static staticEngine ∧ SleepsAndFails (.k8s .serviceName) serviceEngine := by
  refine ⟨?_, ⟨rfl, _, rfl⟩, rfl, _, rfl⟩
  intro h
  exact h ⟨"a", ⟨"http://10.0.0.1:8000", ["m"], "a", none, false⟩, some "a"⟩ List.mem_cons_self
    rfl rfl rfl

end World

end ProductionStack.Discovery

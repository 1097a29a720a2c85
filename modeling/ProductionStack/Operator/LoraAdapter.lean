import Mathlib.Data.List.Infix
import Mathlib.Data.List.Sort
import ProductionStack.Operator.Kube

/-!
The controller of the adapter resources: it observes on which pods an adapter
is loaded, computes on which it should be, and loads and unloads it.
-/

namespace ProductionStack.Operator

open Lib Go

/-- What the Go runtime leaves open: `sort.Slice` is not stable, a map is ranged over in
any order, and `metav1.Now()` is called when there are so many attempts left. -/
structure Runtime where
  now : Nat → Int
  sortByName : List (NamespacedName × Pod) → List (NamespacedName × Pod)
  sortByName_perm : ∀ pods, (sortByName pods).Perm pods
  sortByName_sorted : ∀ pods, (sortByName pods).Pairwise fun a b => a.1.name ≤ b.1.name
  range : List (String × LoadedAdapter) → List (String × LoadedAdapter)
  range_perm : ∀ entries, (range entries).Perm entries

/-- An insertion sort, and maps that are ranged over in the order of their keys' insertion. -/
def simpleRuntime : Runtime where
  now := fun _ => 0
  sortByName pods := pods.insertionSort fun a b => a.1.name ≤ b.1.name
  sortByName_perm pods := List.perm_insertionSort _ pods
  sortByName_sorted pods := List.pairwise_insertionSort _ pods
  range := id
  range_perm := fun _ => .refl _

structure Result where
  requeue : Bool
  requeueAfter : Nat

/-! Talking to a pod. -/

/-- The port named `container-port`; the last container that has one decides. -/
def Pod.containerPort (pod : Pod) : Nat :=
  pod.containers.foldl (fun port ports => (ports.lookup "container-port").getD port) 8000

def getPodEndpoint (name : NamespacedName) (path : String) (port : Option Nat) : Go Endpoint := do
  let answer ← call (.getPod name)
  let pod ← context "failed to get pod: " (ofApi answer)
  if pod.podIP = "" then fail ("pod " ++ name.name ++ " has no IP address")
  else pure ⟨name, pod.podIP, port.getD pod.containerPort, path⟩

def getVLLMApiKey (adapter : LoraAdapter) : Go String :=
  match adapter.spec.vllmApiKey with
  | none => pure ""
  | some ref =>
    if ref.name ≠ "" && ref.key ≠ "" then do
      let answer ← call (.getSecret adapter.name.ns ref.name)
      let secret ← context "failed to get secret: " (ofApi answer)
      match secret.lookup ref.key with
      | some apiKey => pure apiKey
      | none => fail ("secret does not contain key " ++ ref.key)
    else pure ""

/-- `json.Unmarshal` into the error response, as type and message. -/
def unmarshalError : ResponseBody → Go (String × String)
  | .fields values =>
    pure ((values.lookup "type").getD "", (values.lookup "message").getD "")
  | .models _ => pure ("", "")
  | .malformed => fail "invalid character"

/-- `json.Unmarshal` into the list of models. -/
def unmarshalModels : ResponseBody → Go (List ModelCard)
  | .models data => pure data
  | .fields _ => pure []
  | .malformed => fail "invalid character"

/-- `json.Unmarshal` into a map of strings. -/
def unmarshalFields : ResponseBody → Go (List (String × String))
  | .fields values => pure values
  | .models _ => fail "cannot unmarshal array into Go value of type string"
  | .malformed => fail "invalid character"

def checkStatus (response : HttpResponse) : Go ResponseBody :=
  if response.status = 200 then pure response.body
  else fail ("unexpected status code: " ++ toString response.status)

/-- An adapter that is already loaded counts as a success. -/
def isAlreadyLoaded (type message : String) : Bool :=
  type = "InvalidUserInput" && "has already been loaded".toList <:+: message.toList

def readResponse : Except String HttpResponse → Go ResponseBody
  | .error message => fail ("failed to send request: " ++ message)
  | .ok response =>
    if response.status = 400 then do
      let (type, message) ← context "failed to parse error response: "
        (unmarshalError response.body)
      if isAlreadyLoaded type message then pure response.body else checkStatus response
    else checkStatus response

def sendRequest (method : String) (endpoint : Endpoint) (payload : List (String × String))
    (adapter : LoraAdapter) : Go ResponseBody := do
  let apiKey ← context "failed to get API key: " (getVLLMApiKey adapter)
  let answer ← call (.send ⟨method, endpoint, payload, apiKey, adapter.name⟩)
  readResponse answer

/-- Changes an annotation of the pod. -/
def triggerPodEvent (name : NamespacedName) : Go Unit := do
  let answer ← call (.getPod name)
  let _ ← ofApi answer
  let answer ← call (.updatePod name)
  ofApi answer

def loadAdapter (name : NamespacedName) (adapterPath : String) (adapter : LoraAdapter) :
    Go Unit := do
  let endpoint ← getPodEndpoint name "/v1/load_lora_adapter" none
  let _ ← sendRequest "POST" endpoint
    [("lora_name", adapter.adapterName), ("lora_path", adapterPath)] adapter
  triggerPodEvent name

def unloadAdapter (name : NamespacedName) (adapter : LoraAdapter) : Go Unit := do
  let endpoint ← getPodEndpoint name "/v1/unload_lora_adapter" none
  let _ ← sendRequest "POST" endpoint [("lora_name", adapter.adapterName)] adapter
  triggerPodEvent name

/-! The source of an adapter. -/

def replaceSlashes (text : String) : String :=
  String.ofList (text.toList.map fun c => if c = '/' then '-' else c)

/-- The path is put into the resource, and into the caller's copy of it. -/
def downloadHuggingFaceAdapter (adapter : LoraAdapter) (pod : NamespacedName) :
    Go (String × LoraAdapter) := do
  let source := adapter.spec.adapterSource
  let repository := source.repository.getD ""
  if repository = "" then fail "repository is required for huggingface adapter source"
  else match source.credentialsSecretRef with
    | none => throw (.panic "invalid memory address or nil pointer dereference")
    | some ref => do
        let answer ← call (.getSecret adapter.name.ns ref.name)
        let secret ← context "failed to get secret: " (ofApi answer)
        match secret.lookup ref.key with
        | none => fail ("secret does not contain key " ++ ref.key)
        | some token => do
            let endpoint ← context "failed to get pod endpoint: "
              (getPodEndpoint pod "/model/download" (some 30090))
            let body ← context "failed to download adapter: " (sendRequest "POST" endpoint
              [("model_id", repository), ("token", token),
                ("local_dir", replaceSlashes source.adapterName)] adapter)
            let values ← context "failed to unmarshal response body: " (unmarshalFields body)
            let adapter := adapter.withPath ((values.lookup "path").getD "")
            let answer ← call (.updateAdapter adapter)
            let _ ← context "failed to update adapter path: " (ofApi answer)
            pure (adapter.adapterPath, adapter)

def discoverAdapter (adapter : LoraAdapter) (pod : NamespacedName) : Go (String × LoraAdapter) :=
  if adapter.adapterPath ≠ "" then pure (adapter.adapterPath, adapter)
  else match adapter.spec.adapterSource.type with
    | .localPath => fail "local adapter source requires AdapterPath to be set"
    | .s3 => fail "S3 adapter discovery not implemented yet"
    | .http => fail "HTTP adapter discovery not implemented yet"
    | .huggingface => downloadHuggingFaceAdapter adapter pod
    | .unsupported name => fail ("unsupported adapter source type: " ++ name)

/-! Observation and placement. -/

/-- What one pod says it has loaded. -/
def getModelList (adapter : LoraAdapter) (pod : NamespacedName) : Go (List ModelCard) := do
  let endpoint ← getPodEndpoint pod "/v1/models" none
  let body ← sendRequest "GET" endpoint [] adapter
  unmarshalModels body

/-- The entries of the list that stand for the adapter. -/
def registrationsIn (adapter : LoraAdapter) (pod : NamespacedName) (models : List ModelCard) :
    List LoadedAdapter :=
  (models.filter fun model => model.parent.isSome && model.id = adapter.adapterName).map
    fun model => ⟨model.id, model.root, model.created, pod, "Loaded"⟩

/-- The loop over the pods. One that is not ready or cannot be asked is skipped. -/
def collectRegistrations (adapter : LoraAdapter) :
    List (NamespacedName × Pod) → Go (List LoadedAdapter)
  | [] => pure []
  | (name, pod) :: rest =>
    if pod.ready then do
      let models ← attempt (getModelList adapter name)
      let others ← collectRegistrations adapter rest
      match models with
      | .ok models => pure (registrationsIn adapter name models ++ others)
      | .error _ => pure others
    else collectRegistrations adapter rest

def getAdapterRegistrations (adapter : LoraAdapter) : Go (List LoadedAdapter) := do
  let answer ← call (.listPods (.hasLabel "model"))
  let pods ← context "failed to list vLLM pods: " (ofApi answer)
  collectRegistrations adapter pods

/-- The number of pods to use: a negative number of replicas counts as none given. -/
def numPods (replicas : Option Int) (valid : Nat) : Nat :=
  match replicas with
  | some replicas => if 0 ≤ replicas then min replicas.toNat valid else valid
  | none => valid

def getOptimalPlacement (runtime : Runtime) (adapter : LoraAdapter) :
    Go (List NamespacedName) := do
  let answer ← call (.listPods (.matchingLabel "model" adapter.spec.baseModel))
  let pods ← context "failed to list vLLM pods: " (ofApi answer)
  let validPods := pods.filter fun entry => entry.2.ready
  if validPods.isEmpty then pure []
  else
    let sorted := runtime.sortByName validPods
    pure ((sorted.take (numPods adapter.spec.replicas sorted.length)).map Prod.fst)

/-! The status. -/

/-- Get the latest version, change its status, and retry on a conflict. `change` gives
nothing if there is nothing to write, and `last` is the error of the last attempt. -/
def retryStatus (what : String) (change : Nat → LoraAdapter → Option LoraAdapterStatus)
    (name : NamespacedName) : Nat → String → Go LoraAdapter
  | 0, last => fail ("failed to update status with " ++ what ++ " after retries: " ++ last)
  | left + 1, _ => do
      let answer ← call (.getAdapter name)
      let adapter ← context "failed to get latest LoraAdapter: " (ofApi answer)
      match change left adapter with
      | none => pure adapter
      | some status => do
          let adapter := adapter.withStatus status
          let updated ← call (.updateStatus adapter)
          match updated with
          | .ok () => pure adapter
          | .error (.conflict message) => do
              let _ ← call (.sleep (3 - left))
              retryStatus what change name left message
          | .error e => fail ("failed to update status with " ++ what ++ ": " ++ e.message)

def updateStatusWithRegistrations (adapter : LoraAdapter) (registrations : List LoadedAdapter) :
    Go LoraAdapter :=
  retryStatus "current registrations" (fun _ adapter => some {
    loadedAdapters := registrations
    observedGeneration := adapter.generation
    conditions := adapter.status.conditions.filter (·.type ≠ "WaitingForPods") }) adapter.name 3 ""

/-- Replace the first condition of this type, or append one. -/
def setCondition (condition : Condition) : List Condition → List Condition
  | [] => [condition]
  | first :: rest =>
    if first.type = condition.type then condition :: rest
    else first :: setCondition condition rest

def updateStatusWithWaitingState (runtime : Runtime) (adapter : LoraAdapter) (message : String) :
    Go LoraAdapter :=
  retryStatus "waiting state" (fun left adapter =>
    if adapter.status.conditions.any fun condition => condition.type = "WaitingForPods" &&
        condition.status = "True" && condition.message = message then none
    else some {
      loadedAdapters := []
      observedGeneration := adapter.generation
      conditions := setCondition ⟨"WaitingForPods", "True", runtime.now left, "NoReadyPods", message⟩
        adapter.status.conditions }) adapter.name 3 ""

/-! Comparing and reconciling. -/

def compareStates (current : List LoadedAdapter) (desired : List NamespacedName) : Bool :=
  if current.length ≠ desired.length then true
  else current.any fun registration =>
    !(desired.map (·.key)).contains registration.podAssignments.key

/-- `currentMap`: a later registration replaces an earlier one. -/
def currentMap (adapter : LoraAdapter) (current : List LoadedAdapter) : Dict String LoadedAdapter :=
  (current.filter (·.name = adapter.adapterName)).foldl
    (fun map registration => map.set registration.podAssignments.key registration) Dict.empty

/-- Load the adapter on the pods that miss it. -/
def loadMissing (current : Dict String LoadedAdapter) :
    List NamespacedName → LoraAdapter → Go LoraAdapter
  | [], adapter => pure adapter
  | pod :: rest, adapter =>
    if (current.get? pod.key).isSome then loadMissing current rest adapter
    else do
      let (path, adapter) ← context "failed to discover adapter: " (discoverAdapter adapter pod)
      context ("failed to load adapter on pod " ++ pod.name ++ ": ")
        (loadAdapter pod path adapter)
      loadMissing current rest adapter

/-- Unload the adapter from the pods that should not have it. -/
def unloadExtra (desired : List NamespacedName) (adapter : LoraAdapter) :
    List (String × LoadedAdapter) → Go Unit
  | [] => pure ()
  | (key, registration) :: rest =>
    if (desired.map (·.key)).contains key then unloadExtra desired adapter rest
    else do
      context ("failed to unload adapter from pod " ++ registration.podAssignments.name ++ ": ")
        (unloadAdapter registration.podAssignments adapter)
      unloadExtra desired adapter rest

def reconcileToDesiredState (runtime : Runtime) (adapter : LoraAdapter)
    (current : List LoadedAdapter) (desired : List NamespacedName) : Go LoraAdapter := do
  let map := currentMap adapter current
  let adapter ← loadMissing map desired adapter
  unloadExtra desired adapter (runtime.range map.entries)
  pure adapter

/-! Deletion. -/

def unloadAll (adapter : LoraAdapter) : List LoadedAdapter → Go Unit
  | [] => pure ()
  | registration :: rest =>
    if registration.name = adapter.adapterName then do
      context ("failed to unload adapter from pod " ++ registration.podAssignments.name ++ ": ")
        (unloadAdapter registration.podAssignments adapter)
      unloadAll adapter rest
    else unloadAll adapter rest

def handleDeletion (adapter : LoraAdapter) : Go Unit := do
  let current ← context "failed to get current registrations: " (getAdapterRegistrations adapter)
  unloadAll adapter current
  let answer ← call (.updateAdapter adapter.removeFinalizer)
  context "failed to remove finalizer: " (ofApi answer)

/-! The loop. -/

/-- After the changes: read the resource and the pods again, for the status. -/
def refreshStatus (name : NamespacedName) : Go Result := do
  let answer ← call (.getAdapter name)
  match answer with
  | .error (.notFound _) => pure ⟨false, 0⟩
  | .error e => fail e.message
  | .ok adapter => do
      let latest ← getAdapterRegistrations adapter
      let _ ← updateStatusWithRegistrations adapter latest
      pure ⟨false, 60⟩

/-- Steps one to five, for a resource that is not being deleted. -/
def reconcileNormal (runtime : Runtime) (adapter : LoraAdapter) : Go Result := do
  let current ← getAdapterRegistrations adapter
  let adapter ← updateStatusWithRegistrations adapter current
  let desired ← getOptimalPlacement runtime adapter
  if desired.isEmpty then do
    let _ ← updateStatusWithWaitingState runtime adapter "Waiting for pods to become ready"
    pure ⟨false, 60⟩
  else if compareStates current desired then do
    let adapter ← reconcileToDesiredState runtime adapter current desired
    refreshStatus adapter.name
  else pure ⟨false, 60⟩

def reconcile (runtime : Runtime) (name : NamespacedName) : Go Result := do
  let answer ← call (.getAdapter name)
  match answer with
  | .error (.notFound _) => pure ⟨false, 0⟩
  | .error e => fail e.message
  | .ok adapter =>
    if adapter.deleting then do
      handleDeletion adapter
      pure ⟨false, 0⟩
    else if adapter.containsFinalizer then reconcileNormal runtime adapter
    else do
      let answer ← call (.updateAdapter adapter.addFinalizer)
      ofApi answer
      pure ⟨true, 0⟩

end ProductionStack.Operator

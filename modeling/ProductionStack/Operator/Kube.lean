import Mathlib.Data.String.Basic
import ProductionStack.Lib.Dict
import ProductionStack.Lib.Prog

/-!
What the adapter controller of the operator works on. The Kubernetes API holds
pods, adapter resources and secrets; behind every pod there is an engine that
has loaded adapters and answers HTTP requests. A controller is a program that
performs calls to both, and an environment says how they are answered.

Annotations and resource versions are left out: no function of the controller
reads them. Times are in seconds, as the API keeps them.
-/

namespace ProductionStack.Operator

open Lib

/-- `types.NamespacedName`. A namespace is a DNS label and has no slash. -/
structure NamespacedName where
  ns : String
  name : String
  unslashed : '/' ∉ ns.toList
  deriving DecidableEq

/-- `fmt.Sprintf("%s/%s", namespace, name)`. -/
def NamespacedName.key (n : NamespacedName) : String := n.ns ++ "/" ++ n.name

/-! The objects of the API. -/

/-- The named ports of one container. -/
abbrev ContainerPorts := List (String × Nat)

/-- `conditions` are pairs of a type and a status. -/
structure Pod where
  labels : List (String × String)
  conditions : List (String × String)
  podIP : String
  containers : List ContainerPorts

/-- A ready condition that is true. -/
def Pod.ready (pod : Pod) : Bool :=
  pod.conditions.any fun condition => condition.1 = "Ready" && condition.2 = "True"

inductive SourceType where
  | localPath
  | s3
  | http
  | huggingface
  | unsupported (name : String)

structure SecretRef where
  name : String
  key : String

structure AdapterSource where
  type : SourceType
  adapterName : String
  adapterPath : String
  repository : Option String
  credentialsSecretRef : Option SecretRef

/-- `replicas` is that of the deployment config. -/
structure LoraAdapterSpec where
  adapterSource : AdapterSource
  baseModel : String
  replicas : Option Int
  vllmApiKey : Option SecretRef

structure LoadedAdapter where
  name : String
  path : String
  loadTime : Int
  podAssignments : NamespacedName
  status : String

structure Condition where
  type : String
  status : String
  lastTransitionTime : Int
  reason : String
  message : String

structure LoraAdapterStatus where
  loadedAdapters : List LoadedAdapter
  conditions : List Condition
  observedGeneration : Nat

/-- `deleting` says that the deletion timestamp is set. -/
structure LoraAdapter where
  name : NamespacedName
  generation : Nat
  finalizers : List String
  deleting : Bool
  spec : LoraAdapterSpec
  status : LoraAdapterStatus

def loraAdapterFinalizer : String := "loraadapter.production-stack.vllm.ai/finalizer"

namespace LoraAdapter

variable (adapter : LoraAdapter)

def adapterName : String := adapter.spec.adapterSource.adapterName

def adapterPath : String := adapter.spec.adapterSource.adapterPath

/-- `controllerutil.ContainsFinalizer`. -/
def containsFinalizer : Bool := adapter.finalizers.contains loraAdapterFinalizer

/-- `controllerutil.AddFinalizer`. -/
def addFinalizer : LoraAdapter :=
  if adapter.containsFinalizer then adapter
  else { adapter with finalizers := adapter.finalizers ++ [loraAdapterFinalizer] }

theorem addFinalizer_name : adapter.addFinalizer.name = adapter.name := by
  unfold addFinalizer
  split <;> rfl

/-- `controllerutil.RemoveFinalizer`. -/
def removeFinalizer : LoraAdapter :=
  { adapter with finalizers := adapter.finalizers.filter (· ≠ loraAdapterFinalizer) }

def withPath (path : String) : LoraAdapter :=
  { adapter with spec := { adapter.spec with
      adapterSource := { adapter.spec.adapterSource with adapterPath := path } } }

def withStatus (status : LoraAdapterStatus) : LoraAdapter := { adapter with status := status }

end LoraAdapter

/-- The data of a secret. -/
abbrev Secret := List (String × String)

/-! HTTP. -/

structure ModelCard where
  id : String
  root : String
  created : Int
  parent : Option String

/-- A body as far as the controller decodes it: a list of models, an object of strings,
or no JSON. -/
inductive ResponseBody where
  | models (data : List ModelCard)
  | fields (values : List (String × String))
  | malformed

structure HttpResponse where
  status : Nat
  body : ResponseBody

/-- The address of a pod, and the pod it was read from. -/
structure Endpoint where
  pod : NamespacedName
  host : String
  port : Nat
  path : String

/-- A request to a pod. `adapter` is the resource that it is made for; the pod does not
see it. -/
structure PodRequest where
  method : String
  endpoint : Endpoint
  payload : List (String × String)
  apiKey : String
  adapter : NamespacedName

/-! Programs. -/

inductive ApiError where
  | notFound (message : String)
  | conflict (message : String)
  | other (message : String)

def ApiError.message : ApiError → String
  | .notFound message | .conflict message | .other message => message

/-- An error of a Go function, or a panic. -/
inductive GoError where
  | error (message : String)
  | panic (message : String)

/-- `fmt.Errorf("...: %w", err)`. -/
def GoError.wrap (text : String) : GoError → GoError
  | .error message => .error (text ++ message)
  | .panic message => .panic message

/-- `client.HasLabels` and `client.MatchingLabels`, of one label. -/
inductive Selector where
  | hasLabel (label : String)
  | matchingLabel (label value : String)

def Selector.selects : Selector → Pod → Bool
  | .hasLabel label, pod => (pod.labels.lookup label).isSome
  | .matchingLabel label value, pod => pod.labels.lookup label = some value

/-- The calls of the controller. -/
inductive Event where
  | getAdapter (name : NamespacedName)
  | updateAdapter (adapter : LoraAdapter)
  | updateStatus (adapter : LoraAdapter)
  | listPods (selector : Selector)
  | getPod (name : NamespacedName)
  | updatePod (name : NamespacedName)
  | getSecret (ns name : String)
  | send (request : PodRequest)
  | sleep (seconds : Nat)

def Event.Answer : Event → Type
  | .getAdapter _ => Except ApiError LoraAdapter
  | .updateAdapter _ | .updateStatus _ | .updatePod _ => Except ApiError Unit
  | .listPods _ => Except ApiError (List (NamespacedName × Pod))
  | .getPod _ => Except ApiError Pod
  | .getSecret _ _ => Except ApiError Secret
  | .send _ => Except String HttpResponse
  | .sleep _ => Unit

abbrev kube : Signature := ⟨Event, Event.Answer⟩

/-- A function of the controller. What it does to a variable that it is given a pointer
to, it returns. -/
abbrev Go := ExceptT GoError (Prog kube)

namespace Go

variable {α β σ : Type}

def call (e : Event) : Go e.Answer := ExceptT.mk (.perform (S := kube) e fun answer => .ret (.ok answer))

def fail (message : String) : Go α := throw (.error message)

/-- `if err != nil { return fmt.Errorf(...) }`. -/
def context (text : String) (p : Go α) : Go α :=
  ExceptT.mk (p.run.bind fun
    | .ok a => .ret (.ok a)
    | .error e => .ret (.error (e.wrap text)))

/-- The error as a value, for a caller that goes on. -/
def attempt (p : Go α) : Go (Except GoError α) :=
  ExceptT.mk (p.run.bind fun r => .ret (.ok r))

def ofApi : Except ApiError α → Go α
  | .ok a => pure a
  | .error e => fail e.message

/-- Every run of `p` from state `s` meets `asserts` at its calls and `post` at its end. -/
def Ensures (env : Env kube σ) (asserts : σ → Event → Prop) (p : Go α) (s : σ)
    (post : Except GoError α → σ → Prop) : Prop :=
  Prog.Always env asserts (fun s r => post r s) p.run s

section Rules

variable {env : Env kube σ} {asserts : σ → Event → Prop} {s : σ}
  {post post' : Except GoError α → σ → Prop} {next : Except GoError β → σ → Prop} {p : Go α}
  {f : α → Go β} {text : String}

theorem ensures_pure {a : α} (h : post (.ok a) s) : Ensures env asserts (pure a) s post := h

theorem ensures_bind : Ensures env asserts (p >>= f) s next ↔
    Ensures env asserts p s fun r s => match r with
      | .ok a => Ensures env asserts (f a) s next
      | .error e => next (.error e) s := by
  change Prog.Always _ _ _ (Prog.bind p.run _) s ↔ _
  rw [Prog.always_bind]
  refine iff_of_eq (congrArg (fun q => Prog.Always env asserts q p.run s) ?_)
  funext s r
  cases r <;> rfl

theorem Ensures.mono {asserts' : σ → Event → Prop} (h : Ensures env asserts p s post)
    (hasserts : ∀ s e, asserts s e → asserts' s e) (hpost : ∀ r s, post r s → post' r s) :
    Ensures env asserts' p s post' :=
  Prog.Always.mono h hasserts fun s r => hpost r s

theorem Ensures.imp (h : Ensures env asserts p s post) (hpost : ∀ r s, post r s → post' r s) :
    Ensures env asserts p s post' :=
  h.mono (fun _ _ h => h) hpost

theorem ensures_seq (hp : Ensures env asserts p s post)
    (hok : ∀ a s, post (.ok a) s → Ensures env asserts (f a) s next)
    (herror : ∀ e s, post (.error e) s → next (.error e) s) :
    Ensures env asserts (p >>= f) s next := by
  apply ensures_bind.mpr
  refine hp.imp ?_
  intro r s h
  cases r with
  | ok a => exact hok a s h
  | error e => exact herror e s h

theorem ensures_call {e : Event} {f : e.Answer → Go α} (hassert : asserts s e)
    (h : ∀ answer s', env s e answer s' → Ensures env asserts (f answer) s' post) :
    Ensures env asserts (call e >>= f) s post := by
  exact ⟨hassert, h⟩

theorem ensures_context (h : Ensures env asserts p s fun r s => match r with
      | .ok a => post (.ok a) s
      | .error e => post (.error (e.wrap text)) s) :
    Ensures env asserts (context text p) s post := by
  change Prog.Always _ _ _ (Prog.bind p.run _) s
  rw [Prog.always_bind]
  refine Prog.Always.imp h ?_
  intro s r hr
  cases r <;> exact hr

theorem ensures_context_bind (h : Ensures env asserts p s fun r s => match r with
      | .ok a => Ensures env asserts (f a) s next
      | .error e => next (.error (e.wrap text)) s) :
    Ensures env asserts (context text p >>= f) s next :=
  ensures_bind.mpr (ensures_context h)

theorem ensures_attempt {post : Except GoError (Except GoError α) → σ → Prop}
    (h : Ensures env asserts p s fun r s => post (.ok r) s) :
    Ensures env asserts (attempt p) s post := by
  change Prog.Always _ _ _ (Prog.bind p.run _) s
  rw [Prog.always_bind]
  exact h

end Rules

end Go

/-! The cluster. -/

/-- An adapter that an engine has loaded. `owner` is the resource it was loaded for, if
the controller loaded it; it is a history variable that no function reads. -/
structure Module where
  path : String
  owner : Option NamespacedName

/-- The objects of the API, and what the engine of each pod has loaded and says about
when it created a model. -/
structure Cluster where
  pods : Dict NamespacedName Pod
  modules : NamespacedName → Dict String Module
  created : NamespacedName → String → Int
  adapters : Dict NamespacedName LoraAdapter
  secrets : Dict (String × String) Secret
  named : ∀ name adapter, adapters.get? name = some adapter → adapter.name = name

namespace Cluster

variable (s : Cluster)

def setModules (pod : NamespacedName) (modules : Dict String Module) : Cluster :=
  { s with modules := Function.update s.modules pod modules }

def setAdapter (adapter : LoraAdapter) : Cluster where
  pods := s.pods
  modules := s.modules
  created := s.created
  adapters := s.adapters.set adapter.name adapter
  secrets := s.secrets
  named := by
    intro name stored h
    rw [Dict.get?_set] at h
    split at h
    · next hname => rw [hname, ← Option.some.inj h]
    · exact s.named name stored h

def removeAdapter (name : NamespacedName) : Cluster where
  pods := s.pods
  modules := s.modules
  created := s.created
  adapters := s.adapters.erase name
  secrets := s.secrets
  named := by
    intro other stored h
    rw [Dict.get?_erase] at h
    split at h
    · cases h
    · exact s.named other stored h

/-- The API server keeps the status and the deletion timestamp, and drops an object that
is being deleted with its last finalizer. -/
def update (adapter : LoraAdapter) : Except ApiError Unit × Cluster :=
  match s.adapters.get? adapter.name with
  | none => (.error (.notFound "not found"), s)
  | some stored =>
    if stored.deleting && adapter.finalizers.isEmpty then (.ok (), s.removeAdapter adapter.name)
    else (.ok (), s.setAdapter { stored with
      name := adapter.name, finalizers := adapter.finalizers, spec := adapter.spec })

def updateStatus (adapter : LoraAdapter) : Except ApiError Unit × Cluster :=
  match s.adapters.get? adapter.name with
  | none => (.error (.notFound "not found"), s)
  | some stored =>
    (.ok (), s.setAdapter { stored with name := adapter.name, status := adapter.status })

/-- The resource carries the finalizer. -/
def finalized (name : NamespacedName) : Bool := (s.adapters.get? name).any (·.containsFinalizer)

end Cluster

def found {α : Type} : Option α → Except ApiError α
  | some a => .ok a
  | none => .error (.notFound "not found")

/-- What `GET /v1/models` lists: the base model has no parent. -/
def modelCards (created : String → Int) (modules : Dict String Module) : List ModelCard :=
  ⟨"base", "base", created "base", none⟩ :: modules.entries.map fun (name, module) =>
    ⟨name, module.path, created name, some "base"⟩

/-- How the engine of a pod and its sidecar answer. The path that an adapter is
downloaded to is theirs to choose. -/
def serve (downloaded : String) (created : String → Int) (modules : Dict String Module)
    (request : PodRequest) : HttpResponse × Dict String Module :=
  let name := (request.payload.lookup "lora_name").getD ""
  match request.endpoint.path with
  | "/v1/models" => (⟨200, .models (modelCards created modules)⟩, modules)
  | "/v1/load_lora_adapter" =>
    if (modules.get? name).isSome then
      (⟨400, .fields [("type", "InvalidUserInput"),
        ("message", "The lora adapter '" ++ name ++ "' has already been loaded.")]⟩, modules)
    else (⟨200, .fields []⟩,
      modules.set name ⟨(request.payload.lookup "lora_path").getD "", some request.adapter⟩)
  | "/v1/unload_lora_adapter" =>
    if (modules.get? name).isSome then (⟨200, .fields []⟩, modules.erase name)
    else (⟨404, .fields [("type", "NotFoundError")]⟩, modules)
  | "/model/download" => (⟨200, .fields [("path", downloaded)]⟩, modules)
  | _ => (⟨404, .fields []⟩, modules)

/-- Every call takes effect, and nobody else acts. -/
def obeys : Env kube Cluster
  | s, .getAdapter name, answer, s' => answer = found (s.adapters.get? name) ∧ s' = s
  | s, .updateAdapter adapter, answer, s' => (answer, s') = s.update adapter
  | s, .updateStatus adapter, answer, s' => (answer, s') = s.updateStatus adapter
  | s, .listPods selector, answer, s' =>
    answer = .ok (s.pods.entries.filter fun entry => selector.selects entry.2) ∧ s' = s
  | s, .getPod name, answer, s' => answer = found (s.pods.get? name) ∧ s' = s
  | s, .updatePod name, answer, s' =>
    answer = (found (s.pods.get? name)).map (fun _ => ()) ∧ s' = s
  | s, .getSecret ns name, answer, s' => answer = found (s.secrets.get? (ns, name)) ∧ s' = s
  | s, .send request, answer, s' =>
    if (s.pods.get? request.endpoint.pod).isSome then
      ∃ downloaded, downloaded ≠ "" ∧
        answer = .ok (serve downloaded (s.created request.endpoint.pod)
          (s.modules request.endpoint.pod) request).1 ∧
        s' = s.setModules request.endpoint.pod (serve downloaded (s.created request.endpoint.pod)
          (s.modules request.endpoint.pod) request).2
    else answer = .error "no route to host" ∧ s' = s
  | s, .sleep _, _, s' => s' = s

/-! Runs on a cluster that is given. -/

/-- A ready pod with an address. -/
def readyPod (model : String) : Pod :=
  ⟨[("model", model)], [("Ready", "True")], "10.0.0.1", []⟩

def clusterOf (pods : List (NamespacedName × Pod)) (modules : NamespacedName → Dict String Module)
    (adapters : List LoraAdapter) : Cluster :=
  adapters.foldl Cluster.setAdapter
    { pods := pods.foldl (fun d entry => d.set entry.1 entry.2) Dict.empty
      modules := modules
      created := fun _ _ => 0
      adapters := Dict.empty
      secrets := Dict.empty
      named := by simp }

/-- An answer that takes effect. -/
def Cluster.answer (e : Event) (s : Cluster) : e.Answer × Cluster :=
  match e with
  | .getAdapter name => (found (s.adapters.get? name), s)
  | .updateAdapter adapter => s.update adapter
  | .updateStatus adapter => s.updateStatus adapter
  | .listPods selector => (.ok (s.pods.entries.filter fun entry => selector.selects entry.2), s)
  | .getPod name => (found (s.pods.get? name), s)
  | .updatePod name => ((found (s.pods.get? name)).map fun _ => (), s)
  | .getSecret ns name => (found (s.secrets.get? (ns, name)), s)
  | .send request =>
    if (s.pods.get? request.endpoint.pod).isSome then
      let served := serve "/data/lora-adapters/a" (s.created request.endpoint.pod)
        (s.modules request.endpoint.pod) request
      (.ok served.1, s.setModules request.endpoint.pod served.2)
    else (.error "no route to host", s)
  | .sleep _ => ((), s)

theorem obeys_answer (e : Event) (s : Cluster) :
    obeys s e (Cluster.answer e s).1 (Cluster.answer e s).2 := by
  cases e with
  | send request =>
    simp only [obeys, Cluster.answer]
    split
    · exact ⟨"/data/lora-adapters/a", by decide, rfl, rfl⟩
    · exact ⟨rfl, rfl⟩
  | updateAdapter adapter | updateStatus adapter => rfl
  | sleep seconds => rfl
  | _ => exact ⟨rfl, rfl⟩

end ProductionStack.Operator

import ProductionStack.Operator.Kube

/-!
Deployments as the controllers build them from the spec of a resource, and how
they are compared. A slice or a map that may be nil is an `Option`. Owner
references and the status are left out: no builder and no check reads them.
-/

namespace ProductionStack.Operator

open Lib

/-! Parts that the resources have in common. -/

structure ResourceSpec where
  cpu : String
  memory : String
  gpu : String
  gpuType : String

structure ImageSpec where
  registry : String
  name : String
  pullPolicy : String
  pullSecretName : String

structure UserEnvVar where
  name : String
  value : String

structure NodeSelectorRequirement where
  key : String
  operator : String
  values : Option (List String)
  deriving DecidableEq

structure NodeSelectorTerm where
  matchExpressions : Option (List NodeSelectorRequirement)
  matchFields : Option (List NodeSelectorRequirement)
  deriving DecidableEq

structure Toleration where
  key : String
  operator : String
  value : String
  effect : String
  tolerationSeconds : Option Int
  deriving DecidableEq

/-! The deployment. -/

structure SecretKeySelector where
  name : String
  key : String

structure EnvVar where
  name : String
  value : String
  valueFrom : Option SecretKeySelector

/-- Maps from the name of a resource to a quantity. -/
structure ResourceRequirements (Q : Type) where
  requests : Option (Dict String Q)
  limits : Option (Dict String Q)

inductive VolumeSource (Q : Type) where
  | persistentVolumeClaim (claimName : String)
  | configMap (name : String) (items : List (String × String))
  | emptyDir (medium : String) (sizeLimit : Option Q)
  deriving DecidableEq

structure Volume (Q : Type) where
  name : String
  source : VolumeSource Q
  deriving DecidableEq

structure VolumeMount where
  name : String
  mountPath : String
  subPath : String
  deriving DecidableEq

structure ContainerPort where
  name : String
  containerPort : Int

structure Probe where
  path : String
  port : Int
  scheme : String
  initialDelaySeconds : Nat
  periodSeconds : Nat
  timeoutSeconds : Nat
  successThreshold : Nat
  failureThreshold : Nat

structure Container (Q : Type) where
  name : String
  image : String
  imagePullPolicy : String
  command : Option (List String)
  args : Option (List String)
  env : List EnvVar
  ports : List ContainerPort
  resources : ResourceRequirements Q
  volumeMounts : List VolumeMount
  readinessProbe : Option Probe
  startupProbe : Option Probe
  livenessProbe : Option Probe

structure NodeAffinity where
  requiredDuringScheduling : Option (Option (List NodeSelectorTerm))
  deriving DecidableEq

structure Affinity where
  nodeAffinity : Option NodeAffinity
  deriving DecidableEq

structure Deployment (Q : Type) where
  name : String
  ns : String
  replicas : Option Int
  strategy : String
  selector : Dict String String
  labels : Dict String String
  annotations : Dict String String
  serviceAccountName : String
  runtimeClassName : Option String
  affinity : Option Affinity
  tolerations : Option (List Toleration)
  imagePullSecrets : List String
  volumes : List (Volume Q)
  containers : List (Container Q)

/-! Quantities. -/

/-- `resource.ParseQuantity`. The quantities that are written in the controller parse. -/
structure Quantities (Q : Type) where
  parseQuantity : String → Option Q
  half : (parseQuantity "0.5").isSome = true
  mebibytes : (parseQuantity "128Mi").isSome = true
  zero : (parseQuantity "0").isSome = true

/-- Quantities as they are written. -/
def written : Quantities String := ⟨some, rfl, rfl, rfl⟩

variable {Q : Type} (a b : ResourceRequirements Q)

/-- `resource.MustParse`. -/
def Quantities.mustParse (q : Quantities Q) (text : String) : Except GoError Q :=
  match q.parseQuantity text with
  | some quantity => .ok quantity
  | none => .error (.panic ("cannot parse '" ++ text ++ "'"))

def ResourceRequirements.empty : ResourceRequirements Q := ⟨some Dict.empty, some Dict.empty⟩

/-- The request and the limit of one resource. -/
def ResourceRequirements.set (resources : ResourceRequirements Q) (name : String) (quantity : Q) :
    ResourceRequirements Q :=
  ⟨resources.requests.map (·.set name quantity), resources.limits.map (·.set name quantity)⟩

/-- A resource is set if the spec names an amount, or else to the default, if there is one. -/
def addResource (q : Quantities Q) (name text : String) (default : Option String)
    (resources : ResourceRequirements Q) : Except GoError (ResourceRequirements Q) :=
  if text ≠ "" then do
    let quantity ← q.mustParse text
    pure (resources.set name quantity)
  else match default with
    | some text => do
        let quantity ← q.mustParse text
        pure (resources.set name quantity)
    | none => pure resources

/-- A string, or another one if it is empty. -/
def orDefault (text default : String) : String := if text ≠ "" then text else default

def ResourceSpec.gpuName (spec : ResourceSpec) : String := orDefault spec.gpuType "nvidia.com/gpu"

/-- CPU, memory and GPU, with their defaults. -/
def buildResources (q : Quantities Q) (spec : ResourceSpec) (cpu memory gpu : Option String) :
    Except GoError (ResourceRequirements Q) := do
  let resources ← addResource q "cpu" spec.cpu cpu .empty
  let resources ← addResource q "memory" spec.memory memory resources
  addResource q spec.gpuName spec.gpu gpu resources

/-- CPU and memory only. -/
def buildCpuAndMemory (q : Quantities Q) (spec : ResourceSpec) :
    Except GoError (ResourceRequirements Q) := do
  let resources ← addResource q "cpu" spec.cpu none .empty
  addResource q "memory" spec.memory none resources

def ImageSpec.image (spec : ImageSpec) : String := spec.registry ++ "/" ++ spec.name

def ImageSpec.imagePullPolicy (spec : ImageSpec) : String :=
  orDefault spec.pullPolicy "IfNotPresent"

/-- Appended only under a condition. -/
def whenever {α : Type} (condition : Bool) (items : List α) : List α :=
  if condition then items else []

def ImageSpec.imagePullSecrets (spec : ImageSpec) : List String :=
  whenever (spec.pullSecretName ≠ "") [spec.pullSecretName]

def EnvVar.ofValue (name value : String) : EnvVar := ⟨name, value, none⟩

/-- The environment variables that the user defines. -/
def userEnv (env : List UserEnvVar) : List EnvVar := env.map fun e => .ofValue e.name e.value

/-- There is a node affinity if the selector terms are not nil. -/
def affinityOf (nodeSelectorTerms : Option (List NodeSelectorTerm)) : Option Affinity :=
  nodeSelectorTerms.map fun terms => ⟨some ⟨some (some terms)⟩⟩

/-- The label of the app, and over it those of the object. -/
def labelsOf (name : String) (labels : Dict String String) : Dict String String :=
  labels.entries.foldl (fun labels entry => labels.set entry.1 entry.2)
    (Dict.empty.set "app" name)

/-! What a check does with a deployment. -/

/-- A pointer is followed. -/
def deref {α : Type} : Option α → Except GoError α
  | some a => .ok a
  | none => .error (.panic "invalid memory address or nil pointer dereference")

def index {α : Type} (items : List α) (i : Nat) : Except GoError α :=
  match items[i]? with
  | some a => .ok a
  | none => .error (.panic ("index out of range [" ++ toString i ++ "]"))

/-- `reflect.DeepEqual` of maps, which may be nil. -/
def deepEqual [DecidableEq Q] : Option (Dict String Q) → Option (Dict String Q) → Bool
  | some a, some b => a.entries.length = b.entries.length &&
      a.entries.all fun entry => b.get? entry.1 = some entry.2
  | none, none => true
  | _, _ => false

/-! Pod templates. Maps are the same if they have the same entries, in whatever order. -/

structure ResourceRequirements.Same (a b : ResourceRequirements Q) : Prop where
  requests : Option.Rel Dict.Same a.requests b.requests
  limits : Option.Rel Dict.Same a.limits b.limits

structure Container.Same (a b : Container Q) : Prop where
  resources : a.resources.Same b.resources
  others : { a with resources := b.resources } = b

/-- Two deployments have the same pod template. -/
structure Deployment.SameTemplate (a b : Deployment Q) : Prop where
  labels : a.labels.Same b.labels
  annotations : a.annotations.Same b.annotations
  serviceAccountName : a.serviceAccountName = b.serviceAccountName
  runtimeClassName : a.runtimeClassName = b.runtimeClassName
  affinity : a.affinity = b.affinity
  tolerations : a.tolerations = b.tolerations
  imagePullSecrets : a.imagePullSecrets = b.imagePullSecrets
  volumes : a.volumes = b.volumes
  containers : List.Forall₂ Container.Same a.containers b.containers

theorem deepEqual_iff [DecidableEq Q] (a b : Option (Dict String Q)) :
    deepEqual a b = true ↔ Option.Rel Dict.Same a b := by
  cases a with
  | none => cases b <;> simp [deepEqual]
  | some a =>
    cases b with
    | none => simp [deepEqual]
    | some b => simp [deepEqual, Dict.same_iff]

theorem deepEqual_resources_iff [DecidableEq Q] :
    (deepEqual a.requests b.requests && deepEqual a.limits b.limits) = true ↔ a.Same b := by
  rw [Bool.and_eq_true, deepEqual_iff, deepEqual_iff]
  exact ⟨fun h => ⟨h.1, h.2⟩, fun h => ⟨h.requests, h.limits⟩⟩

theorem not_deepEqual_resources_iff [DecidableEq Q] :
    (!(deepEqual a.requests b.requests && deepEqual a.limits b.limits)) = true ↔ ¬ a.Same b := by
  rw [← deepEqual_resources_iff, Bool.not_eq_true', Bool.not_eq_true]

instance [DecidableEq Q] (a b : ResourceRequirements Q) : Decidable (a.Same b) :=
  decidable_of_iff _ (deepEqual_resources_iff a b)

theorem Dict.optionSame_refl (d : Option (Dict String Q)) : Option.Rel Dict.Same d d := by
  cases d with
  | none => exact .none
  | some d => exact .some (Dict.Same.refl d)

theorem ResourceRequirements.Same.refl (resources : ResourceRequirements Q) :
    resources.Same resources :=
  ⟨Dict.optionSame_refl resources.requests, Dict.optionSame_refl resources.limits⟩

theorem Dict.optionSame_symm {a b : Option (Dict String Q)} (h : Option.Rel Dict.Same a b) :
    Option.Rel Dict.Same b a := by
  cases h with
  | none => exact .none
  | some h => exact .some fun k => (h k).symm

theorem ResourceRequirements.Same.symm {a b : ResourceRequirements Q} (h : a.Same b) : b.Same a :=
  ⟨Dict.optionSame_symm h.requests, Dict.optionSame_symm h.limits⟩

theorem affinityOf_injective : Function.Injective affinityOf := by
  intro a b h
  cases a with
  | none | some a => cases b <;> simp_all [affinityOf]

/-! Building succeeds if the quantities parse. -/

/-- An amount that is given parses. -/
def AmountParses (q : Quantities Q) (text : String) : Prop :=
  text = "" ∨ (q.parseQuantity text).isSome = true

structure ResourceSpec.Parses (q : Quantities Q) (spec : ResourceSpec) : Prop where
  cpu : AmountParses q spec.cpu
  memory : AmountParses q spec.memory
  gpu : AmountParses q spec.gpu

section Build

variable {q : Quantities Q} {text : String}

theorem mustParse_ok (h : (q.parseQuantity text).isSome = true) :
    ∃ quantity, q.mustParse text = .ok quantity := by
  obtain ⟨quantity, hparse⟩ := Option.isSome_iff_exists.mp h
  exact ⟨quantity, by simp [Quantities.mustParse, hparse]⟩

theorem addResource_ok {default : Option String} (name : String)
    (resources : ResourceRequirements Q) (htext : AmountParses q text)
    (hdefault : ∀ text ∈ default, (q.parseQuantity text).isSome = true) :
    ∃ resources', addResource q name text default resources = .ok resources' := by
  unfold addResource
  split
  · next hgiven =>
      obtain ⟨quantity, hparse⟩ := mustParse_ok (htext.resolve_left hgiven)
      exact ⟨resources.set name quantity, by rw [hparse]; rfl⟩
  · cases default with
    | none => exact ⟨resources, rfl⟩
    | some text =>
      obtain ⟨quantity, hparse⟩ := mustParse_ok (hdefault text rfl)
      exact ⟨resources.set name quantity, by dsimp only; rw [hparse]; rfl⟩

theorem buildResources_ok {spec : ResourceSpec} (cpu memory gpu : Option String)
    (h : spec.Parses q) (hcpu : ∀ text ∈ cpu, (q.parseQuantity text).isSome = true)
    (hmemory : ∀ text ∈ memory, (q.parseQuantity text).isSome = true)
    (hgpu : ∀ text ∈ gpu, (q.parseQuantity text).isSome = true) :
    ∃ resources, buildResources q spec cpu memory gpu = .ok resources := by
  obtain ⟨r₁, h₁⟩ := addResource_ok "cpu" .empty h.cpu hcpu
  obtain ⟨r₂, h₂⟩ := addResource_ok "memory" r₁ h.memory hmemory
  obtain ⟨r₃, h₃⟩ := addResource_ok spec.gpuName r₂ h.gpu hgpu
  refine ⟨r₃, ?_⟩
  unfold buildResources
  rw [h₁]
  change (addResource q "memory" _ memory r₁ >>= _) = _
  rw [h₂]
  exact h₃

end Build

end ProductionStack.Operator

import ProductionStack.Operator.LoraAdapter

/-!
The functions of the adapter controller with nobody else about: what each of
them returns and does to the cluster, if every call takes effect.
-/

namespace ProductionStack.Operator

open Lib Go

theorem NamespacedName.key_injective : Function.Injective NamespacedName.key := by
  intro a b h
  have hlists : a.ns.toList ++ '/' :: a.name.toList = b.ns.toList ++ '/' :: b.name.toList := by
    have hchars := congrArg String.toList h
    simpa [NamespacedName.key] using hchars
  have hsplit (l l' r r' : List Char) (hl : '/' ∉ l) (hl' : '/' ∉ l')
      (h : l ++ '/' :: r = l' ++ '/' :: r') : l = l' ∧ r = r' := by
    induction l generalizing l' with
    | nil =>
      cases l' with
      | nil => simpa using h
      | cons c rest =>
        simp only [List.nil_append, List.cons_append, List.cons.injEq] at h
        exact absurd (h.1 ▸ List.mem_cons_self) hl'
    | cons c rest ih =>
      cases l' with
      | nil =>
        simp only [List.nil_append, List.cons_append, List.cons.injEq] at h
        exact absurd (h.1 ▸ List.mem_cons_self) hl
      | cons c' rest' =>
        simp only [List.cons_append, List.cons.injEq] at h
        simp only [List.mem_cons, not_or] at hl hl'
        have hrest := ih rest' hl.2 hl'.2 h.2
        exact ⟨by rw [h.1, hrest.1], hrest.2⟩
  obtain ⟨hns, hname⟩ := hsplit _ _ _ _ a.unslashed b.unslashed hlists
  obtain ⟨_, _, _⟩ := a
  obtain ⟨_, _, _⟩ := b
  simp only [NamespacedName.mk.injEq]
  exact ⟨String.toList_inj.mp hns, String.toList_inj.mp hname⟩

section Compare

variable {current : List LoadedAdapter} {desired : List NamespacedName}

theorem compareStates_eq_false_iff : compareStates current desired = false ↔
    current.length = desired.length ∧ current.map LoadedAdapter.podAssignments ⊆ desired := by
  unfold compareStates
  split
  · next hlength => simp [hlength]
  · next hlength =>
      simp only [List.any_eq_false, Bool.not_eq_true', Bool.not_eq_false, List.contains_iff_mem,
        List.mem_map_of_injective NamespacedName.key_injective, not_not.mp hlength, true_and]
      exact List.forall_mem_map.symm

/-- Of the two inclusions and the lengths, the check needs one inclusion and the lengths. -/
theorem perm_of_compareStates (hcurrent : (current.map LoadedAdapter.podAssignments).Nodup)
    (h : compareStates current desired = false) :
    (current.map LoadedAdapter.podAssignments).Perm desired := by
  obtain ⟨hlength, hsub⟩ := compareStates_eq_false_iff.mp h
  refine (hcurrent.subperm hsub).perm_of_length_le ?_
  rw [List.length_map, hlength]

/-- Nothing is to be done exactly if the adapter is registered where it should be. -/
theorem compareStates_exact (hcurrent : (current.map LoadedAdapter.podAssignments).Nodup)
    (hdesired : desired.Nodup) : compareStates current desired = false ↔
      ∀ pod, pod ∈ current.map LoadedAdapter.podAssignments ↔ pod ∈ desired := by
  constructor
  · intro h pod
    exact (perm_of_compareStates hcurrent h).mem_iff
  · intro hsame
    have hperm := (List.perm_ext_iff_of_nodup hcurrent hdesired).mpr hsame
    refine compareStates_eq_false_iff.mpr ⟨?_, hperm.subset⟩
    rw [← hperm.length_eq, List.length_map]

theorem compareStates_exact_two_pods :
    let pod (name : String) : NamespacedName := ⟨"default", name, by decide⟩
    compareStates [⟨"a", "/p", 0, pod "x", "Loaded"⟩, ⟨"a", "/p", 0, pod "y", "Loaded"⟩]
      [pod "y", pod "x"] = false := by
  intro pod
  apply (compareStates_exact (by decide) (by decide)).mpr
  intro other
  simp [or_comm]

end Compare

namespace Cluster

variable (s : Cluster)

/-- The key that requests for the adapter carry, if it can be read. -/
def apiKey (adapter : LoraAdapter) : Option String :=
  match adapter.spec.vllmApiKey with
  | none => some ""
  | some ref =>
    if ref.name ≠ "" && ref.key ≠ "" then
      (s.secrets.get? (adapter.name.ns, ref.name)).bind (·.lookup ref.key)
    else some ""

def reachable (pod : NamespacedName) : Bool := (s.pods.get? pod).any (·.podIP ≠ "")

/-- What one pod contributes to the observation. -/
def registrationsOf (adapter : LoraAdapter) (entry : NamespacedName × Pod) : List LoadedAdapter :=
  if entry.2.ready && s.reachable entry.1 && (s.apiKey adapter).isSome then
    ((s.modules entry.1).get? adapter.adapterName).toList.map fun module =>
      ⟨adapter.adapterName, module.path, s.created entry.1 adapter.adapterName, entry.1, "Loaded"⟩
  else []

def registrations (adapter : LoraAdapter) : List LoadedAdapter :=
  (s.pods.entries.filter fun entry => (Selector.hasLabel "model").selects entry.2).flatMap
    (s.registrationsOf adapter)

/-- The ready pods labelled with the base model. -/
def validPods (adapter : LoraAdapter) : List (NamespacedName × Pod) :=
  (s.pods.entries.filter fun entry =>
    (Selector.matchingLabel "model" adapter.spec.baseModel).selects entry.2).filter
      fun entry => entry.2.ready

/-- The first `min(replicas, n)` of the valid pods in sorted order, or all of them; a
negative number, which the schema of the resource does not admit, counts as none. -/
def placement (runtime : Runtime) (adapter : LoraAdapter) : List NamespacedName :=
  let sorted := runtime.sortByName (s.validPods adapter)
  match adapter.spec.replicas with
  | some (.ofNat replicas) => (sorted.take (min replicas sorted.length)).map Prod.fst
  | _ => sorted.map Prod.fst

/-- An engine loads an adapter unless it has one of this name. -/
def load (pod : NamespacedName) (name : String) (module : Module) : Cluster :=
  s.setModules pod
    (if ((s.modules pod).get? name).isSome then s.modules pod else (s.modules pod).set name module)

def unload (pod : NamespacedName) (name : String) : Cluster :=
  s.setModules pod ((s.modules pod).erase name)

end Cluster

/-! How the engines answer. -/

section Serve

variable {downloaded : String} {created : String → Int} {modules : Dict String Module}

theorem isAlreadyLoaded_message (name : String) : isAlreadyLoaded "InvalidUserInput"
    ("The lora adapter '" ++ name ++ "' has already been loaded.") = true := by
  have hinfix : "has already been loaded".toList <:+:
      ("The lora adapter '" ++ name ++ "' has already been loaded.").toList :=
    ⟨("The lora adapter '" ++ name ++ "' ").toList, ".".toList, by simp⟩
  unfold isAlreadyLoaded
  rw [Bool.and_eq_true]
  exact ⟨rfl, decide_eq_true hinfix⟩

variable {request : PodRequest}

theorem serve_load (hpath : request.endpoint.path = "/v1/load_lora_adapter") :
    (serve downloaded created modules request).2 =
      if (modules.get? ((request.payload.lookup "lora_name").getD "")).isSome then modules
      else modules.set ((request.payload.lookup "lora_name").getD "")
        ⟨(request.payload.lookup "lora_path").getD "", some request.adapter⟩ := by
  simp only [serve, hpath]
  split <;> rfl

/-- Loading is accepted, also if there was nothing to do. -/
theorem readResponse_load (downloaded : String) (created : String → Int)
    (modules : Dict String Module) (request : PodRequest) (hpath : request.endpoint.path = "/v1/load_lora_adapter") :
    ∃ body, readResponse (.ok (serve downloaded created modules request).1) = pure body := by
  simp only [serve, hpath]
  split
  · refine ⟨.fields [("type", "InvalidUserInput"), ("message", "The lora adapter '" ++
      (request.payload.lookup "lora_name").getD "" ++ "' has already been loaded.")], ?_⟩
    exact if_pos (isAlreadyLoaded_message _)
  · exact ⟨.fields [], rfl⟩

theorem serve_unload (hpath : request.endpoint.path = "/v1/unload_lora_adapter") :
    serve downloaded created modules request =
      if (modules.get? ((request.payload.lookup "lora_name").getD "")).isSome then
        (⟨200, .fields []⟩, modules.erase ((request.payload.lookup "lora_name").getD ""))
      else (⟨404, .fields [("type", "NotFoundError")]⟩, modules) := by
  simp only [serve, hpath]

theorem serve_models (hpath : request.endpoint.path = "/v1/models") :
    serve downloaded created modules request = (⟨200, .models (modelCards created modules)⟩, modules) := by
  simp only [serve, hpath]

theorem serve_download (hpath : request.endpoint.path = "/model/download") :
    serve downloaded created modules request = (⟨200, .fields [("path", downloaded)]⟩, modules) := by
  simp only [serve, hpath]

end Serve

/-! The rules for calls that take effect. -/

variable {s : Cluster} {adapter : LoraAdapter}

section Obeys

variable {α : Type} {post : Except GoError α → Cluster → Prop}

/-- Nothing is asked of the calls. -/
def Free (_ : Cluster) (_ : Event) : Prop := True

theorem ensures_ofApi {σ : Type} {env : Env kube σ} {asserts : σ → Event → Prop} {s : σ}
    {answer : Except ApiError α} {post : Except GoError α → σ → Prop}
    (hok : ∀ a, answer = .ok a → post (.ok a) s)
    (herror : ∀ e, answer = .error e → post (.error (.error e.message)) s) :
    Ensures env asserts (ofApi answer) s post := by
  cases answer with
  | ok a => exact hok a rfl
  | error e => exact herror e rfl

variable (name pod : NamespacedName) (path : String)

theorem getPodEndpoint_obeys (port : Option Nat) :
    Ensures obeys Free (getPodEndpoint name path port) s fun r s' => s' = s ∧ match r with
      | .ok endpoint => endpoint.pod = name ∧ endpoint.path = path ∧ s.reachable name = true
      | .error _ => s.reachable name = false := by
  apply ensures_call trivial
  rintro answer s' ⟨rfl, rfl⟩
  cases hpod : s'.pods.get? name with
  | none => exact ⟨rfl, by simp [Cluster.reachable, hpod]⟩
  | some pod =>
    apply ensures_context_bind
    apply ensures_pure
    dsimp only
    split
    · next hip => exact ⟨rfl, by simp [Cluster.reachable, hpod, hip]⟩
    · next hip => exact ⟨rfl, rfl, rfl, by simp [Cluster.reachable, hpod, hip]⟩

theorem getVLLMApiKey_obeys (adapter : LoraAdapter) :
    Ensures obeys Free (getVLLMApiKey adapter) s fun r s' => s' = s ∧ match r with
      | .ok apiKey => s.apiKey adapter = some apiKey
      | .error _ => s.apiKey adapter = none := by
  unfold getVLLMApiKey Cluster.apiKey
  cases adapter.spec.vllmApiKey with
  | none => exact ⟨rfl, rfl⟩
  | some ref =>
    dsimp only
    split
    · apply ensures_call trivial
      rintro answer s' ⟨rfl, rfl⟩
      cases s'.secrets.get? (adapter.name.ns, ref.name) with
      | none => exact ⟨rfl, rfl⟩
      | some secret =>
        apply ensures_context_bind
        apply ensures_pure
        dsimp only
        cases hlookup : secret.lookup ref.key with
        | none | some apiKey => exact ⟨rfl, hlookup⟩
    · exact ⟨rfl, rfl⟩

variable (runtime : Runtime)

/-- A request to a pod that exists is answered, if the key can be read. -/
theorem sendRequest_obeys {method : String} {endpoint : Endpoint}
    {payload : List (String × String)} {post : Except GoError ResponseBody → Cluster → Prop}
    (hpod : s.reachable endpoint.pod = true)
    (hok : ∀ apiKey downloaded, s.apiKey adapter = some apiKey → downloaded ≠ "" → Ensures obeys Free (readResponse (.ok (serve downloaded (s.created endpoint.pod) (s.modules endpoint.pod) ⟨method, endpoint, payload, apiKey, adapter.name⟩).1)) (s.setModules endpoint.pod (serve downloaded (s.created endpoint.pod) (s.modules endpoint.pod) ⟨method, endpoint, payload, apiKey, adapter.name⟩).2) post)
    (herror : s.apiKey adapter = none → ∀ e, post (.error e) s) :
    Ensures obeys Free (sendRequest method endpoint payload adapter) s post := by
  have hsome : (s.pods.get? endpoint.pod).isSome = true := by
    unfold Cluster.reachable at hpod
    cases hget : s.pods.get? endpoint.pod with
    | none => simp [hget] at hpod
    | some pod => rfl
  apply ensures_context_bind
  refine (getVLLMApiKey_obeys adapter).imp ?_
  rintro r s' ⟨rfl, hkey⟩
  cases r with
  | error e => exact herror hkey _
  | ok apiKey =>
    apply ensures_call trivial
    intro answer s'' hstep
    simp only [obeys, hsome, if_true] at hstep
    obtain ⟨downloaded, hdownloaded, rfl, rfl⟩ := hstep
    exact hok apiKey downloaded hkey hdownloaded

theorem setModules_self : s.setModules pod (s.modules pod) = s := by
  unfold Cluster.setModules
  rw [Function.update_eq_self]

theorem triggerPodEvent_obeys : Ensures obeys Free (triggerPodEvent name) s fun _ s' => s' = s := by
  apply ensures_call trivial
  rintro answer s' ⟨-, rfl⟩
  apply ensures_bind.mpr
  apply ensures_ofApi
  · intro pod _
    apply ensures_call trivial
    rintro answer s'' ⟨-, rfl⟩
    exact ensures_ofApi (fun _ _ => rfl) fun _ _ => rfl
  · intro e _
    rfl

variable (adapter : LoraAdapter)

theorem loadAdapter_obeys :
    Ensures obeys Free (loadAdapter pod path adapter) s fun r s' => r = .ok () →
      s.reachable pod = true ∧ (s.apiKey adapter).isSome ∧
        s' = s.load pod adapter.adapterName ⟨path, some adapter.name⟩ := by
  apply ensures_seq (getPodEndpoint_obeys pod "/v1/load_lora_adapter" none)
  · rintro endpoint s₁ ⟨rfl, rfl, hpath, hreachable⟩
    apply ensures_bind.mpr
    apply sendRequest_obeys hreachable
    · intro apiKey downloaded hkey _
      obtain ⟨body, hread⟩ := readResponse_load downloaded (s₁.created endpoint.pod) (s₁.modules endpoint.pod)
        ⟨"POST", endpoint, [("lora_name", adapter.adapterName), ("lora_path", path)], apiKey,
          adapter.name⟩ hpath
      rw [hread, serve_load hpath]
      refine (triggerPodEvent_obeys endpoint.pod).imp ?_
      rintro r s' rfl _
      exact ⟨hreachable, by rw [hkey]; rfl, rfl⟩
    · intro _ e h
      cases h
  · rintro e s' _ h
    cases h

theorem unloadAdapter_obeys :
    Ensures obeys Free (unloadAdapter pod adapter) s fun r s' => r = .ok () →
      s' = s.unload pod adapter.adapterName := by
  apply ensures_seq (getPodEndpoint_obeys pod "/v1/unload_lora_adapter" none)
  · rintro endpoint s₁ ⟨rfl, rfl, hpath, hreachable⟩
    apply ensures_bind.mpr
    apply sendRequest_obeys hreachable
    · intro apiKey downloaded _ _
      rw [serve_unload hpath]
      split
      · refine (triggerPodEvent_obeys endpoint.pod).imp ?_
        rintro r s' rfl _
        rfl
      · intro h
        cases h
    · intro _ e h
      cases h
  · rintro e s' _ h
    cases h

/-! Observation and placement. -/

theorem getModelList_obeys (pod : NamespacedName) :
    Ensures obeys Free (getModelList adapter pod) s fun r s' => s' = s ∧ match r with
      | .ok models => s.reachable pod = true ∧ (s.apiKey adapter).isSome = true ∧
          models = modelCards (s.created pod) (s.modules pod)
      | .error _ => s.reachable pod = false ∨ s.apiKey adapter = none := by
  apply ensures_seq (getPodEndpoint_obeys pod "/v1/models" none)
  · rintro endpoint s₁ ⟨rfl, rfl, hpath, hreachable⟩
    apply ensures_bind.mpr
    apply sendRequest_obeys hreachable
    · intro apiKey downloaded hkey _
      rw [serve_models hpath, setModules_self]
      exact ⟨rfl, hreachable, by rw [hkey]; rfl, rfl⟩
    · intro hkey e
      exact ⟨rfl, Or.inr hkey⟩
  · rintro e s' ⟨rfl, hunreachable⟩
    exact ⟨rfl, Or.inl hunreachable⟩

theorem registrationsIn_modelCards (pod : NamespacedName)
    (created : String → Int) (modules : Dict String Module) :
    registrationsIn adapter pod (modelCards created modules) =
      (modules.get? adapter.adapterName).toList.map fun module =>
        ⟨adapter.adapterName, module.path, created adapter.adapterName, pod, "Loaded"⟩ := by
  have hentries := modules.filter_entries_key adapter.adapterName
  unfold registrationsIn modelCards
  rw [List.filter_cons_of_neg (by simp), List.filter_map, List.map_map]
  simp only [Function.comp_def, Option.isSome_some, Bool.true_and]
  rw [hentries, List.map_map]
  rfl

theorem collectRegistrations_obeys (pods : List (NamespacedName × Pod)) :
    Ensures obeys Free (collectRegistrations adapter pods) s fun r s' =>
      r = .ok (pods.flatMap (s.registrationsOf adapter)) ∧ s' = s := by
  induction pods with
  | nil => exact ⟨rfl, rfl⟩
  | cons entry rest ih =>
    obtain ⟨name, pod⟩ := entry
    unfold collectRegistrations
    by_cases hready : pod.ready = true
    · rw [if_pos hready]
      apply ensures_bind.mpr
      apply ensures_attempt
      refine (getModelList_obeys adapter name).imp ?_
      rintro models s' ⟨rfl, hmodels⟩
      apply ensures_seq ih
      · rintro others s₂ ⟨hothers, rfl⟩
        cases hothers
        cases models with
        | ok models =>
          obtain ⟨hreachable, hkey, rfl⟩ := hmodels
          refine ⟨?_, rfl⟩
          simp [Cluster.registrationsOf, hready, hreachable, hkey, registrationsIn_modelCards]
        | error e =>
          refine ⟨?_, rfl⟩
          rcases hmodels with h | h <;> simp [Cluster.registrationsOf, h]
      · rintro e s₂ ⟨h, -⟩
        cases h
    · rw [if_neg hready]
      refine ih.imp ?_
      rintro r s' ⟨rfl, rfl⟩
      refine ⟨?_, rfl⟩
      simp [Cluster.registrationsOf, hready]

theorem getAdapterRegistrations_obeys :
    Ensures obeys Free (getAdapterRegistrations adapter) s fun r s' =>
      r = .ok (s.registrations adapter) ∧ s' = s := by
  apply ensures_call trivial
  rintro answer s' ⟨rfl, rfl⟩
  exact (collectRegistrations_obeys adapter _)

theorem placement_eq : s.placement runtime adapter =
    ((runtime.sortByName (s.validPods adapter)).take (numPods adapter.spec.replicas
      (s.validPods adapter).length)).map Prod.fst := by
  rw [← (runtime.sortByName_perm (s.validPods adapter)).length_eq]
  unfold numPods Cluster.placement
  rcases adapter.spec.replicas with _ | _ | replicas
  · simp
  · simp
  · simp [Int.negSucc_not_nonneg]

theorem getOptimalPlacement_obeys :
    Ensures obeys Free (getOptimalPlacement runtime adapter) s fun r s' =>
      r = .ok (s.placement runtime adapter) ∧ s' = s := by
  apply ensures_call trivial
  rintro answer s' ⟨rfl, rfl⟩
  apply ensures_context_bind
  change Ensures obeys Free (if (s'.validPods adapter).isEmpty then pure [] else
    pure (((runtime.sortByName (s'.validPods adapter)).take (numPods adapter.spec.replicas
      (runtime.sortByName (s'.validPods adapter)).length)).map Prod.fst)) s' _
  have hperm := runtime.sortByName_perm (s'.validPods adapter)
  rw [placement_eq, hperm.length_eq]
  split
  · next hempty =>
      rw [List.isEmpty_iff.mp hempty] at hperm ⊢
      rw [hperm.eq_nil]
      exact ⟨by simp, rfl⟩
  · exact ⟨rfl, rfl⟩

variable {adapter}

/-! The resource. -/

theorem update_withPath (hstored : s.adapters.get? adapter.name = some adapter)
    (hlive : adapter.deleting = false) :
    s.update (adapter.withPath path) = (.ok (), s.setAdapter (adapter.withPath path)) := by
  have hget : s.adapters.get? (adapter.withPath path).name = some adapter := hstored
  have hkept : ¬ (adapter.deleting && (adapter.withPath path).finalizers.isEmpty) = true := by
    simp [hlive]
  unfold Cluster.update
  simp only [hget]
  rw [if_neg hkept]
  rfl

theorem updateStatus_withStatus (status : LoraAdapterStatus)
    (hstored : s.adapters.get? adapter.name = some adapter) :
    s.updateStatus (adapter.withStatus status) =
      (.ok (), s.setAdapter (adapter.withStatus status)) := by
  have hget : s.adapters.get? (adapter.withStatus status).name = some adapter := hstored
  unfold Cluster.updateStatus
  simp only [hget]
  rfl

end Obeys

/-- A resource without the parts that the controller writes. -/
def LoraAdapter.core (adapter : LoraAdapter) : LoraAdapter :=
  (adapter.withPath "").withStatus ⟨[], [], 0⟩

/-- Only the path and the status of one resource have changed, and what is loaded. -/
structure Moved (adapter : LoraAdapter) (s : Cluster) (adapter' : LoraAdapter) (s' : Cluster) :
    Prop where
  pods : s'.pods = s.pods
  created : s'.created = s.created
  secrets : s'.secrets = s.secrets
  others : ∀ other, other ≠ adapter.name → s'.adapters.get? other = s.adapters.get? other
  stored : s'.adapters.get? adapter.name = some adapter'
  core : adapter'.core = adapter.core

namespace Moved

variable {adapter' adapter'' : LoraAdapter} {s' s'' : Cluster}

theorem refl (h : s.adapters.get? adapter.name = some adapter) : Moved adapter s adapter s where
  pods := rfl
  created := rfl
  secrets := rfl
  others := fun _ _ => rfl
  stored := h
  core := rfl

theorem setAdapter (hname : adapter'.name = adapter.name) (hcore : adapter'.core = adapter.core) :
    Moved adapter s adapter' (s.setAdapter adapter') where
  pods := rfl
  created := rfl
  secrets := rfl
  others := by
    intro other hother
    exact Dict.get?_set_of_ne _ _ (by rw [hname]; exact hother)
  stored := by
    rw [← hname]
    exact Dict.get?_set_self _ _ _
  core := hcore

variable (h : Moved adapter s adapter' s') (pod : NamespacedName)

include h

/-- What the controller does not write is as it was. -/
theorem field {β : Type} (f : LoraAdapter → β) : f adapter'.core = f adapter.core :=
  congrArg f h.core

theorem name : adapter'.name = adapter.name :=
  h.field LoraAdapter.name

theorem adapterName : adapter'.adapterName = adapter.adapterName :=
  h.field LoraAdapter.adapterName

theorem deleting : adapter'.deleting = adapter.deleting :=
  h.field LoraAdapter.deleting

theorem baseModel : adapter'.spec.baseModel = adapter.spec.baseModel :=
  h.field fun a => a.spec.baseModel

theorem replicas : adapter'.spec.replicas = adapter.spec.replicas :=
  h.field fun a => a.spec.replicas

theorem generation : adapter'.generation = adapter.generation :=
  h.field LoraAdapter.generation

theorem finalizers : adapter'.finalizers = adapter.finalizers :=
  h.field LoraAdapter.finalizers

theorem stored' : s'.adapters.get? adapter'.name = some adapter' := by
  rw [h.name]
  exact h.stored

theorem trans (h' : Moved adapter' s' adapter'' s'') : Moved adapter s adapter'' s'' where
  pods := h'.pods.trans h.pods
  created := h'.created.trans h.created
  secrets := h'.secrets.trans h.secrets
  others := by
    intro other hother
    rw [h'.others other (by rw [h.name]; exact hother), h.others other hother]
  stored := by
    rw [← h.name]
    exact h'.stored
  core := h'.core.trans h.core

theorem setModules
    (modules : Dict String Module) : Moved adapter s adapter' (s'.setModules pod modules) where
  pods := h.pods
  created := h.created
  secrets := h.secrets
  others := h.others
  stored := h.stored
  core := h.core

theorem load (name : String)
    (module : Module) : Moved adapter s adapter' (s'.load pod name module) :=
  h.setModules pod _

theorem apiKey : s'.apiKey adapter' = s.apiKey adapter := by
  have hspec : adapter'.spec.vllmApiKey = adapter.spec.vllmApiKey :=
    h.field fun a => a.spec.vllmApiKey
  unfold Cluster.apiKey
  rw [hspec, h.name, h.secrets]

theorem reachable : s'.reachable pod = s.reachable pod := by
  unfold Cluster.reachable
  rw [h.pods]

theorem registrations_of_get? (hmodules : ∀ pod, (s'.modules pod).get? adapter.adapterName =
      (s.modules pod).get? adapter.adapterName) :
    s'.registrations adapter' = s.registrations adapter := by
  have hone : s'.registrationsOf adapter' = s.registrationsOf adapter := by
    funext entry
    unfold Cluster.registrationsOf
    rw [h.reachable, h.apiKey, h.adapterName, hmodules, h.created]
  unfold Cluster.registrations
  rw [hone, h.pods]

theorem registrations (hmodules : s'.modules = s.modules) :
    s'.registrations adapter' = s.registrations adapter :=
  h.registrations_of_get? fun pod => by rw [hmodules]

theorem placement (runtime : Runtime) :
    s'.placement runtime adapter' = s.placement runtime adapter := by
  have hvalid : s'.validPods adapter' = s.validPods adapter := by
    unfold Cluster.validPods
    rw [h.pods, h.baseModel]
  unfold Cluster.placement
  rw [hvalid, h.replicas]

end Moved

section Resource

theorem retryStatus_obeys (what : String) (change : Nat → LoraAdapter → Option LoraAdapterStatus)
    (left : Nat) (last : String) (hstored : s.adapters.get? adapter.name = some adapter) :
    Ensures obeys Free (retryStatus what change adapter.name (left + 1) last) s fun r s' =>
      ∃ adapter', r = .ok adapter' ∧ Moved adapter s adapter' s' ∧
        adapter'.adapterPath = adapter.adapterPath ∧ s'.modules = s.modules ∧
        adapter'.status = (change left adapter).getD adapter.status := by
  apply ensures_call trivial
  rintro answer s₁ ⟨rfl, rfl⟩
  rw [hstored]
  apply ensures_context_bind
  apply ensures_pure
  dsimp only
  split
  · next hchange => exact ⟨adapter, rfl, .refl hstored, rfl, rfl, by rw [hchange]; rfl⟩
  · next status hchange =>
      apply ensures_call trivial
      intro updated s₂ hstep
      have hupdated := (Prod.mk.inj (hstep.trans (updateStatus_withStatus status hstored)))
      obtain ⟨rfl, rfl⟩ := hupdated
      exact ⟨adapter.withStatus status, rfl, .setAdapter rfl rfl, rfl, rfl, by rw [hchange]; rfl⟩

variable (pod : NamespacedName) (pod' : NamespacedName) (name name' : String)

section Discovery

variable (hstored : s.adapters.get? adapter.name = some adapter) (hlive : adapter.deleting = false)

include hstored hlive

theorem downloadHuggingFaceAdapter_obeys :
    Ensures obeys Free (downloadHuggingFaceAdapter adapter pod) s fun r s' =>
      ∀ path adapter', r = .ok (path, adapter') → path = adapter'.adapterPath ∧ path ≠ "" ∧
        Moved adapter s adapter' s' ∧ s'.modules = s.modules ∧ adapter'.status = adapter.status := by
  unfold downloadHuggingFaceAdapter
  dsimp only
  split
  · rintro _ _ ⟨⟩
  split
  · rintro _ _ ⟨⟩
  next ref _ =>
  apply ensures_call trivial
  rintro answer s₁ ⟨rfl, rfl⟩
  cases s₁.secrets.get? (adapter.name.ns, ref.name) with
  | none => rintro _ _ ⟨⟩
  | some secret =>
    apply ensures_context_bind
    apply ensures_pure
    dsimp only
    split
    · rintro _ _ ⟨⟩
    next token _ =>
    apply ensures_context_bind
    refine (getPodEndpoint_obeys pod "/model/download" (some 30090)).imp ?_
    rintro r s₂ ⟨rfl, hendpoint⟩
    cases r with
    | error e => rintro _ _ ⟨⟩
    | ok endpoint =>
      obtain ⟨rfl, hpath, hreachable⟩ := hendpoint
      apply ensures_context_bind
      apply sendRequest_obeys hreachable
      · intro apiKey downloaded _ hdownloaded
        rw [serve_download hpath, setModules_self]
        apply ensures_context_bind
        apply ensures_call trivial
        intro updated s₃ hstep
        have hupdated := Prod.mk.inj (hstep.trans (update_withPath downloaded hstored hlive))
        obtain ⟨rfl, rfl⟩ := hupdated
        rintro _ _ ⟨⟩
        exact ⟨rfl, hdownloaded, .setAdapter rfl rfl, rfl, rfl⟩
      · intro _ e
        rintro _ _ ⟨⟩

theorem discoverAdapter_obeys :
    Ensures obeys Free (discoverAdapter adapter pod) s fun r s' =>
      ∀ path adapter', r = .ok (path, adapter') → path = adapter'.adapterPath ∧ path ≠ "" ∧
        (adapter.adapterPath ≠ "" → path = adapter.adapterPath) ∧
        Moved adapter s adapter' s' ∧ s'.modules = s.modules ∧ adapter'.status = adapter.status := by
  unfold discoverAdapter
  split
  · next hpath =>
      rintro _ _ ⟨⟩
      exact ⟨rfl, hpath, fun _ => rfl, .refl hstored, rfl, rfl⟩
  · next hpath =>
      split
      · rintro _ _ ⟨⟩
      · rintro _ _ ⟨⟩
      · rintro _ _ ⟨⟩
      · refine (downloadHuggingFaceAdapter_obeys pod hstored hlive).imp ?_
        intro r s' h path adapter' hr
        obtain ⟨hsame, hne, hmoved, hmodules⟩ := h path adapter' hr
        exact ⟨hsame, hne, fun h => absurd h hpath, hmoved, hmodules⟩
      · rintro _ _ ⟨⟩

end Discovery

/-- What loading the missing adapters has done, with the resource as it is afterwards. -/
structure LoadedMissing (current : Dict String LoadedAdapter) (todo : List NamespacedName)
    (adapter : LoraAdapter) (s : Cluster) (adapter' : LoraAdapter) (s' : Cluster) : Prop where
  moved : Moved adapter s adapter' s'
  status : adapter'.status = adapter.status
  path : adapter.adapterPath ≠ "" → adapter'.adapterPath = adapter.adapterPath
  ready : ∀ pod ∈ todo, current.get? pod.key = none →
    s.reachable pod = true ∧ (s.apiKey adapter).isSome = true
  modules : ∀ pod name, (s'.modules pod).get? name =
    if name = adapter.adapterName ∧ pod ∈ todo ∧ current.get? pod.key = none then
      some (((s.modules pod).get? name).getD ⟨adapter'.adapterPath, some adapter.name⟩)
    else (s.modules pod).get? name

theorem get?_load (module : Module) :
    ((s.load pod name module).modules pod').get? name' =
      if name' = name ∧ pod' = pod then some (((s.modules pod').get? name').getD module)
      else (s.modules pod').get? name' := by
  unfold Cluster.load Cluster.setModules
  by_cases hpod : pod' = pod
  · subst hpod
    simp only [Function.update_self, and_true]
    by_cases hname : name' = name
    · subst hname
      cases hget : (s.modules pod').get? name' with
      | none => simp
      | some old => simp [hget]
    · rw [if_neg hname]
      split
      · rfl
      · exact Dict.get?_set_of_ne _ _ hname
  · simp [hpod]

section Steps

variable {current : Dict String LoadedAdapter} {pod : NamespacedName} {rest : List NamespacedName}
  {s₁ s' : Cluster} {adapter₁ adapter' : LoraAdapter}

/-- The pod has the adapter. -/
theorem LoadedMissing.skip (h : LoadedMissing current rest adapter s adapter' s')
    (hcurrent : (current.get? pod.key).isSome = true) :
    LoadedMissing current (pod :: rest) adapter s adapter' s' := by
  have hne (other : NamespacedName) (hother : current.get? other.key = none) : other ≠ pod := by
    rintro rfl
    rw [hother] at hcurrent
    cases hcurrent
  refine ⟨h.moved, h.status, h.path, ?_, ?_⟩
  · intro other hmem hother
    rcases List.mem_cons.mp hmem with rfl | hmem
    · exact absurd rfl (hne other hother)
    · exact h.ready other hmem hother
  · intro other name
    rw [h.modules other name]
    refine if_congr ?_ rfl rfl
    simp only [List.mem_cons]
    constructor
    · rintro ⟨hname, hmem, hother⟩
      exact ⟨hname, Or.inr hmem, hother⟩
    · rintro ⟨hname, hmem, hother⟩
      exact ⟨hname, hmem.resolve_left (hne other hother), hother⟩

/-- The pod has been given the adapter, from a path that does not change any more. -/
theorem LoadedMissing.step (hmissing : current.get? pod.key = none)
    (hmoved : Moved adapter s adapter₁ s₁) (hstatus : adapter₁.status = adapter.status)
    (hmodules : s₁.modules = s.modules) (hpath : adapter₁.adapterPath ≠ "")
    (hkept : adapter.adapterPath ≠ "" → adapter₁.adapterPath = adapter.adapterPath)
    (hready : s₁.reachable pod = true ∧ (s₁.apiKey adapter₁).isSome = true)
    (h : LoadedMissing current rest adapter₁ (s₁.load pod adapter₁.adapterName
      ⟨adapter₁.adapterPath, some adapter₁.name⟩) adapter' s') :
    LoadedMissing current (pod :: rest) adapter s adapter' s' := by
  have hsame : adapter'.adapterPath = adapter₁.adapterPath := h.path hpath
  have hmoved₂ := hmoved.load pod adapter₁.adapterName ⟨adapter₁.adapterPath, some adapter₁.name⟩
  refine ⟨hmoved₂.trans h.moved, h.status.trans hstatus, ?_, ?_, ?_⟩
  · intro hgiven
    rw [hsame, hkept hgiven]
  · intro other hmem hother
    rcases List.mem_cons.mp hmem with rfl | hmem
    · rw [hmoved.reachable, hmoved.apiKey] at hready
      exact hready
    · have hlater := h.ready other hmem hother
      rw [hmoved₂.reachable, hmoved₂.apiKey] at hlater
      exact hlater
  · intro other name
    rw [h.modules other name, get?_load, hmodules, hsame, hmoved.adapterName, hmoved.name]
    by_cases hname : name = adapter.adapterName
    · by_cases hpod : other = pod
      · subst hpod
        simp [hname, hmissing]
      · simp [hname, hpod]
    · simp [hname]

end Steps

/-- Induction on the pods that are left. Only the first download can change the path. -/
theorem loadMissing_obeys (current : Dict String LoadedAdapter) (todo : List NamespacedName)
    (hstored : s.adapters.get? adapter.name = some adapter) (hlive : adapter.deleting = false) :
    Ensures obeys Free (loadMissing current todo adapter) s fun r s' =>
      ∀ adapter', r = .ok adapter' → LoadedMissing current todo adapter s adapter' s' := by
  induction todo generalizing s adapter with
  | nil =>
    rintro _ ⟨⟩
    exact ⟨.refl hstored, rfl, fun _ => rfl, by simp, by simp⟩
  | cons pod rest ih =>
    unfold loadMissing
    split
    · next hcurrent =>
        refine (ih hstored hlive).imp ?_
        intro r s' h adapter' hr
        exact (h adapter' hr).skip hcurrent
    · next hmissing =>
        apply ensures_context_bind
        refine (discoverAdapter_obeys pod hstored hlive).imp ?_
        intro r s₁ hdiscovered
        cases r with
        | error e =>
          intro adapter' hr
          cases hr
        | ok found =>
          obtain ⟨path, adapter₁⟩ := found
          obtain ⟨rfl, hpath, hkept, hmoved, hmodules, hstatus⟩ := hdiscovered path adapter₁ rfl
          apply ensures_context_bind
          refine (loadAdapter_obeys pod _ adapter₁).imp ?_
          intro r s₂ hloaded
          cases r with
          | error e =>
            intro adapter' hr
            cases hr
          | ok _ =>
            obtain ⟨hreachable, hkey, rfl⟩ := hloaded rfl
            have hlive₁ : adapter₁.deleting = false := by rw [hmoved.deleting, hlive]
            have hmoved₂ := hmoved.load pod adapter₁.adapterName
              ⟨adapter₁.adapterPath, some adapter₁.name⟩
            refine (ih hmoved₂.stored' hlive₁).imp ?_
            intro r s' h adapter' hr
            exact .step (by simpa using hmissing) hmoved hstatus hmodules hpath hkept
              ⟨hreachable, hkey⟩ (h adapter' hr)

/-- What unloading has done. -/
structure UnloadedExtra (desired : List NamespacedName) (name : String)
    (entries : List (String × LoadedAdapter)) (s s' : Cluster) : Prop where
  kept : s' = { s with modules := s'.modules }
  modules : ∀ pod name', (s'.modules pod).get? name' =
    if name' = name ∧ ∃ entry ∈ entries, entry.2.podAssignments = pod ∧
        ¬ entry.1 ∈ desired.map NamespacedName.key then none
    else (s.modules pod).get? name'

theorem get?_unload : ((s.unload pod name).modules pod').get? name' =
      if name' = name ∧ pod' = pod then none else (s.modules pod').get? name' := by
  unfold Cluster.unload Cluster.setModules
  by_cases hpod : pod' = pod
  · subst hpod
    simp [Dict.get?_erase]
  · simp [hpod]

theorem unloadExtra_obeys (desired : List NamespacedName)
    (entries : List (String × LoadedAdapter)) :
    Ensures obeys Free (unloadExtra desired adapter entries) s fun r s' => r = .ok () →
      UnloadedExtra desired adapter.adapterName entries s s' := by
  induction entries generalizing s with
  | nil =>
    intro _
    exact ⟨rfl, by simp⟩
  | cons entry rest ih =>
    obtain ⟨key, registration⟩ := entry
    unfold unloadExtra
    split
    · next hdesired =>
        refine ih.imp ?_
        intro r s' h hr
        have hrest := h hr
        refine ⟨hrest.kept, ?_⟩
        intro pod name
        have hmem : key ∈ desired.map NamespacedName.key := by simpa using hdesired
        rw [hrest.modules pod name]
        refine if_congr ?_ rfl rfl
        simp only [List.exists_mem_cons_iff, hmem, not_true_eq_false, and_false, false_or]
    · next hextra =>
        apply ensures_context_bind
        refine (unloadAdapter_obeys registration.podAssignments adapter).imp ?_
        intro r s₁ hunloaded
        cases r with
        | error e => exact nofun
        | ok _ =>
          have hunloaded := hunloaded rfl
          subst hunloaded
          refine ih.imp ?_
          intro r s' h hr
          have hrest := h hr
          refine ⟨hrest.kept, ?_⟩
          intro pod name
          have hmem : key ∉ desired.map NamespacedName.key := by simpa using hextra
          rw [hrest.modules pod name, get?_unload]
          simp only [List.exists_mem_cons_iff, hmem, not_false_eq_true, and_true]
          by_cases hname : name = adapter.adapterName
          · by_cases hpod : registration.podAssignments = pod
            · simp [hname, hpod]
            · have hpod' : ¬ pod = registration.podAssignments := fun h => hpod h.symm
              simp only [hname, hpod, hpod', and_false, if_false, false_or, true_and]
          · simp only [hname, false_and, if_false]

end Resource

end ProductionStack.Operator

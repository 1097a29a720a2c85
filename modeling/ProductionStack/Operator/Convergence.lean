import ProductionStack.Operator.Obedience

/-!
Reconciling with nobody else about: what one run of the controller does to the
engines, if every call takes effect. The adapter ends up on the pods of its
placement and on no other pod that was observed; with an empty placement
nothing is done, and what an engine had loaded already it keeps.
-/

namespace ProductionStack.Operator

open Lib Go

/-! What is observed, and where an adapter belongs. -/

variable {runtime : Runtime} {pod : NamespacedName} {registration : LoadedAdapter}

namespace Cluster

variable (s : Cluster)

/-- A pod that is asked for its models: labelled, ready and with an address. -/
def observable (pod : NamespacedName) : Bool :=
  (s.pods.get? pod).any fun p => (Selector.hasLabel "model").selects p && p.ready && p.podIP ≠ ""

def isLoaded (pod : NamespacedName) (name : String) : Bool := ((s.modules pod).get? name).isSome

/-- The pod shows up in the observation. -/
def Observes (adapter : LoraAdapter) (pod : NamespacedName) : Prop :=
  s.observable pod = true ∧ (s.apiKey adapter).isSome = true ∧
    s.isLoaded pod adapter.adapterName = true

instance (adapter : LoraAdapter) (pod : NamespacedName) : Decidable (s.Observes adapter pod) :=
  inferInstanceAs (Decidable (_ ∧ _ ∧ _))

variable {s} {adapter : LoraAdapter}

theorem name_of_mem_registrations
    (h : registration ∈ s.registrations adapter) : registration.name = adapter.adapterName := by
  obtain ⟨entry, -, hentry⟩ := List.mem_flatMap.mp h
  unfold registrationsOf at hentry
  split at hentry
  · obtain ⟨module, -, rfl⟩ := List.mem_map.mp hentry
    rfl
  · cases hentry

theorem exists_registration_iff :
    (∃ registration ∈ s.registrations adapter, registration.podAssignments = pod) ↔
      s.Observes adapter pod := by
  constructor
  · rintro ⟨registration, hmem, rfl⟩
    obtain ⟨⟨name, p⟩, hentry, hregistration⟩ := List.mem_flatMap.mp hmem
    obtain ⟨hpods, hlabel⟩ := List.mem_filter.mp hentry
    have hget : s.pods.get? name = some p := s.pods.get?_of_mem_entries hpods
    unfold registrationsOf at hregistration
    split at hregistration
    · next hseen =>
        obtain ⟨module, hmodule, rfl⟩ := List.mem_map.mp hregistration
        simp only [reachable, hget, Option.any_some, Bool.and_eq_true, decide_eq_true_eq] at hseen
        simp only [Observes, observable, isLoaded, hget, Option.any_some, Bool.and_eq_true,
          decide_eq_true_eq]
        refine ⟨⟨⟨hlabel, hseen.1.1⟩, hseen.1.2⟩, hseen.2, ?_⟩
        rw [Option.mem_toList.mp hmodule]
        rfl
    · cases hregistration
  · rintro ⟨hobservable, hkey, hloaded⟩
    unfold observable at hobservable
    cases hget : s.pods.get? pod with
    | none => simp [hget] at hobservable
    | some p =>
      simp only [hget, Option.any_some, Bool.and_eq_true, decide_eq_true_eq] at hobservable
      obtain ⟨⟨hlabel, hready⟩, hip⟩ := hobservable
      obtain ⟨module, hmodule⟩ := Option.isSome_iff_exists.mp hloaded
      refine ⟨⟨adapter.adapterName, module.path, s.created pod adapter.adapterName, pod, "Loaded"⟩, ?_, rfl⟩
      apply List.mem_flatMap.mpr
      refine ⟨(pod, p), List.mem_filter.mpr ⟨mem_of_lookup hget, hlabel⟩, ?_⟩
      have hreachable : s.reachable pod = true := by simp [reachable, hget, hip]
      simp [registrationsOf, hready, hreachable, hkey, hmodule]

/-- A pod is observed once. -/
theorem nodup_registrations :
    ((s.registrations adapter).map LoadedAdapter.podAssignments).Nodup := by
  have hone (entry : NamespacedName × Pod) :
      ((s.registrationsOf adapter entry).map LoadedAdapter.podAssignments).Sublist [entry.1] := by
    unfold registrationsOf
    split
    · cases (s.modules entry.1).get? adapter.adapterName <;> simp
    · exact List.nil_sublist _
  have hsublist (entries : List (NamespacedName × Pod)) :
      ((entries.flatMap (s.registrationsOf adapter)).map LoadedAdapter.podAssignments).Sublist
        (entries.map Prod.fst) := by
    induction entries with
    | nil => exact List.Sublist.refl _
    | cons entry rest ih =>
      rw [List.flatMap_cons, List.map_append]
      exact (hone entry).append ih
  refine List.Nodup.sublist (hsublist _) ?_
  exact s.pods.nodupKeys.sublist (List.filter_sublist.map Prod.fst)

/-- The pods of a placement are ready and labelled with the base model. -/
theorem mem_placement (h : pod ∈ s.placement runtime adapter) :
    ∃ p, s.pods.get? pod = some p ∧ p.ready = true ∧
      p.labels.lookup "model" = some adapter.spec.baseModel := by
  have hsorted : ∃ entry ∈ runtime.sortByName (s.validPods adapter), entry.1 = pod := by
    unfold placement at h
    split at h
    · obtain ⟨entry, hentry, rfl⟩ := List.mem_map.mp h
      exact ⟨entry, List.mem_of_mem_take hentry, rfl⟩
    · obtain ⟨entry, hentry, rfl⟩ := List.mem_map.mp h
      exact ⟨entry, hentry, rfl⟩
  obtain ⟨⟨name, p⟩, hentry, rfl⟩ := hsorted
  have hvalid := (runtime.sortByName_perm _).mem_iff.mp hentry
  obtain ⟨hlabelled, hready⟩ := List.mem_filter.mp hvalid
  obtain ⟨hpods, hlabel⟩ := List.mem_filter.mp hlabelled
  refine ⟨p, s.pods.get?_of_mem_entries hpods, hready, ?_⟩
  simpa [Selector.selects] using hlabel

/-- In a placement only the address may be missing. -/
theorem observable_of_mem_placement (h : pod ∈ s.placement runtime adapter) :
    s.observable pod = s.reachable pod := by
  obtain ⟨p, hget, hready, hlabel⟩ := mem_placement h
  simp [observable, reachable, hget, hready, Selector.selects, hlabel]

end Cluster

section Reconcile

variable {s : Cluster} {adapter adapter' : LoraAdapter} {runtime : Runtime}
  {conditions : List Condition}

/-! The map of the current registrations. -/

theorem mem_currentMap {key : String}
    (h : (key, registration) ∈ (currentMap adapter (s.registrations adapter)).entries) :
    s.Observes adapter registration.podAssignments ∧ key = registration.podAssignments.key := by
  have hget := Dict.get?_of_mem_entries _ h
  rcases Dict.get?_foldl_set hget with ⟨hmem, hkey⟩ | hempty
  · have hregistration := (List.mem_filter.mp hmem).1
    exact ⟨Cluster.exists_registration_iff.mp ⟨registration, hregistration, rfl⟩, hkey.symm⟩
  · cases hempty

theorem currentMap_isSome_iff (pod : NamespacedName) :
    ((currentMap adapter (s.registrations adapter)).get? pod.key).isSome = true ↔
      s.Observes adapter pod := by
  constructor
  · intro h
    obtain ⟨registration, hget⟩ := Option.isSome_iff_exists.mp h
    obtain ⟨hobserves, hkey⟩ := mem_currentMap (mem_of_lookup hget)
    rw [NamespacedName.key_injective hkey]
    exact hobserves
  · intro h
    obtain ⟨registration, hmem, rfl⟩ := Cluster.exists_registration_iff.mpr h
    refine Dict.isSome_foldl_set (Or.inl ⟨registration, ?_, rfl⟩)
    have hregistered := Cluster.name_of_mem_registrations hmem
    exact List.mem_filter.mpr ⟨hmem, by simp [hregistered]⟩

/-- The entries that are unloaded: what is observed outside the placement. -/
theorem exists_extra_iff (s : Cluster) (adapter : LoraAdapter) (runtime : Runtime)
    (desired : List NamespacedName) (pod : NamespacedName) :
    (∃ entry ∈ runtime.range (currentMap adapter (s.registrations adapter)).entries,
        entry.2.podAssignments = pod ∧ entry.1 ∉ desired.map NamespacedName.key) ↔
      s.Observes adapter pod ∧ pod ∉ desired := by
  constructor
  · rintro ⟨⟨key, registration⟩, hentry, rfl, hextra⟩
    have hmem := (runtime.range_perm _).mem_iff.mp hentry
    obtain ⟨hobserves, rfl⟩ := mem_currentMap hmem
    exact ⟨hobserves, fun h => hextra (List.mem_map_of_mem h)⟩
  · rintro ⟨hobserves, hextra⟩
    have hsome := (currentMap_isSome_iff pod).mpr hobserves
    obtain ⟨registration, hget⟩ := Option.isSome_iff_exists.mp hsome
    have hmem := mem_of_lookup hget
    obtain ⟨-, hkey⟩ := mem_currentMap hmem
    refine ⟨(pod.key, registration), (runtime.range_perm _).mem_iff.mpr hmem, ?_, ?_⟩
    · exact (NamespacedName.key_injective hkey).symm
    · intro h
      obtain ⟨other, hother, hsame⟩ := List.mem_map.mp h
      rw [NamespacedName.key_injective hsame] at hother
      exact hextra hother

/-! One run. -/

/-- What a reconcile that returns without an error has done to the engines. -/
structure Reconciled (runtime : Runtime) (adapter : LoraAdapter) (s : Cluster)
    (adapter' : LoraAdapter) (s' : Cluster) : Prop where
  moved : Moved adapter s adapter' s'
  path : adapter.adapterPath ≠ "" → adapter'.adapterPath = adapter.adapterPath
  seen : ∀ pod ∈ s.placement runtime adapter, s.observable pod = true
  key : s.placement runtime adapter ≠ [] → (s.apiKey adapter).isSome = true
  idle : s.placement runtime adapter = [] → s'.modules = s.modules
  modules : s.placement runtime adapter ≠ [] → ∀ pod name, (s'.modules pod).get? name =
    if name = adapter.adapterName then
      if pod ∈ s.placement runtime adapter then
        some (((s.modules pod).get? name).getD ⟨adapter'.adapterPath, some adapter.name⟩)
      else if s.observable pod then none
      else (s.modules pod).get? name
    else (s.modules pod).get? name

/-- An observable pod on which the adapter is not observed has not loaded it. -/
theorem not_loaded_of_not_observes (hkey : (s.apiKey adapter).isSome = true)
    (hobservable : s.observable pod = true) (h : ¬ s.Observes adapter pod) :
    (s.modules pod).get? adapter.adapterName = none := by
  cases hget : (s.modules pod).get? adapter.adapterName with
  | none => rfl
  | some module => exact absurd ⟨hobservable, hkey, by simp [Cluster.isLoaded, hget]⟩ h

theorem reconcileToDesiredState_obeys (hstored : s.adapters.get? adapter.name = some adapter)
    (hlive : adapter.deleting = false) (hplaced : s.placement runtime adapter ≠ []) :
    Ensures obeys Free (reconcileToDesiredState runtime adapter (s.registrations adapter)
      (s.placement runtime adapter)) s fun r s' =>
        ∀ adapter', r = .ok adapter' → Reconciled runtime adapter s adapter' s' ∧
          adapter'.status = adapter.status := by
  apply ensures_seq (loadMissing_obeys (currentMap adapter (s.registrations adapter))
    (s.placement runtime adapter) hstored hlive)
  · intro adapter₁ s₁ h
    have hloaded := h adapter₁ rfl
    apply ensures_seq (unloadExtra_obeys (s.placement runtime adapter)
      (runtime.range (currentMap adapter (s.registrations adapter)).entries))
    · rintro _ s' h
      have hunloaded := h rfl
      rintro _ ⟨⟩
      have hmissing (pod : NamespacedName) :
          (currentMap adapter (s.registrations adapter)).get? pod.key = none ↔
            ¬ s.Observes adapter pod := by
        rw [← currentMap_isSome_iff]
        simp
      have hkey : (s.apiKey adapter).isSome = true := by
        obtain ⟨pod, hpod⟩ := List.exists_mem_of_ne_nil _ hplaced
        by_cases hobserves : s.Observes adapter pod
        · exact hobserves.2.1
        · exact (hloaded.ready pod hpod ((hmissing pod).mpr hobserves)).2
      have hmoved : Moved adapter s adapter₁ s' := by
        rw [hunloaded.kept]
        exact ⟨hloaded.moved.pods, hloaded.moved.created, hloaded.moved.secrets,
          hloaded.moved.others, hloaded.moved.stored, hloaded.moved.core⟩
      refine ⟨⟨hmoved, hloaded.path, ?_, fun _ => hkey, ?_, ?_⟩, hloaded.status⟩
      · intro pod hpod
        by_cases hobserves : s.Observes adapter pod
        · exact hobserves.1
        · rw [Cluster.observable_of_mem_placement hpod]
          exact (hloaded.ready pod hpod ((hmissing pod).mpr hobserves)).1
      · intro hempty
        exact absurd hempty hplaced
      · intro _ pod name
        have hextra := exists_extra_iff s adapter runtime (s.placement runtime adapter) pod
        rw [hunloaded.modules pod name, hloaded.moved.adapterName,
          if_congr (and_congr_right fun _ => hextra) rfl rfl, hloaded.modules pod name,
          if_congr (and_congr_right fun _ => and_congr_right fun _ => hmissing pod) rfl rfl]
        by_cases hname : name = adapter.adapterName
        · subst hname
          by_cases hpod : pod ∈ s.placement runtime adapter
          · by_cases hobserves : s.Observes adapter pod
            · obtain ⟨module, hmodule⟩ := Option.isSome_iff_exists.mp hobserves.2.2
              simp [hpod, hobserves, hmodule]
            · simp [hpod, hobserves]
          · by_cases hobserves : s.Observes adapter pod
            · simp [hpod, hobserves, hobserves.1]
            · cases hobservable : s.observable pod with
              | true => simp [hpod, hobserves, not_loaded_of_not_observes hkey hobservable hobserves]
              | false => simp [hpod, hobserves]
        · simp [hname]
    · intro e s' _ adapter' h
      cases h
  · intro e s' _ adapter' h
    cases h

/-- If nothing needs to be done, the observation is the placement. -/
theorem reconciled_of_compareStates (hstored : s.adapters.get? adapter.name = some adapter)
    (hplaced : s.placement runtime adapter ≠ [])
    (h : compareStates (s.registrations adapter) (s.placement runtime adapter) = false) :
    Reconciled runtime adapter s adapter s := by
  have hperm := perm_of_compareStates Cluster.nodup_registrations h
  have hobserves (pod : NamespacedName) :
      pod ∈ s.placement runtime adapter ↔ s.Observes adapter pod := by
    rw [← hperm.mem_iff, ← Cluster.exists_registration_iff, List.mem_map]
  have hkey : (s.apiKey adapter).isSome = true := by
    obtain ⟨pod, hpod⟩ := List.exists_mem_of_ne_nil _ hplaced
    exact ((hobserves pod).mp hpod).2.1
  refine ⟨.refl hstored, fun _ => rfl, fun pod hpod => ((hobserves pod).mp hpod).1,
    fun _ => hkey, fun _ => rfl, ?_⟩
  intro _ pod name
  by_cases hname : name = adapter.adapterName
  · subst hname
    by_cases hpod : pod ∈ s.placement runtime adapter
    · obtain ⟨module, hmodule⟩ :=
        Option.isSome_iff_exists.mp ((hobserves pod).mp hpod).2.2
      simp [hpod, hmodule]
    · have hnot : ¬ s.Observes adapter pod := fun h => hpod ((hobserves pod).mpr h)
      cases hobservable : s.observable pod with
      | true => simp [hpod, not_loaded_of_not_observes hkey hobservable hnot]
      | false => simp [hpod]
  · simp [hname]

/-- The status may be written before and after. -/
theorem Reconciled.of_moved {s₁ s₂ s' : Cluster} {adapter₁ adapter₂ : LoraAdapter}
    (hfirst : Moved adapter s adapter₁ s₁) (hpath₁ : adapter₁.adapterPath = adapter.adapterPath)
    (hmodules₁ : s₁.modules = s.modules) (h : Reconciled runtime adapter₁ s₁ adapter₂ s₂)
    (hlast : Moved adapter₂ s₂ adapter' s') (hpath : adapter'.adapterPath = adapter₂.adapterPath)
    (hmodules' : s'.modules = s₂.modules) : Reconciled runtime adapter s adapter' s' := by
  have hplacement := hfirst.placement runtime
  have hobservable (pod : NamespacedName) : s₁.observable pod = s.observable pod := by
    unfold Cluster.observable
    rw [hfirst.pods]
  refine ⟨hfirst.trans (h.moved.trans hlast), ?_, ?_, ?_, ?_, ?_⟩
  · intro hgiven
    rw [hpath, h.path (by rw [hpath₁]; exact hgiven), hpath₁]
  · intro pod hpod
    rw [← hplacement] at hpod
    rw [← hobservable]
    exact h.seen pod hpod
  · intro hplaced
    rw [← hfirst.apiKey]
    exact h.key (by rw [hplacement]; exact hplaced)
  · intro hempty
    rw [hmodules', h.idle (hplacement.trans hempty), hmodules₁]
  · intro hplaced pod name
    rw [hmodules', h.modules (by rw [hplacement]; exact hplaced) pod name, hplacement, hobservable,
      hmodules₁, hpath, hfirst.adapterName, hfirst.name]

def waitingCondition (now : Int) : Condition :=
  ⟨"WaitingForPods", "True", now, "NoReadyPods", "Waiting for pods to become ready"⟩

/-- The status that a reconcile ends with, from the conditions that it found. -/
def Cluster.reported (s : Cluster) (runtime : Runtime) (adapter : LoraAdapter)
    (conditions : List Condition) : LoraAdapterStatus where
  loadedAdapters := if s.placement runtime adapter = [] then [] else s.registrations adapter
  conditions := conditions.filter (·.type ≠ "WaitingForPods") ++
    if s.placement runtime adapter = [] then [waitingCondition (runtime.now 2)] else []
  observedGeneration := adapter.generation

theorem setCondition_filter (condition : Condition) (conditions : List Condition) :
    setCondition condition (conditions.filter (·.type ≠ condition.type)) =
      conditions.filter (·.type ≠ condition.type) ++ [condition] := by
  induction conditions with
  | nil => rfl
  | cons first rest ih =>
    by_cases hfirst : first.type = condition.type
    · simp only [List.filter_cons, hfirst, ne_eq, not_true_eq_false, decide_false,
        Bool.false_eq_true, if_false]
      exact ih
    · simp only [List.filter_cons, hfirst, ne_eq, not_false_eq_true, decide_true, if_true,
        setCondition, if_false, List.cons_append]
      exact congrArg _ ih

theorem refreshStatus_obeys (hstored : s.adapters.get? adapter.name = some adapter) :
    Ensures obeys Free (refreshStatus adapter.name) s fun r s' => ∀ result, r = .ok result →
      ∃ adapter', Moved adapter s adapter' s' ∧ adapter'.adapterPath = adapter.adapterPath ∧
        s'.modules = s.modules ∧ adapter'.status = ⟨s.registrations adapter,
          adapter.status.conditions.filter (·.type ≠ "WaitingForPods"), adapter.generation⟩ := by
  apply ensures_call trivial
  rintro answer s₁ ⟨rfl, rfl⟩
  rw [hstored]
  apply ensures_seq (getAdapterRegistrations_obeys adapter)
  · rintro latest s₂ ⟨hlatest, rfl⟩
    cases hlatest
    apply ensures_seq (retryStatus_obeys _ _ 2 "" hstored)
    · rintro adapter' s' ⟨_, ⟨⟩, hmoved, hpath, hmodules, hstatus⟩ result _
      exact ⟨adapter', hmoved, hpath, hmodules, hstatus⟩
    · rintro e s' _ result h
      cases h
  · rintro e s' _ result h
    cases h

theorem reported_of_placed (h : s.placement runtime adapter ≠ []) :
    s.reported runtime adapter conditions = ⟨s.registrations adapter,
      conditions.filter (·.type ≠ "WaitingForPods"), adapter.generation⟩ := by
  simp only [Cluster.reported, if_neg h, List.append_nil]

theorem reported_of_empty (h : s.placement runtime adapter = []) :
    s.reported runtime adapter conditions = ⟨[], conditions.filter (·.type ≠ "WaitingForPods") ++
      [waitingCondition (runtime.now 2)], adapter.generation⟩ := by
  simp only [Cluster.reported, if_pos h]

theorem reconcileNormal_obeys (hstored : s.adapters.get? adapter.name = some adapter)
    (hlive : adapter.deleting = false) :
    Ensures obeys Free (reconcileNormal runtime adapter) s fun r s' => ∀ result, r = .ok result →
      ∃ adapter', Reconciled runtime adapter s adapter' s' ∧
        adapter'.status = s'.reported runtime adapter' adapter.status.conditions := by
  apply ensures_seq (getAdapterRegistrations_obeys adapter)
  · rintro current _ ⟨hcurrent, rfl⟩
    cases hcurrent
    apply ensures_seq (retryStatus_obeys _ _ 2 "" hstored)
    · rintro adapter₁ s₁ ⟨_, ⟨⟩, hmoved, hpath, hmodules, hstatus⟩
      have hplacement := hmoved.placement runtime
      have hconditions : adapter₁.status.conditions =
          adapter.status.conditions.filter (·.type ≠ "WaitingForPods") := by rw [hstatus]; rfl
      apply ensures_seq (getOptimalPlacement_obeys runtime _)
      · rintro _ s₁ ⟨⟨⟩, rfl⟩
        split
        · next hempty =>
            have hnil : s₁.placement runtime adapter₁ = [] := List.isEmpty_iff.mp hempty
            apply ensures_seq (retryStatus_obeys _ _ 2 "" hmoved.stored')
            · rintro adapter' s' ⟨_, ⟨⟩, hmoved', hpath', hmodules', hstatus'⟩ result _
              have hempty := hplacement.symm.trans hnil
              refine ⟨adapter', ⟨hmoved.trans hmoved', fun _ => hpath'.trans hpath, ?_,
                fun hplaced => absurd hempty hplaced, ?_, fun hplaced => absurd hempty hplaced⟩, ?_⟩
              · intro pod hpod
                rw [hempty] at hpod
                cases hpod
              · intro _
                rw [hmodules', hmodules]
              · rw [hstatus', if_neg]
                · rw [hconditions]
                  rw [reported_of_empty ((hmoved'.placement runtime).trans hnil), hmoved'.generation]
                  exact congrArg (LoraAdapterStatus.mk [] · _) (setCondition_filter _ _)
                · rw [hconditions, List.any_filter, List.any_eq_true]
                  rintro ⟨condition, -, hcondition⟩
                  simp only [Bool.and_eq_true, decide_eq_true_eq] at hcondition
                  exact hcondition.1 hcondition.2.1.1
            · rintro e s' _ result h
              cases h
        · next hplaced =>
            have hne : s₁.placement runtime adapter₁ ≠ [] := fun h => hplaced (by rw [h]; rfl)
            have hlive₁ : adapter₁.deleting = false := by rw [hmoved.deleting, hlive]
            rw [← hmoved.registrations hmodules]
            split
            · apply ensures_seq (reconcileToDesiredState_obeys hmoved.stored' hlive₁ hne)
              · intro adapter₂ s₂ h
                obtain ⟨hreconciled, hstatus₂⟩ := h adapter₂ rfl
                refine (refreshStatus_obeys hreconciled.moved.stored').imp ?_
                intro r s' h result hr
                obtain ⟨adapter', hmoved', hpath', hmodules', hstatus'⟩ := h result hr
                refine ⟨adapter',
                  .of_moved hmoved hpath hmodules hreconciled hmoved' hpath' hmodules', ?_⟩
                have hplaced' := (hreconciled.moved.trans hmoved').placement runtime
                rw [hstatus', reported_of_placed (by rw [hplaced']; exact hne),
                  hmoved'.registrations hmodules', hstatus₂, hconditions, List.filter_filter,
                  hmoved'.generation]
                simp
              · rintro e s' _ result h
                cases h
            · next hsame =>
                intro result _
                have hreconciled := reconciled_of_compareStates hmoved.stored' hne
                  (by simpa using hsame)
                refine ⟨adapter₁,
                  .of_moved hmoved hpath hmodules hreconciled (.refl hmoved.stored') rfl rfl, ?_⟩
                rw [reported_of_placed hne, hmoved.registrations hmodules, hstatus,
                  hmoved.generation]
                rfl
      · rintro e s' ⟨h, -⟩
        cases h
    · rintro e s' ⟨_, h, -⟩
      cases h
  · rintro e s' ⟨h, -⟩
    cases h

/-- A resource that is not being deleted and has its finalizer. -/
structure Settled (s : Cluster) (adapter : LoraAdapter) : Prop where
  stored : s.adapters.get? adapter.name = some adapter
  live : adapter.deleting = false
  finalizer : loraAdapterFinalizer ∈ adapter.finalizers

/-- What a run of `Reconcile` that returns without an error has done. -/
theorem reconciled_of_run {s' : Cluster} {result : Result} (h : Settled s adapter)
    (hrun : Prog.Reaches obeys (reconcile runtime adapter.name).run s (.ret (.ok result)) s') :
    ∃ adapter', Reconciled runtime adapter s adapter' s' ∧
      adapter'.status = s'.reported runtime adapter' adapter.status.conditions := by
  have hensures : Ensures obeys Free (reconcile runtime adapter.name) s fun r s' =>
      ∀ result, r = .ok result → ∃ adapter', Reconciled runtime adapter s adapter' s' ∧
        adapter'.status = s'.reported runtime adapter' adapter.status.conditions := by
    apply ensures_call trivial
    rintro answer s₁ ⟨rfl, rfl⟩
    rw [h.stored]
    have hfinalizer : adapter.containsFinalizer = true := by
      unfold LoraAdapter.containsFinalizer
      simpa using h.finalizer
    change Ensures obeys Free (if adapter.deleting then _ else if adapter.containsFinalizer then _
      else _) s₁ _
    rw [if_neg (by simp [h.live]), if_pos hfinalizer]
    exact reconcileNormal_obeys h.stored h.live
  exact hensures.returned hrun result rfl

/-! Convergence. -/

/-- The ready pods on which the adapter is loaded. -/
def LoadedReady (s : Cluster) (adapter : LoraAdapter) (pod : NamespacedName) : Prop :=
  (∃ p, s.pods.get? pod = some p ∧ p.ready = true) ∧ s.isLoaded pod adapter.adapterName = true

/-! Runs on a cluster that is given. -/

def anAdapter (name adapterName baseModel path : String) (replicas : Option Int) : LoraAdapter where
  name := ⟨"default", name, by decide⟩
  generation := 1
  finalizers := [loraAdapterFinalizer]
  deleting := false
  spec := ⟨⟨.localPath, adapterName, path, none, none⟩, baseModel, replicas, none⟩
  status := ⟨[], [], 0⟩

/-- The cluster after one run of `Reconcile`. -/
def afterReconcile (s : Cluster) (name : NamespacedName) : Cluster :=
  ((reconcile simpleRuntime name).run.interpret Cluster.answer s).2

theorem reaches_afterReconcile {run : Runtime} {name : NamespacedName}
    (h : ((reconcile run name).run.interpret Cluster.answer s).1.isOk = true) :
    ∃ result, Prog.Reaches obeys (reconcile run name).run s (.ret (.ok result))
      ((reconcile run name).run.interpret Cluster.answer s).2 := by
  have hrun := Prog.interpret_reaches obeys_answer (reconcile run name).run s
  cases hresult : ((reconcile run name).run.interpret Cluster.answer s).1 with
  | error e =>
    rw [hresult] at h
    cases h
  | ok result =>
    rw [hresult] at hrun
    exact ⟨result, hrun⟩

/-- After a reconcile without an error the adapter is loaded on the pods of its placement,
and on no other ready pod, exactly if every ready pod that had it loaded could be
observed and the placement is not empty. -/
theorem converges_iff {s' : Cluster} {result : Result} (h : Settled s adapter)
    (hrun : Prog.Reaches obeys (reconcile runtime adapter.name).run s (.ret (.ok result)) s') :
    (∀ pod, LoadedReady s' adapter pod ↔ pod ∈ s.placement runtime adapter) ↔
      ∀ pod, LoadedReady s adapter pod →
        s.observable pod = true ∧ s.placement runtime adapter ≠ [] := by
  obtain ⟨adapter', hreconciled, -⟩ := reconciled_of_run h hrun
  have hpods := hreconciled.moved.pods
  by_cases hplaced : s.placement runtime adapter = []
  · have hmodules := hreconciled.idle hplaced
    have hsame (pod : NamespacedName) : LoadedReady s' adapter pod ↔ LoadedReady s adapter pod := by
      unfold LoadedReady Cluster.isLoaded
      rw [hpods, hmodules]
    simp only [hsame, hplaced, List.not_mem_nil, iff_false, ne_eq, not_true_eq_false, and_false]
  · have hloaded (pod : NamespacedName) : s'.isLoaded pod adapter.adapterName =
        if pod ∈ s.placement runtime adapter then true
        else if s.observable pod then false else s.isLoaded pod adapter.adapterName := by
      unfold Cluster.isLoaded
      rw [hreconciled.modules hplaced pod adapter.adapterName, if_pos rfl]
      split
      · rfl
      · split <;> rfl
    have hready (pod : NamespacedName) (hpod : pod ∈ s.placement runtime adapter) :
        LoadedReady s' adapter pod := by
      obtain ⟨p, hget, hready, -⟩ := Cluster.mem_placement hpod
      refine ⟨⟨p, by rw [hpods]; exact hget, hready⟩, ?_⟩
      rw [hloaded, if_pos hpod]
    constructor
    · intro hconverged pod hpod
      refine ⟨?_, hplaced⟩
      by_contra hunobserved
      have hnot : pod ∉ s.placement runtime adapter := fun h =>
        hunobserved (hreconciled.seen pod h)
      have hstill : LoadedReady s' adapter pod := by
        refine ⟨by rw [hpods]; exact hpod.1, ?_⟩
        rw [hloaded, if_neg hnot, if_neg hunobserved]
        exact hpod.2
      exact hnot ((hconverged pod).mp hstill)
    · intro hobservable pod
      refine ⟨?_, hready pod⟩
      intro hpod
      by_contra hnot
      have hloaded' := hpod.2
      rw [hloaded, if_neg hnot] at hloaded'
      split at hloaded'
      · cases hloaded'
      · next hunobserved =>
          have hbefore : LoadedReady s adapter pod := ⟨by rw [← hpods]; exact hpod.1, hloaded'⟩
          exact hunobserved (hobservable pod hbefore).1

/-- A pod that serves `m`. -/
def engine : NamespacedName := ⟨"default", "engine", by decide⟩

/-- One pod and one adapter for it, with what the engine has loaded. -/
def engineCluster (adapter : LoraAdapter) (modules : Dict String Module) : Cluster :=
  clusterOf [(engine, readyPod "m")] (fun pod => if pod = engine then modules else Dict.empty)
    [adapter]

/-- The adapter is loaded on the only pod. -/
theorem converges_one_pod :
    let adapter := anAdapter "adapter" "a" "m" "/p" none
    let s := engineCluster adapter Dict.empty
    ∀ pod, LoadedReady (afterReconcile s adapter.name) adapter pod ↔
      pod ∈ s.placement simpleRuntime adapter := by
  intro adapter s
  have hsettled : Settled s adapter := ⟨rfl, rfl, List.mem_singleton_self _⟩
  obtain ⟨_, hrun⟩ : ∃ result, Prog.Reaches obeys (reconcile simpleRuntime adapter.name).run s
      (.ret (.ok result)) (afterReconcile s adapter.name) :=
    reaches_afterReconcile (by decide +kernel)
  apply (converges_iff hsettled hrun).mpr
  rintro pod ⟨-, hloaded⟩
  have hmodules : s.modules pod = Dict.empty := ite_self _
  rw [Cluster.isLoaded, hmodules] at hloaded
  cases hloaded

/-- With no replicas wanted an adapter that is loaded stays so. -/
theorem replicas_zero_keeps_loaded :
    let adapter := anAdapter "adapter" "a" "m" "/p" (some 0)
    let s := engineCluster adapter (Dict.empty.set "a" ⟨"/p", some adapter.name⟩)
    Settled s adapter ∧
      (∃ result, Prog.Reaches obeys (reconcile simpleRuntime adapter.name).run s
        (.ret (.ok result)) (afterReconcile s adapter.name)) ∧
      s.placement simpleRuntime adapter = [] ∧
      LoadedReady (afterReconcile s adapter.name) adapter engine := by
  intro adapter s
  have hready : ((afterReconcile s adapter.name).pods.get? engine).any Pod.ready = true := by
    decide +kernel
  refine ⟨⟨rfl, rfl, List.mem_singleton_self _⟩, reaches_afterReconcile ?_, ?_,
    (Option.any_eq_true _ _).mp hready, ?_⟩
  all_goals decide +kernel

/-- An engine keeps an adapter at the path that it loaded it from: after a reconcile the
pods of the placement have the path of the spec exactly if none of them had another one
before. -/
theorem path_applied_iff (h : Settled s adapter) (hplaced : s.placement runtime adapter ≠ [])
    (hrun : Prog.Reaches obeys (reconcile runtime adapter.name).run s (.ret (.ok result)) s')
    (hspec : s'.adapters.get? adapter.name = some adapter') :
    (adapter.adapterPath ≠ "" → adapter'.adapterPath = adapter.adapterPath) ∧
      ((∀ pod ∈ s.placement runtime adapter,
          ((s'.modules pod).get? adapter.adapterName).map Module.path
            = some adapter'.adapterPath) ↔
        ∀ pod ∈ s.placement runtime adapter, ∀ module,
          (s.modules pod).get? adapter.adapterName = some module →
            module.path = adapter'.adapterPath) := by
  obtain ⟨stored, hreconciled, -⟩ := reconciled_of_run h hrun
  have hsame : stored = adapter' :=
    Option.some.inj (hreconciled.moved.stored.symm.trans hspec)
  subst hsame
  refine ⟨hreconciled.path, forall₂_congr fun pod hpod => ?_⟩
  have hmodules := hreconciled.modules hplaced pod adapter.adapterName
  rw [if_pos rfl, if_pos hpod] at hmodules
  rw [hmodules, Option.map_some]
  cases (s.modules pod).get? adapter.adapterName with
  | none => simp
  | some module => simp

/-- An adapter that is loaded where it belongs, from where it should be. -/
theorem path_applied_one_pod :
    let adapter := anAdapter "adapter" "a" "m" "/p" none
    let s := engineCluster adapter Dict.empty
    ∀ pod ∈ s.placement simpleRuntime adapter,
      (((afterReconcile s adapter.name).modules pod).get? "a").map Module.path = some "/p" := by
  intro adapter s
  have hsettled : Settled s adapter := ⟨rfl, rfl, List.mem_singleton_self _⟩
  obtain ⟨_, hrun⟩ : ∃ result, Prog.Reaches obeys (reconcile simpleRuntime adapter.name).run s
      (.ret (.ok result)) (afterReconcile s adapter.name) :=
    reaches_afterReconcile (by decide +kernel)
  have hplaced : s.placement simpleRuntime adapter ≠ [] := by decide +kernel
  obtain ⟨adapter', hreconciled, -⟩ := reconciled_of_run hsettled hrun
  have happlied := path_applied_iff hsettled hplaced hrun hreconciled.moved.stored
  have hpath : adapter'.adapterPath = "/p" := happlied.1 (by decide)
  rw [← hpath]
  apply happlied.2.mpr
  intro pod _ module hmodule
  have hmodules : s.modules pod = Dict.empty := ite_self _
  rw [hmodules] at hmodule
  cases hmodule

/-- The path is edited after the adapter was loaded. The next reconcile returns without an
error, and the engine still has the adapter from the old path. -/
theorem edited_path_not_applied :
    let adapter := anAdapter "adapter" "a" "m" "/p1" none
    let edited := adapter.withPath "/p2"
    let s := (afterReconcile (engineCluster adapter Dict.empty) adapter.name).setAdapter edited
    Settled s edited ∧
      (∃ result, Prog.Reaches obeys (reconcile simpleRuntime edited.name).run s
        (.ret (.ok result)) (afterReconcile s edited.name)) ∧
      s.placement simpleRuntime edited = [engine] ∧
      (((afterReconcile s edited.name).modules engine).get? "a").map Module.path = some "/p1" := by
  intro adapter edited s
  have hstored : s.adapters.get? edited.name = some edited := by
    simp only [s, Cluster.setAdapter, Dict.get?_set, if_true]
  refine ⟨⟨hstored, rfl, List.mem_singleton_self _⟩, reaches_afterReconcile ?_, ?_, ?_⟩
  all_goals decide +kernel

end Reconcile

end ProductionStack.Operator

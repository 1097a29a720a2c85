import ProductionStack.Operator.Convergence

/-!
How the placement depends on the order in which the API lists the pods. They are sorted by
name only, so where pods of several namespaces have one name, the sort leaves open which of
them comes first.
-/

namespace ProductionStack.Operator

open Lib Go

/-- `getOptimalPlacement` may choose these pods. -/
def Cluster.Places (s : Cluster) (runtime : Runtime) (adapter : LoraAdapter)
    (placement : List NamespacedName) : Prop :=
  ∃ s', Prog.Reaches obeys (getOptimalPlacement runtime adapter).run s (.ret (.ok placement)) s'

/-- The names of the valid pods in order, with repetitions. -/
def Cluster.validNames (s : Cluster) (adapter : LoraAdapter) : List String :=
  ((s.validPods adapter).map (·.1.name)).insertionSort (· ≤ ·)

/-- How many of the valid pods are chosen. -/
def Cluster.numChosen (s : Cluster) (adapter : LoraAdapter) : Nat :=
  numPods adapter.spec.replicas (s.validPods adapter).length

section Order

variable {s s' : Cluster} {adapter : LoraAdapter} {runtime : Runtime}
  {placement : List NamespacedName}

theorem places_iff : s.Places runtime adapter placement ↔
    placement = s.placement runtime adapter := by
  constructor
  · rintro ⟨s', hrun⟩
    exact Except.ok.inj ((getOptimalPlacement_obeys runtime adapter).returned hrun).1
  · rintro rfl
    have hrun := Prog.interpret_reaches obeys_answer (getOptimalPlacement runtime adapter).run s
    have hresult := ((getOptimalPlacement_obeys runtime adapter).returned hrun).1
    rw [hresult] at hrun
    exact ⟨_, hrun⟩

theorem names_sortByName (runtime : Runtime) :
    (runtime.sortByName (s.validPods adapter)).map (·.1.name) = s.validNames adapter := by
  apply List.Perm.eq_of_pairwise' (r := (· ≤ ·))
  · exact List.pairwise_map.mpr (runtime.sortByName_sorted _)
  · exact List.pairwise_insertionSort _ _
  · exact ((runtime.sortByName_perm _).map _).trans (List.perm_insertionSort _ _).symm

/-- If no name is on both sides of the cut, the names decide which pods are chosen. -/
theorem mem_placement_iff (pod : NamespacedName)
    (hcut : ((s.validNames adapter).take (s.numChosen adapter)).Disjoint
      ((s.validNames adapter).drop (s.numChosen adapter))) :
    pod ∈ s.placement runtime adapter ↔ pod.name ∈ (s.validNames adapter).take (s.numChosen adapter) ∧
      ∃ entry ∈ s.validPods adapter, entry.1 = pod := by
  rw [placement_eq, List.mem_map, ← names_sortByName runtime, ← List.map_take]
  constructor
  · rintro ⟨entry, hentry, rfl⟩
    exact ⟨List.mem_map_of_mem hentry, entry,
      (runtime.sortByName_perm _).mem_iff.mp (List.mem_of_mem_take hentry), rfl⟩
  · rintro ⟨hname, entry, hentry, rfl⟩
    rw [← (runtime.sortByName_perm _).mem_iff, ← List.take_append_drop (s.numChosen adapter)
      (runtime.sortByName _), List.mem_append] at hentry
    rcases hentry with hentry | hentry
    · exact ⟨entry, hentry, rfl⟩
    · rw [← names_sortByName runtime, ← List.map_take, ← List.map_drop] at hcut
      exact absurd (List.mem_map_of_mem hentry) (hcut hname)

section Listed

variable (h : s'.pods.entries.Perm s.pods.entries)

include h

theorem validPods_perm : (s'.validPods adapter).Perm (s.validPods adapter) :=
  (h.filter _).filter _

theorem validNames_eq : s'.validNames adapter = s.validNames adapter := by
  apply List.Perm.eq_of_pairwise' (r := (· ≤ ·))
  · exact List.pairwise_insertionSort _ _
  · exact List.pairwise_insertionSort _ _
  · exact (List.perm_insertionSort _ _).trans
      (((validPods_perm h).map _).trans (List.perm_insertionSort _ _).symm)

theorem numChosen_eq : s'.numChosen adapter = s.numChosen adapter :=
  congrArg _ (validPods_perm h).length_eq

end Listed

/-- The cluster with its pods listed in another order. -/
def Cluster.relisted (s : Cluster) (entries : List (NamespacedName × Pod))
    (h : entries.Perm s.pods.entries) : Cluster :=
  { s with pods := ⟨entries, (h.map Prod.fst).nodup_iff.mpr s.pods.nodupKeys⟩ }

section Exchange

open Classical

variable {a b : NamespacedName × Pod}

/-- What is the same for both pods is the same after they have changed places. -/
theorem comp_swap {β : Type} (f : NamespacedName × Pod → β) (h : f a = f b) :
    f ∘ Equiv.swap a b = f := by
  funext x
  rw [Function.comp_apply, Equiv.swap_apply_def]
  split_ifs with hx hx
  · rw [hx, h]
  · rw [hx, h]
  · rfl

theorem perm_swap {l : List (NamespacedName × Pod)} (hnodup : l.Nodup) (ha : a ∈ l) (hb : b ∈ l) :
    (l.map (Equiv.swap a b)).Perm l := by
  refine (List.perm_ext_iff_of_nodup (hnodup.map (Equiv.swap a b).injective) hnodup).mpr ?_
  intro x
  rw [List.mem_map_of_involutive (Equiv.swap_apply_self a b)]
  exact iff_of_eq (congrFun (comp_swap (· ∈ l) (propext (iff_of_true ha hb))) x)

/-- The valid pods where two of them are listed in each other's place. -/
theorem validPods_swap (ha : a ∈ s.validPods adapter) (hb : b ∈ s.validPods adapter)
    (hperm : (s.pods.entries.map (Equiv.swap a b)).Perm s.pods.entries) :
    (s.relisted _ hperm).validPods adapter = (s.validPods adapter).map (Equiv.swap a b) := by
  obtain ⟨ha, hready⟩ := List.mem_filter.mp ha
  obtain ⟨hb, hready'⟩ := List.mem_filter.mp hb
  change ((s.pods.entries.map _).filter _).filter _ = _
  rw [List.filter_map, comp_swap _ ((List.mem_filter.mp ha).2.trans (List.mem_filter.mp hb).2.symm),
    List.filter_map, comp_swap _ (hready.trans hready'.symm)]
  rfl

/-- The stable sort keeps pods of one name in the order in which they are listed. -/
theorem placement_swap (ha : a ∈ s.validPods adapter) (hb : b ∈ s.validPods adapter)
    (hname : a.1.name = b.1.name)
    (hperm : (s.pods.entries.map (Equiv.swap a b)).Perm s.pods.entries) :
    (s.relisted _ hperm).placement simpleRuntime adapter =
      (((simpleRuntime.sortByName (s.validPods adapter)).take (s.numChosen adapter)).map
        (Equiv.swap a b)).map Prod.fst := by
  have hsort : simpleRuntime.sortByName ((s.validPods adapter).map (Equiv.swap a b)) =
      (simpleRuntime.sortByName (s.validPods adapter)).map (Equiv.swap a b) := by
    refine (List.map_insertionSort _ _ _ _ ?_).symm
    have hkept (x) : (Equiv.swap a b x).1.name = x.1.name :=
      congrFun (comp_swap (·.1.name) hname) x
    intro x _ y _
    rw [hkept, hkept]
  rw [placement_eq, validPods_swap ha hb, hsort, List.length_map, ← List.map_take]
  rfl

end Exchange

/-- Which pods are chosen is independent of the order in which they are listed, for every way
to sort them by name, exactly if the first pods that are chosen and the others have no name in
common. -/
theorem placement_order_independent_iff (s : Cluster) (adapter : LoraAdapter) :
    (∀ (runtime : Runtime) (s' : Cluster) (placement placement' : List NamespacedName),
      s'.pods.entries.Perm s.pods.entries → s.Places runtime adapter placement →
      s'.Places runtime adapter placement' → ∀ pod, pod ∈ placement ↔ pod ∈ placement') ↔
    ((s.validNames adapter).take (s.numChosen adapter)).Disjoint
      ((s.validNames adapter).drop (s.numChosen adapter)) := by
  classical
  constructor
  · intro h name htake hdrop
    -- A pod on each side of the cut has this name; they change places.
    rw [← names_sortByName simpleRuntime, ← List.map_take] at htake
    rw [← names_sortByName simpleRuntime, ← List.map_drop] at hdrop
    obtain ⟨a, ha, rfl⟩ := List.mem_map.mp htake
    obtain ⟨b, hb, hname⟩ := List.mem_map.mp hdrop
    have hsorted := simpleRuntime.sortByName_perm (s.validPods adapter)
    have hlisted {x} (hx : x ∈ s.validPods adapter) : x ∈ s.pods.entries :=
      List.mem_of_mem_filter (List.mem_of_mem_filter hx)
    have hentries : s.pods.entries.Nodup := s.pods.nodupKeys.of_map
    have hvalid := hsorted.mem_iff.mp (List.mem_of_mem_take ha)
    have hvalid' := hsorted.mem_iff.mp (List.mem_of_mem_drop hb)
    have hperm := perm_swap hentries (hlisted hvalid) (hlisted hvalid')
    have hsame := h simpleRuntime (s.relisted _ hperm) _ _ hperm (places_iff.mpr rfl)
      (places_iff.mpr rfl) a.1
    rw [placement_eq, placement_swap hvalid hvalid' hname.symm] at hsame
    obtain ⟨x, hx, hkey⟩ := List.mem_map.mp (hsame.mp (List.mem_map_of_mem ha))
    obtain ⟨y, hy, rfl⟩ := List.mem_map.mp hx
    have hmoved := hperm.mem_iff.mp (List.mem_map_of_mem
      (hlisted (hsorted.mem_iff.mp (List.mem_of_mem_take hy))))
    have hswap := List.inj_on_of_nodup_map s.pods.nodupKeys hmoved (hlisted hvalid) hkey
    rw [Equiv.swap_apply_eq_iff, Equiv.swap_apply_left] at hswap
    subst hswap
    have hnodup := hsorted.nodup_iff.mpr ((hentries.filter _).filter _)
    exact List.disjoint_take_drop hnodup (le_refl _) hy hb
  · intro hcut runtime s' placement placement' hperm hplaces hplaces' pod
    obtain rfl := places_iff.mp hplaces
    obtain rfl := places_iff.mp hplaces'
    rw [mem_placement_iff pod hcut, mem_placement_iff pod, validNames_eq hperm, numChosen_eq hperm]
    · simp only [(validPods_perm hperm).mem_iff]
    · rwa [validNames_eq hperm, numChosen_eq hperm]

end Order

def eastEngine : NamespacedName := ⟨"east", "engine", by decide⟩

def westEngine : NamespacedName := ⟨"west", "engine", by decide⟩

def clusterListing (pods : List NamespacedName) : Cluster :=
  clusterOf (pods.map fun pod => (pod, readyPod "m")) (fun _ => Dict.empty) []

/-- One replica, and a pod of the same name in each of two namespaces: the one that is listed
first is chosen. -/
theorem placement_follows_listing :
    let adapter := anAdapter "adapter" "a" "m" "/p" (some 1)
    (clusterListing [westEngine, eastEngine]).pods.entries.Perm
        (clusterListing [eastEngine, westEngine]).pods.entries ∧
      (clusterListing [eastEngine, westEngine]).Places simpleRuntime adapter [eastEngine] ∧
      (clusterListing [westEngine, eastEngine]).Places simpleRuntime adapter [westEngine] :=
  ⟨.swap _ _ _, places_iff.mpr (by decide +kernel), places_iff.mpr (by decide +kernel)⟩

end ProductionStack.Operator

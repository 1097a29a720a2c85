import ProductionStack.Operator.Convergence

/-!
Two resources in one cluster. A reconcile looks for its adapter on the pods of
every base model and knows it by its name alone, but places it on the pods of
one base model only; what it finds elsewhere it unloads. So two resources of
different base models spare each other as long as their adapters have different
names, or one of them has no pod to be on.
-/

namespace ProductionStack.Operator

open Lib Go

/-! One turn. -/

variable {runtime : Runtime} {pod : NamespacedName}

namespace Cluster

variable (s : Cluster)

/-- The adapter is loaded where it belongs. -/
def Placed (runtime : Runtime) (adapter : LoraAdapter) : Prop :=
  ∀ pod ∈ s.placement runtime adapter, s.isLoaded pod adapter.adapterName = true

/-- Nothing that a reconcile of `mine` unloads is on a pod where `other` belongs. -/
def Clear (runtime : Runtime) (mine other : LoraAdapter) : Prop :=
  s.placement runtime mine = [] ∨ ∀ pod ∈ s.placement runtime other,
    s.observable pod = true → s.isLoaded pod mine.adapterName = false

/-- The adapters have different names, or one of them belongs nowhere. -/
def Apart (runtime : Runtime) (a b : LoraAdapter) : Prop :=
  a.adapterName ≠ b.adapterName ∨ s.placement runtime a = [] ∨ s.placement runtime b = []

/-- They do not, and each belongs on pods that can be seen. -/
structure Rivals (runtime : Runtime) (a b : LoraAdapter) : Prop where
  together : ¬ s.Apart runtime a b
  first : ∀ pod ∈ s.placement runtime a, s.observable pod = true
  second : ∀ pod ∈ s.placement runtime b, s.observable pod = true

variable {s} {s' : Cluster} {a b : LoraAdapter}

theorem apart_comm : s.Apart runtime a b ↔ s.Apart runtime b a := by
  unfold Apart
  rw [ne_comm, @or_comm (s.placement runtime a = [])]

theorem placement_of_pods (h : s'.pods = s.pods) (adapter : LoraAdapter) :
    s'.placement runtime adapter = s.placement runtime adapter := by
  unfold placement validPods
  rw [h]

theorem observable_of_pods (h : s'.pods = s.pods) (pod : NamespacedName) :
    s'.observable pod = s.observable pod := by
  unfold observable
  rw [h]

theorem apart_of_pods (h : s'.pods = s.pods) : s'.Apart runtime a b ↔ s.Apart runtime a b := by
  unfold Apart
  rw [placement_of_pods h, placement_of_pods h]

theorem Rivals.symm (h : s.Rivals runtime a b) : s.Rivals runtime b a where
  together := by
    rw [apart_comm]
    exact h.together
  first := h.second
  second := h.first

theorem Rivals.of_pods (hpods : s'.pods = s.pods) (h : s.Rivals runtime a b) :
    s'.Rivals runtime a b where
  together := by
    rw [apart_of_pods hpods]
    exact h.together
  first := by
    simpa only [placement_of_pods hpods, observable_of_pods hpods] using h.first
  second := by
    simpa only [placement_of_pods hpods, observable_of_pods hpods] using h.second

/-- A pod is labelled with one base model. -/
theorem not_mem_placement (hmodels : a.spec.baseModel ≠ b.spec.baseModel)
    (h : pod ∈ s.placement runtime b) : pod ∉ s.placement runtime a := by
  intro hother
  obtain ⟨p, hget, -, hlabel⟩ := mem_placement h
  obtain ⟨p', hget', -, hlabel'⟩ := mem_placement hother
  rw [hget] at hget'
  cases hget'
  rw [hlabel] at hlabel'
  exact hmodels (Option.some.inj hlabel').symm

end Cluster

/-- What a reconcile of `mine` that returns without an error has done to the pods. -/
structure Turned (runtime : Runtime) (mine : LoraAdapter) (s s' : Cluster) : Prop where
  pods : s'.pods = s.pods
  seen : s.finalized mine.name = true → ∀ pod ∈ s.placement runtime mine, s.observable pod = true
  loaded : ∀ pod name, s'.isLoaded pod name = true ↔
    (s.finalized mine.name = true ∧ name = mine.adapterName ∧ pod ∈ s.placement runtime mine) ∨
      (s.isLoaded pod name = true ∧
        ¬ (s.finalized mine.name = true ∧ name = mine.adapterName ∧
          s.placement runtime mine ≠ [] ∧ pod ∉ s.placement runtime mine ∧
          s.observable pod = true))

namespace Turned

variable {mine other : LoraAdapter} {s s' : Cluster} (h : Turned runtime mine s s')

include h

theorem idle (hidle : s.finalized mine.name = false)
    (pod : NamespacedName) (name : String) : s'.isLoaded pod name = s.isLoaded pod name := by
  rw [Bool.eq_iff_iff, h.loaded]
  simp [hidle]

theorem placed_iff_of_idle (hidle : s.finalized mine.name = false)
    (adapter : LoraAdapter) : s'.Placed runtime adapter ↔ s.Placed runtime adapter := by
  unfold Cluster.Placed
  simp only [Cluster.placement_of_pods h.pods, h.idle hidle]

theorem places (hacts : s.finalized mine.name = true) : s'.Placed runtime mine := by
  intro pod hpod
  rw [Cluster.placement_of_pods h.pods] at hpod
  exact (h.loaded pod _).mpr (Or.inl ⟨hacts, rfl, hpod⟩)

/-- Adapters that are apart do not come into each other's way. -/
theorem clear_other_iff (hapart : s.Apart runtime mine other) :
    s'.Clear runtime other mine ↔ s.Clear runtime other mine := by
  unfold Cluster.Clear
  rw [Cluster.placement_of_pods h.pods, Cluster.placement_of_pods h.pods]
  rcases hapart with hnames | hmine | hother
  · refine or_congr_right (forall₂_congr fun pod hpod => ?_)
    have hsame : s'.isLoaded pod other.adapterName = s.isLoaded pod other.adapterName := by
      rw [Bool.eq_iff_iff, h.loaded]
      simp [hnames.symm]
    rw [Cluster.observable_of_pods h.pods, hsame]
  · simp [hmine]
  · simp [hother]

/-- Adapters of one name do: what one loads, the other would unload. -/
theorem not_clear_other (hacts : s.finalized mine.name = true)
    (hapart : ¬ s.Apart runtime mine other) : ¬ s'.Clear runtime other mine := by
  simp only [Cluster.Apart, not_or, not_not] at hapart
  obtain ⟨hnames, hmine, hother⟩ := hapart
  rintro (hempty | hclear)
  · rw [Cluster.placement_of_pods h.pods] at hempty
    exact hother hempty
  · obtain ⟨pod, hpod⟩ := List.exists_mem_of_ne_nil _ hmine
    have hobservable := h.seen hacts pod hpod
    rw [← Cluster.placement_of_pods h.pods] at hpod
    rw [← Cluster.observable_of_pods h.pods] at hobservable
    have hloaded := h.places hacts pod hpod
    rw [hnames, hclear pod hpod hobservable] at hloaded
    cases hloaded

section Other

variable (hmodels : mine.spec.baseModel ≠ other.spec.baseModel)
include hmodels

/-- On a pod where the other adapter belongs nothing is loaded. -/
theorem loaded_other (hacts : s.finalized mine.name = true)
    (hpod : pod ∈ s.placement runtime other) (name : String) :
    s'.isLoaded pod name = true ↔ s.isLoaded pod name = true ∧
      ¬ (name = mine.adapterName ∧ s.placement runtime mine ≠ [] ∧ s.observable pod = true) := by
  have hnot := Cluster.not_mem_placement hmodels hpod
  rw [h.loaded]
  simp [hacts, hnot]

/-- A reconcile unloads nothing where the other adapter belongs exactly if there is
nothing of its own there. -/
theorem spares_iff : (∀ pod ∈ s.placement runtime other, ∀ name, s.isLoaded pod name = true →
      s'.isLoaded pod name = true) ↔
        (s.finalized mine.name = true → s.Clear runtime mine other) := by
  cases hacts : s.finalized mine.name with
  | false =>
    refine iff_of_true ?_ nofun
    intro pod _ name hloaded
    rw [h.idle hacts]
    exact hloaded
  | true =>
    constructor
    · intro hspares _
      by_cases hplaced : s.placement runtime mine = []
      · exact Or.inl hplaced
      · refine Or.inr fun pod hpod hobservable => ?_
        by_contra hloaded
        have hkept := hspares pod hpod mine.adapterName (by simpa using hloaded)
        exact ((h.loaded_other hmodels hacts hpod _).mp hkept).2 ⟨rfl, hplaced, hobservable⟩
    · intro hclear pod hpod name hloaded
      refine (h.loaded_other hmodels hacts hpod name).mpr ⟨hloaded, ?_⟩
      rintro ⟨rfl, hplaced, hobservable⟩
      rcases hclear rfl with hempty | hclear
      · exact hplaced hempty
      · rw [hclear pod hpod hobservable] at hloaded
        cases hloaded

/-- Afterwards there is nothing left to unload. -/
theorem clear (hacts : s.finalized mine.name = true) : s'.Clear runtime mine other := by
  unfold Cluster.Clear
  rw [Cluster.placement_of_pods h.pods, Cluster.placement_of_pods h.pods]
  by_cases hplaced : s.placement runtime mine = []
  · exact Or.inl hplaced
  · refine Or.inr fun pod hpod hobservable => ?_
    rw [Cluster.observable_of_pods h.pods] at hobservable
    by_contra hloaded
    have hloaded := (h.loaded_other hmodels hacts hpod _).mp (by simpa using hloaded)
    exact hloaded.2 ⟨rfl, hplaced, hobservable⟩

theorem keeps (hapart : s.Apart runtime mine other)
    (hplaced : s.Placed runtime other) : s'.Placed runtime other := by
  intro pod hpod
  rw [Cluster.placement_of_pods h.pods] at hpod
  cases hacts : s.finalized mine.name with
  | false =>
    rw [h.idle hacts]
    exact hplaced pod hpod
  | true =>
    refine (h.loaded_other hmodels hacts hpod _).mpr ⟨hplaced pod hpod, ?_⟩
    rintro ⟨hname, hmine, -⟩
    rcases hapart with hnames | hempty | hempty
    · exact hnames hname.symm
    · exact hmine hempty
    · rw [hempty] at hpod
      cases hpod

theorem not_both_placed (hrivals : s.Rivals runtime mine other)
    (hstart : s.finalized mine.name = true ∨ ¬ (s.Placed runtime mine ∧ s.Placed runtime other)) :
    ¬ (s'.Placed runtime mine ∧ s'.Placed runtime other) := by
  cases hacts : s.finalized mine.name with
  | false =>
    rw [h.placed_iff_of_idle hacts, h.placed_iff_of_idle hacts]
    simpa [hacts] using hstart
  | true =>
    have htogether := hrivals.together
    simp only [Cluster.Apart, not_or, not_not] at htogether
    obtain ⟨hnames, hmine, hother⟩ := htogether
    rintro ⟨-, hplaced⟩
    obtain ⟨pod, hpod⟩ := List.exists_mem_of_ne_nil _ hother
    have hloaded := hplaced pod (by rw [Cluster.placement_of_pods h.pods]; exact hpod)
    have hkept := (h.loaded_other hmodels hacts hpod _).mp hloaded
    exact hkept.2 ⟨hnames.symm, hmine, hrivals.second pod hpod⟩

end Other

end Turned

/-- The stored resource is `adapter` up to what a reconcile writes, and is not being
deleted. -/
structure Live (s : Cluster) (adapter stored : LoraAdapter) : Prop where
  get : s.adapters.get? adapter.name = some stored
  deleting : stored.deleting = false
  adapterName : stored.adapterName = adapter.adapterName
  baseModel : stored.spec.baseModel = adapter.spec.baseModel
  replicas : stored.spec.replicas = adapter.spec.replicas

namespace Live

variable {s s' : Cluster} {adapter stored stored' : LoraAdapter} (h : Live s adapter stored)

include h

theorem name : stored.name = adapter.name := s.named _ _ h.get

theorem placement (runtime : Runtime) :
    s.placement runtime stored = s.placement runtime adapter := by
  unfold Cluster.placement Cluster.validPods
  rw [h.baseModel, h.replicas]

theorem finalized : s.finalized adapter.name = stored.containsFinalizer := by
  simp [Cluster.finalized, h.get]

theorem of_moved (hmoved : Moved stored s stored' s') : Live s' adapter stored' where
  get := by
    rw [← h.name]
    exact hmoved.stored
  deleting := hmoved.deleting.trans h.deleting
  adapterName := hmoved.adapterName.trans h.adapterName
  baseModel := hmoved.baseModel.trans h.baseModel
  replicas := hmoved.replicas.trans h.replicas

/-- Two resources of different base models are two. -/
theorem ne_of_baseModel {other stored₂ : LoraAdapter}
    (h₂ : Live s other stored₂) (hmodels : adapter.spec.baseModel ≠ other.spec.baseModel) :
    other.name ≠ adapter.name := by
  intro hname
  have hget := h₂.get
  rw [hname, h.get] at hget
  cases hget
  exact hmodels (h.baseModel.symm.trans h₂.baseModel)

end Live

/-- `Reconcile` runs and returns without an error. In every run maps are ranged over in
another order, and the same list is sorted in the same way. -/
def Reconciles (runtime : Runtime) (name : NamespacedName) (s s' : Cluster) : Prop :=
  ∃ (run : Runtime) (result : Result), run.sortByName = runtime.sortByName ∧
    Prog.Reaches obeys (reconcile run name).run s (.ret (.ok result)) s'

theorem placement_of_sortByName {run : Runtime}
    (h : run.sortByName = runtime.sortByName) (s : Cluster) (adapter : LoraAdapter) :
    s.placement run adapter = s.placement runtime adapter := by
  unfold Cluster.placement
  rw [h]

section Turn

variable {s s' : Cluster} {adapter stored : LoraAdapter}

/-- A resource without the finalizer gets it, and nothing else happens. -/
theorem finalizer_added {result : Result} (hget : s.adapters.get? adapter.name = some adapter)
    (hlive : adapter.deleting = false) (hfinalizer : adapter.containsFinalizer = false)
    (hrun : Prog.Reaches obeys (reconcile runtime adapter.name).run s (.ret (.ok result)) s') :
    s' = s.setAdapter adapter.addFinalizer := by
  have hensures : Ensures obeys Free (reconcile runtime adapter.name) s fun r s' =>
      ∀ result, r = .ok result → s' = s.setAdapter adapter.addFinalizer := by
    apply ensures_call trivial
    rintro answer s₁ ⟨rfl, rfl⟩
    rw [hget]
    change Ensures obeys Free (if adapter.deleting then _ else if adapter.containsFinalizer then _
      else _) s₁ _
    rw [if_neg (by simp [hlive]), if_neg (by simp [hfinalizer])]
    apply ensures_call trivial
    intro answer s₂ hstep
    have hupdate : s₁.update adapter.addFinalizer =
        (.ok (), s₁.setAdapter adapter.addFinalizer) := by
      have hadded : adapter.addFinalizer = { adapter with
          finalizers := adapter.finalizers ++ [loraAdapterFinalizer] } := by
        simp [LoraAdapter.addFinalizer, hfinalizer]
      rw [hadded]
      simp [Cluster.update, hget, hlive]
    obtain ⟨rfl, rfl⟩ := Prod.mk.inj (hstep.trans hupdate)
    rintro result _
    rfl
  exact hensures.returned hrun result rfl

theorem Reconciled.turned {run : Runtime} {stored' : LoraAdapter}
    (hsort : run.sortByName = runtime.sortByName) (hlive : Live s adapter stored)
    (h : Reconciled run stored s stored' s') (hfinalized : s.finalized adapter.name = true) :
    Turned runtime adapter s s' := by
  have hplacement : s.placement run stored = s.placement runtime adapter :=
    (hlive.placement run).trans (placement_of_sortByName hsort s adapter)
  refine ⟨h.moved.pods, ?_, ?_⟩
  · intro _ pod hpod
    rw [← hplacement] at hpod
    exact h.seen pod hpod
  · intro pod name
    unfold Cluster.isLoaded
    by_cases hplaced : s.placement runtime adapter = []
    · rw [h.idle (hplacement.trans hplaced)]
      simp [hplaced]
    · rw [h.modules (by rw [hplacement]; exact hplaced), hplacement, hlive.adapterName]
      by_cases hname : name = adapter.adapterName
      · by_cases hpod : pod ∈ s.placement runtime adapter
        · simp [hname, hpod, hfinalized]
        · by_cases hobservable : s.observable pod = true
          · simp [hname, hpod, hplaced, hfinalized, hobservable]
          · simp [hname, hpod, hobservable]
      · simp [hname]

/-- What a reconcile does, to the pods and to the resources. -/
theorem turned_of_reconciles (h : Live s adapter stored)
    (hrun : Reconciles runtime adapter.name s s') :
    Turned runtime adapter s s' ∧ (∃ stored', Live s' adapter stored') ∧
      ∀ name, name ≠ adapter.name → s'.adapters.get? name = s.adapters.get? name := by
  obtain ⟨run, result, hsort, hrun⟩ := hrun
  have hget := h.get
  rw [← h.name] at hrun hget ⊢
  cases hfinalizer : stored.containsFinalizer with
  | true =>
    have hsettled : Settled s stored :=
      ⟨hget, h.deleting, by simpa [LoraAdapter.containsFinalizer] using hfinalizer⟩
    obtain ⟨stored', hreconciled, -⟩ := reconciled_of_run hsettled hrun
    have hturned := hreconciled.turned hsort h (h.finalized.trans hfinalizer)
    exact ⟨hturned, ⟨stored', h.of_moved hreconciled.moved⟩, hreconciled.moved.others⟩
  | false =>
    have hadded := finalizer_added hget h.deleting hfinalizer hrun
    have hfinalized : s.finalized adapter.name = false := h.finalized.trans hfinalizer
    subst hadded
    refine ⟨⟨rfl, ?_, ?_⟩, ⟨stored.addFinalizer, ?_⟩, ?_⟩
    · intro hacts
      rw [hfinalized] at hacts
      cases hacts
    · intro pod name
      rw [hfinalized]
      simp [Cluster.isLoaded, Cluster.setAdapter]
    · unfold LoraAdapter.addFinalizer
      rw [if_neg (by simp [hfinalizer])]
      refine ⟨?_, h.deleting, h.adapterName, h.baseModel, h.replicas⟩
      rw [← h.name]
      exact Dict.get?_set_self _ _ _
    · intro name hname
      rw [← stored.addFinalizer_name] at hname
      exact Dict.get?_set_of_ne _ _ hname

end Turn

/-! Any number of turns. -/

/-- A reconcile of `mine` in the presence of `other`. -/
structure Turn where
  mine : LoraAdapter
  other : LoraAdapter
  before : Cluster
  after : Cluster

/-- Nothing is unloaded from a pod in the placement of the other resource. -/
def Turn.Spares (runtime : Runtime) (turn : Turn) : Prop :=
  ∀ pod ∈ turn.before.placement runtime turn.other, ∀ name,
    turn.before.isLoaded pod name = true → turn.after.isLoaded pod name = true

/-- The two resources are reconciled in any order, any number of times. -/
inductive Schedule (runtime : Runtime) (a b : LoraAdapter) : Cluster → List Turn → Cluster → Prop
  | done (s : Cluster) : Schedule runtime a b s [] s
  | first {s s₁ t : Cluster} {turns : List Turn} (hrun : Reconciles runtime a.name s s₁)
      (hrest : Schedule runtime a b s₁ turns t) : Schedule runtime a b s (⟨a, b, s, s₁⟩ :: turns) t
  | second {s s₁ t : Cluster} {turns : List Turn} (hrun : Reconciles runtime b.name s s₁)
      (hrest : Schedule runtime a b s₁ turns t) : Schedule runtime a b s (⟨b, a, s, s₁⟩ :: turns) t

variable {turns : List Turn}

theorem Schedule.symm {a b : LoraAdapter} {s t : Cluster}
    (h : Schedule runtime a b s turns t) : Schedule runtime b a s turns t := by
  induction h with
  | done s => exact .done s
  | first hrun _ ih => exact .second hrun ih
  | second hrun _ ih => exact .first hrun ih

/-- The resource is reconciled when it has its finalizer. -/
def Acts (adapter : LoraAdapter) (turns : List Turn) : Prop :=
  ∃ turn ∈ turns, turn.mine = adapter ∧ turn.before.finalized adapter.name = true

section Schedule

variable {a b mine other : LoraAdapter} {s s₁ t : Cluster} {turns : List Turn}

theorem acts_cons (h : other ≠ mine) (turn : Turn) (turns : List Turn) (hturn : turn.mine = mine) :
    (Acts mine (turn :: turns) ↔ turn.before.finalized mine.name = true ∨ Acts mine turns) ∧
      (Acts other (turn :: turns) ↔ Acts other turns) := by
  subst hturn
  simp [Acts, h.symm]

/-- The induction step of the first result, whichever resource has the turn. -/
theorem spares_cons (hmodels : mine.spec.baseModel ≠ other.spec.baseModel)
    (hturn : Turned runtime mine s s₁) {rest : Prop}
    (hrest : rest ↔ (Acts mine turns → s₁.Clear runtime mine other) ∧
      (Acts other turns → s₁.Clear runtime other mine) ∧
      (Acts mine turns → Acts other turns → s₁.Apart runtime mine other)) :
    (Turn.Spares runtime ⟨mine, other, s, s₁⟩ ∧ rest) ↔
      (Acts mine (⟨mine, other, s, s₁⟩ :: turns) → s.Clear runtime mine other) ∧
      (Acts other (⟨mine, other, s, s₁⟩ :: turns) → s.Clear runtime other mine) ∧
      (Acts mine (⟨mine, other, s, s₁⟩ :: turns) → Acts other (⟨mine, other, s, s₁⟩ :: turns) →
        s.Apart runtime mine other) := by
  have hne : other ≠ mine := by
    rintro rfl
    exact hmodels rfl
  obtain ⟨hmine, hother⟩ := acts_cons hne ⟨mine, other, s, s₁⟩ turns rfl
  rw [hmine, hother, hrest, Cluster.apart_of_pods hturn.pods]
  unfold Turn.Spares
  rw [hturn.spares_iff hmodels]
  cases hacts : s.finalized mine.name with
  | false =>
    have hclear (x y : LoraAdapter) : s₁.Clear runtime x y ↔ s.Clear runtime x y := by
      unfold Cluster.Clear
      simp only [Cluster.placement_of_pods hturn.pods, Cluster.observable_of_pods hturn.pods,
        hturn.idle hacts]
    rw [hclear, hclear]
    simp
  | true =>
    have hcleared := hturn.clear hmodels hacts
    by_cases hapart : s.Apart runtime mine other
    · rw [hturn.clear_other_iff hapart]
      simp [hcleared, hapart]
    · have hnot := hturn.not_clear_other hacts hapart
      by_cases hactsOther : Acts other turns
      · simp [hapart, hnot, hactsOther]
      · simp [hcleared, hactsOther]

/-- Both resources are there, and are not being deleted. -/
def BothLive (s : Cluster) (a b : LoraAdapter) : Prop :=
  (∃ stored, Live s a stored) ∧ ∃ stored, Live s b stored

theorem BothLive.symm (h : BothLive s a b) : BothLive s b a := ⟨h.2, h.1⟩

theorem BothLive.turn (h : BothLive s mine other)
    (hmodels : mine.spec.baseModel ≠ other.spec.baseModel)
    (hrun : Reconciles runtime mine.name s s₁) :
    Turned runtime mine s s₁ ∧ BothLive s₁ mine other := by
  obtain ⟨⟨stored, hmine⟩, ⟨stored₂, hother⟩⟩ := h
  obtain ⟨hturned, hlive, hothers⟩ := turned_of_reconciles hmine hrun
  refine ⟨hturned, hlive, stored₂, ?_⟩
  have hget := hothers _ (hmine.ne_of_baseModel hother hmodels)
  exact ⟨hget.trans hother.get, hother.deleting, hother.adapterName, hother.baseModel,
    hother.replicas⟩

variable (hmodels : a.spec.baseModel ≠ b.spec.baseModel)
include hmodels

section Seen

variable (h : Schedule runtime a b s turns t)

include h

/-- When all turns of a schedule spare the other resource. -/
theorem Schedule.spares_iff (hlive : BothLive s a b) :
    (∀ turn ∈ turns, turn.Spares runtime) ↔
      (Acts a turns → s.Clear runtime a b) ∧ (Acts b turns → s.Clear runtime b a) ∧
        (Acts a turns → Acts b turns → s.Apart runtime a b) := by
  induction h with
  | done s => simp [Acts]
  | first hrun _ ih =>
    obtain ⟨hturned, hlive₁⟩ := hlive.turn hmodels hrun
    rw [List.forall_mem_cons]
    exact spares_cons hmodels hturned (ih hlive₁)
  | second hrun _ ih =>
    obtain ⟨hturned, hlive₁⟩ := hlive.symm.turn hmodels.symm hrun
    have hrest := ih hlive₁.symm
    rw [List.forall_mem_cons]
    rw [and_left_comm, @forall_comm (Acts a _), @Cluster.apart_comm _ _ a b] at hrest
    rw [and_left_comm, @forall_comm (Acts a _), @Cluster.apart_comm _ _ a b]
    exact spares_cons hmodels.symm hturned hrest

/-- A resource that was reconciled has pods that can be seen. -/
theorem Schedule.seen (hlive : BothLive s a b)
    (hacts : Acts a turns) : ∀ pod ∈ s.placement runtime a, s.observable pod = true := by
  have hne : b ≠ a := by
    rintro rfl
    exact hmodels rfl
  induction h with
  | done s =>
    obtain ⟨_, hmem, -⟩ := hacts
    cases hmem
  | first hrun _ ih =>
    obtain ⟨hturned, hlive₁⟩ := hlive.turn hmodels hrun
    rcases (acts_cons hne _ _ rfl).1.mp hacts with hnow | hlater
    · exact hturned.seen hnow
    · have hseen := ih hlive₁ hlater
      simpa only [Cluster.placement_of_pods hturned.pods,
        Cluster.observable_of_pods hturned.pods] using hseen
  | second hrun _ ih =>
    obtain ⟨hturned, hlive₁⟩ := hlive.symm.turn hmodels.symm hrun
    have hseen := ih hlive₁.symm ((acts_cons hne.symm _ _ rfl).2.mp hacts)
    simpa only [Cluster.placement_of_pods hturned.pods,
      Cluster.observable_of_pods hturned.pods] using hseen

/-- What is loaded where it belongs stays so if the adapters are apart. -/
theorem Schedule.placed (hlive : BothLive s a b)
    (hapart : s.Apart runtime a b) (hplaced : s.Placed runtime a ∨ Acts a turns) :
    t.Placed runtime a := by
  have hne : b ≠ a := by
    rintro rfl
    exact hmodels rfl
  induction h with
  | done s =>
    rcases hplaced with hplaced | ⟨_, hmem, -⟩
    · exact hplaced
    · cases hmem
  | @first s s₁ t turns hrun _ ih =>
    obtain ⟨hturned, hlive₁⟩ := hlive.turn hmodels hrun
    apply ih hlive₁ ((Cluster.apart_of_pods hturned.pods).mpr hapart)
    rw [(acts_cons hne _ _ rfl).1, ← or_assoc] at hplaced
    apply hplaced.imp_left
    intro hplaced
    cases hfinalized : s.finalized a.name with
    | true => exact hturned.places hfinalized
    | false =>
      apply (hturned.placed_iff_of_idle hfinalized a).mpr
      simpa [hfinalized] using hplaced
  | second hrun _ ih =>
    obtain ⟨hturned, hlive₁⟩ := hlive.symm.turn hmodels.symm hrun
    apply ih hlive₁.symm ((Cluster.apart_of_pods hturned.pods).mpr hapart)
    rw [(acts_cons hne.symm _ _ rfl).2] at hplaced
    exact hplaced.imp_left (hturned.keeps hmodels.symm (Cluster.apart_comm.mp hapart))

/-- Otherwise every turn takes from one of the two what it had. -/
theorem Schedule.not_both_placed (hlive : BothLive s a b) (hrivals : s.Rivals runtime a b)
    (hstart : Acts a turns ∨ ¬ (s.Placed runtime a ∧ s.Placed runtime b)) :
    ¬ (t.Placed runtime a ∧ t.Placed runtime b) := by
  have hne : b ≠ a := by
    rintro rfl
    exact hmodels rfl
  induction h with
  | done s =>
    rcases hstart with ⟨_, hmem, -⟩ | hstart
    · cases hmem
    · exact hstart
  | first hrun _ ih =>
    obtain ⟨hturned, hlive₁⟩ := hlive.turn hmodels hrun
    apply ih hlive₁ (hrivals.of_pods hturned.pods)
    rw [(acts_cons hne _ _ rfl).1, or_assoc, or_left_comm] at hstart
    exact hstart.imp_right (hturned.not_both_placed hmodels hrivals)
  | second hrun _ ih =>
    obtain ⟨hturned, hlive₁⟩ := hlive.symm.turn hmodels.symm hrun
    apply ih hlive₁.symm (hrivals.of_pods hturned.pods)
    rw [(acts_cons hne.symm _ _ rfl).2] at hstart
    apply hstart.imp_right
    rw [and_comm, and_comm (a := Cluster.Placed _ _ a)]
    exact fun h => hturned.not_both_placed hmodels.symm hrivals.symm (Or.inr h)

end Seen

/-- Two resources of different base models, reconciled in any order any number of times.
No reconcile unloads anything where the other adapter belongs, and both adapters end up
where they belong once both were reconciled, exactly if at the start neither is found where
the other belongs, and they have different names or one of them belongs nowhere. That
both end up where they belong depends on the latter alone. -/
theorem coexistence_iff (hlive : BothLive s a b) (h : Schedule runtime a b s turns t) :
    (((∀ turn ∈ turns, turn.Spares runtime) ∧
        (Acts a turns → Acts b turns → t.Placed runtime a ∧ t.Placed runtime b)) ↔
      (Acts a turns → s.Clear runtime a b) ∧ (Acts b turns → s.Clear runtime b a) ∧
        (Acts a turns → Acts b turns → s.Apart runtime a b)) ∧
    (Acts a turns → Acts b turns →
      (t.Placed runtime a ∧ t.Placed runtime b ↔ s.Apart runtime a b)) := by
  have hplaced (ha : Acts a turns) (hb : Acts b turns) :
      t.Placed runtime a ∧ t.Placed runtime b ↔ s.Apart runtime a b := by
    constructor
    · intro hboth
      by_contra hapart
      have hrivals : s.Rivals runtime a b :=
        ⟨hapart, h.seen hmodels hlive ha, h.symm.seen hmodels.symm hlive.symm hb⟩
      exact h.not_both_placed hmodels hlive hrivals (Or.inl ha) hboth
    · intro hapart
      exact ⟨h.placed hmodels hlive hapart (Or.inr ha),
        h.symm.placed hmodels.symm hlive.symm (Cluster.apart_comm.mp hapart) (Or.inr hb)⟩
  refine ⟨?_, hplaced⟩
  rw [h.spares_iff hmodels hlive]
  constructor
  · exact And.left
  · intro hcond
    exact ⟨hcond, fun ha hb => (hplaced ha hb).mpr (hcond.2.2 ha hb)⟩

omit hmodels

theorem unslashed_default : '/' ∉ "default".toList := by decide

/-- Two pods that serve different base models. -/
def engine₁ : NamespacedName := ⟨"default", "engine-1", unslashed_default⟩

def engine₂ : NamespacedName := ⟨"default", "engine-2", unslashed_default⟩

/-- A resource for each of them. -/
def twoCluster (a b : LoraAdapter) : Cluster :=
  clusterOf [(engine₁, readyPod "m1"), (engine₂, readyPod "m2")] (fun _ => Dict.empty) [a, b]

theorem reconciles_afterReconcile {name : NamespacedName}
    (h : ((reconcile simpleRuntime name).run.interpret Cluster.answer s).1.isOk = true) :
    Reconciles simpleRuntime name s (afterReconcile s name) := by
  obtain ⟨result, hrun⟩ := reaches_afterReconcile h
  exact ⟨simpleRuntime, result, rfl, hrun⟩

/-- Adapters of different names end up on their pods. -/
theorem coexistence_two_pods :
    let a := anAdapter "first" "a" "m1" "/p1" none
    let b := anAdapter "second" "b" "m2" "/p2" none
    let s := twoCluster a b
    let t := afterReconcile (afterReconcile s a.name) b.name
    t.Placed simpleRuntime a ∧ t.Placed simpleRuntime b := by
  intro a b s t
  have hlive : BothLive s a b :=
    ⟨⟨a, rfl, rfl, rfl, rfl, rfl⟩, ⟨b, rfl, rfl, rfl, rfl, rfl⟩⟩
  have hschedule : Schedule simpleRuntime a b s
      [⟨a, b, s, afterReconcile s a.name⟩, ⟨b, a, afterReconcile s a.name, t⟩] t :=
    .first (reconciles_afterReconcile (by decide +kernel))
      (.second (reconciles_afterReconcile (by decide +kernel)) (.done t))
  have ha : Acts a [⟨a, b, s, afterReconcile s a.name⟩, ⟨b, a, afterReconcile s a.name, t⟩] :=
    ⟨_, List.mem_cons_self, rfl, rfl⟩
  have hb : Acts b [⟨a, b, s, afterReconcile s a.name⟩, ⟨b, a, afterReconcile s a.name, t⟩] :=
    ⟨_, List.mem_cons_of_mem _ List.mem_cons_self, rfl, by decide +kernel⟩
  exact ((coexistence_iff (by decide) hlive hschedule).2 ha hb).mpr (Or.inl (by decide))

/-- Adapters of one name: the second reconcile unloads what the first has loaded. -/
theorem same_name_unloads_other :
    let a := anAdapter "first" "a" "m1" "/p1" none
    let b := anAdapter "second" "a" "m2" "/p2" none
    let s := twoCluster a b
    let s₁ := afterReconcile s a.name
    let t := afterReconcile s₁ b.name
    a.spec.baseModel ≠ b.spec.baseModel ∧ BothLive s a b ∧
      Schedule simpleRuntime a b s [⟨a, b, s, s₁⟩, ⟨b, a, s₁, t⟩] t ∧
      s₁.placement simpleRuntime a = [engine₁] ∧
      s₁.isLoaded engine₁ "a" = true ∧ t.isLoaded engine₁ "a" = false := by
  intro a b s s₁ t
  refine ⟨by decide, ⟨⟨a, rfl, rfl, rfl, rfl, rfl⟩, ⟨b, rfl, rfl, rfl, rfl, rfl⟩⟩,
    .first (reconciles_afterReconcile ?_) (.second (reconciles_afterReconcile ?_) (.done t)),
    ?_, ?_, ?_⟩
  all_goals decide +kernel

end Schedule

end ProductionStack.Operator

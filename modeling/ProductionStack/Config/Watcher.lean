import ProductionStack.Config.Startup

/-!
The watcher of the configuration file. A tick reads the file and, if it differs
from the recorded configuration, replaces service discovery, the router and the
callbacks one after the other. A failure in between is logged, and what was
replaced before it stays replaced.
-/

namespace ProductionStack.Config

open Lib Python

/-- What is around the router during a tick. `closeDiscovery` and `closeRouter` are
what closing the old objects comes to. -/
structure TickSurroundings where
  kube : KubeClient
  closeDiscovery : Except PyExc Unit
  closeRouter : Except PyExc Unit
  routers : RouterSurroundings
  importCallbacks : String → Except PyExc Nat

/-- Statements on the process. What they have changed stays when they raise. -/
abbrev Act := ExceptT PyExc (StateM Process)

def allocate {α : Type} (value : α) : Act (Instance α) := do
  let p ← get
  set { p with created := p.created + 1 }
  pure ⟨p.created, value⟩

def ofExcept {α : Type} : Except PyExc α → Act α
  | .ok a => pure a
  | .error e => throw e

/-- The classes in the order in which `cleanup_routing_logic` and `get_routing_logic`
go through them. -/
def routerClasses : List RoutingLogic :=
  [.sessionBased, .roundRobin, .kvaware, .loadaware, .prefixaware, .disaggregatedPrefill,
    .disaggregatedPrefillOrchestrated, .priority]

theorem mem_routerClasses (logic : RoutingLogic) : logic ∈ routerClasses := by
  cases logic <;> decide

/-- Only the routers with an LMCache controller have a `close`. -/
def hasClose : RoutingLogic → Bool
  | .kvaware | .loadaware => true
  | _ => false

namespace TickSurroundings

variable (around : TickSurroundings)

/-- `_global_service_discovery.close()`. Its first statement stops the object; there
is nothing to stop without engines. -/
def closeActive : Act Unit := do
  let p ← get
  match p.discovery.value with
  | .externalOnly => pure ()
  | _ => do
      set { p with closed := true }
      ofExcept around.closeDiscovery

def reconfigureServiceDiscovery (config : DynamicRouterConfig) : Act Unit := do
  let discovery ← ofExcept (createAtReload around.kube config)
  let created ← allocate discovery
  around.closeActive
  modify fun p => { p with discovery := created, closed := false }

def cleanupClass (logic : RoutingLogic) : Act Unit := do
  let p ← get
  if logic ∈ p.registry then
    if hasClose logic then ofExcept around.closeRouter
    modify fun p => { p with registry := p.registry.erase logic }

def cleanupRoutingLogic : Act Unit := routerClasses.forM around.cleanupClass

/-- A singleton that is there already is returned as it is, apart from the number of
reroute attempts. -/
def initializeRoutingLogic (a : RoutingArguments) (routingLogic : Value) :
    Act (Instance Router) := do
  match RoutingLogic.of routingLogic with
  | none => throw (.new .valueError "Invalid routing logic")
  | some logic =>
    let p ← get
    match p.registry.get? logic with
    | some existing =>
      let reroutes := (a.reroutes logic).or existing.value.maxInstanceFailoverRerouteAttempts
      let router : Instance Router := ⟨existing.id, ⟨existing.value.state, reroutes⟩⟩
      set { p with
        registry := p.registry.set logic router
        router := if p.router.id = router.id then router else p.router }
      pure router
    | none =>
      let state ← ofExcept (a.create around.routers logic)
      let router ← allocate ⟨state, a.reroutes logic⟩
      modify fun p => { p with registry := p.registry.set logic router }
      pure router

def reconfigureRoutingLogic (config : DynamicRouterConfig) : Act Unit := do
  around.cleanupRoutingLogic
  let router ← around.initializeRoutingLogic (routingArgumentsAtReload config)
    (config .routingLogic)
  modify fun p => { p with router := router }

def reconfigureCallbacks (config : DynamicRouterConfig) : Act Unit :=
  if (config .callbacks).truthy then do
    let callbacks ← ofExcept (configureCustomCallbacks around.importCallbacks (config .callbacks))
    modify fun p => { p with callbacks := some callbacks }
  else modify fun p => { p with callbacks := none }

/-- `reconfigure_all`; the batch API and the statistics are not reconfigured. -/
def reconfigureAll (config : DynamicRouterConfig) : Act Unit := do
  around.reconfigureServiceDiscovery config
  around.reconfigureRoutingLogic config
  around.reconfigureCallbacks config

end TickSurroundings

/-- One round of `_watch_worker`. What it raises is logged. -/
def Runtime.tick (runtime : Runtime) (around : TickSurroundings) (file : ConfigFile) : Act Unit := do
  let config ← ofExcept (runtime.fromFile file)
  let p ← get
  if config.pyEq p.currentConfig then pure ()
  else do
    around.reconfigureAll config
    modify fun p => { p with currentConfig := config }

/-- What a run of statements gives. -/
def Act.on {α : Type} (act : Act α) (p : Process) : Except PyExc α × Process := act.run.run p

/-! Rules for statements. -/

variable {p p' p'' : Process}

section Rules

variable {α β : Type}

/-- The run of the statements from `p` meets `post`. -/
def Act.Gives (act : Act α) (p : Process) (post : Except PyExc α → Process → Prop) : Prop :=
  post (act.on p).1 (act.on p).2

theorem on_bind (x : Act α) (f : α → Act β) (p : Process) : (x >>= f).on p = match x.on p with
      | (.ok a, p') => (f a).on p'
      | (.error e, p') => (.error e, p') := by
  rcases h : x.on p with ⟨r, p'⟩
  have hrun : (x >>= f).on p = (ExceptT.bindCont f (x.on p).1 : StateM Process _).run (x.on p).2 :=
    rfl
  rw [hrun, h]
  cases r <;> rfl

variable {post : Except PyExc β → Process → Prop} {x : Act α} {f : α → Act β} {r : Except PyExc α}

theorem Act.Gives.bind {mid : Except PyExc α → Process → Prop} (hx : x.Gives p mid)
    (hok : ∀ a p', mid (.ok a) p' → (f a).Gives p' post)
    (herror : ∀ e p', mid (.error e) p' → post (.error e) p') : (x >>= f).Gives p post := by
  unfold Act.Gives at hx ⊢
  rw [on_bind]
  rcases hrun : x.on p with ⟨r, p'⟩
  rw [hrun] at hx
  cases r with
  | ok a => exact hok a p' hx
  | error e => exact herror e p' hx

theorem Act.Gives.mono {post post' : Except PyExc α → Process → Prop} (h : x.Gives p post)
    (hpost : ∀ r p', post r p' → post' r p') : x.Gives p post' :=
  hpost _ _ h

theorem gives_ofExcept {post : Except PyExc α → Process → Prop} (h : post r p) :
    (ofExcept r).Gives p post := by
  cases r <;> exact h

theorem gives_ofExcept_bind (hok : ∀ a, r = .ok a → (f a).Gives p post)
    (herror : ∀ e, r = .error e → post (.error e) p) : (ofExcept r >>= f).Gives p post := by
  cases r with
  | ok a => exact hok a rfl
  | error e => exact herror e rfl

theorem gives_get {f : Process → Act β} (h : (f p).Gives p post) : (get >>= f).Gives p post := h

theorem gives_set {f : PUnit → Act β} (h : (f ⟨⟩).Gives p' post) : (set p' >>= f).Gives p post := h

end Rules

namespace TickSurroundings

variable (around : TickSurroundings) (config : DynamicRouterConfig)

/-! Service discovery. -/

/-- What closing the active service discovery comes to. -/
def closing : Discovery → Except PyExc Unit
  | .externalOnly => .ok ()
  | _ => around.closeDiscovery

/-- How the replacement of service discovery ends: nothing is created; the old object
is stopped, but cannot be closed; or the new object is active. -/
inductive Replaced (p : Process) : Except PyExc Unit → Process → Prop where
  | rejected (e : PyExc) (h : createAtReload around.kube config = .error e) :
      Replaced p (.error e) p
  | unclosed (discovery : Discovery) (e : PyExc)
      (h : createAtReload around.kube config = .ok discovery)
      (hclosing : around.closing p.discovery.value = .error e) :
      Replaced p (.error e) { p with created := p.created + 1, closed := true }
  | replaced (discovery : Discovery) (h : createAtReload around.kube config = .ok discovery)
      (hclosing : around.closing p.discovery.value = .ok ()) :
      Replaced p (.ok ()) { p with
        created := p.created + 1
        discovery := ⟨p.created, discovery⟩
        closed := false }

theorem closeActive_gives : around.closeActive.Gives p fun r p' =>
      r = around.closing p.discovery.value ∧
        (p' = { p with closed := true } ∨ p.discovery.value = .externalOnly ∧ p' = p) := by
  apply gives_get
  cases hvalue : p.discovery.value with
  | externalOnly => exact ⟨rfl, Or.inr ⟨rfl, rfl⟩⟩
  | static d | podIP d loop | serviceName d =>
    apply gives_set
    exact gives_ofExcept ⟨rfl, Or.inl rfl⟩

theorem reconfigureServiceDiscovery_gives :
    (around.reconfigureServiceDiscovery config).Gives p (around.Replaced config p) := by
  apply gives_ofExcept_bind
  · intro discovery hcreated
    apply (around.closeActive_gives).bind
    · rintro ⟨⟩ p₂ ⟨hclosing, rfl | ⟨-, rfl⟩⟩
      · exact .replaced discovery hcreated hclosing.symm
      · exact .replaced discovery hcreated hclosing.symm
    · rintro e p₂ ⟨hclosing, rfl | ⟨hvalue, rfl⟩⟩
      · exact .unclosed discovery e hcreated hclosing.symm
      · rw [show p.discovery.value = .externalOnly from hvalue] at hclosing
        cases hclosing
  · intro e hrejected
    exact .rejected e hrejected

/-! The router. -/

/-- Service discovery and the recorded configuration are kept. -/
structure Kept (p p' : Process) : Prop where
  discovery : p'.discovery = p.discovery
  current : p'.currentConfig = p.currentConfig
  created : p.created ≤ p'.created

theorem Kept.trans (h : Kept p p') (h' : Kept p' p'') : Kept p p'' :=
  ⟨h'.discovery.trans h.discovery, h'.current.trans h.current, h.created.trans h'.created⟩

/-- Only the registry has changed, and no class has come into it. -/
structure Cleaned (p p' : Process) : Prop where
  frame : p' = { p with registry := p'.registry }
  fewer : ∀ logic, p.registry.get? logic = none → p'.registry.get? logic = none

theorem Cleaned.refl (p : Process) : Cleaned p p := ⟨rfl, fun _ h => h⟩

theorem Cleaned.trans (h : Cleaned p p') (h' : Cleaned p' p'') : Cleaned p p'' where
  frame := by
    rw [h'.frame, h.frame]
  fewer logic hnone := h'.fewer logic (h.fewer logic hnone)

theorem Cleaned.kept (h : Cleaned p p') : Kept p p' := by
  rw [h.frame]
  exact ⟨rfl, rfl, le_rfl⟩

theorem cleanupClass_gives (logic : RoutingLogic) : (around.cleanupClass logic).Gives p fun r p' =>
      Cleaned p p' ∧ (r = .ok () → p'.registry.get? logic = none) := by
  have herased : Cleaned p { p with registry := p.registry.erase logic } := by
    refine ⟨rfl, fun other hnone => ?_⟩
    simp [Dict.get?_erase, hnone]
  apply gives_get
  by_cases hmem : logic ∈ p.registry
  · rw [if_pos hmem]
    cases hasClose logic with
    | false => exact ⟨herased, fun _ => Dict.get?_erase_self _ _⟩
    | true =>
      apply gives_ofExcept_bind
      · intro _ _
        exact ⟨herased, fun _ => Dict.get?_erase_self _ _⟩
      · intro e _
        refine ⟨Cleaned.refl p, fun h => ?_⟩
        cases h
  · rw [if_neg hmem]
    exact ⟨Cleaned.refl p, fun _ => (Dict.get?_eq_none_iff _ _).mpr hmem⟩

theorem forM_cleanupClass_gives (classes : List RoutingLogic) :
    (classes.forM around.cleanupClass).Gives p fun r p' =>
      Cleaned p p' ∧ (r = .ok () → ∀ logic ∈ classes, p'.registry.get? logic = none) := by
  induction classes generalizing p with
  | nil =>
    refine ⟨Cleaned.refl p, fun _ logic hmem => ?_⟩
    cases hmem
  | cons first rest ih =>
    apply (around.cleanupClass_gives first).bind
    · rintro ⟨⟩ p₁ ⟨hfirst, hgone⟩
      refine ih.mono ?_
      rintro r p₂ ⟨hrest, hnone⟩
      refine ⟨hfirst.trans hrest, fun hok logic hmem => ?_⟩
      rcases List.mem_cons.mp hmem with rfl | hmem
      · exact hrest.fewer logic (hgone rfl)
      · exact hnone hok logic hmem
    · rintro e p₁ ⟨hfirst, -⟩
      refine ⟨hfirst, fun h => ?_⟩
      cases h

/-- Every router is gone. -/
theorem cleanupRoutingLogic_gives : around.cleanupRoutingLogic.Gives p fun r p' =>
      Cleaned p p' ∧ (r = .ok () → ∀ logic, p'.registry.get? logic = none) := by
  refine (around.forM_cleanupClass_gives routerClasses).mono ?_
  rintro r p' ⟨hcleaned, hnone⟩
  exact ⟨hcleaned, fun hok logic => hnone hok logic (mem_routerClasses logic)⟩

/-- Without a singleton in the way, a router is created. -/
theorem initializeRoutingLogic_gives (a : RoutingArguments) (routingLogic : Value)
    (hempty : ∀ logic, p.registry.get? logic = none) :
    (around.initializeRoutingLogic a routingLogic).Gives p fun r p' =>
      Kept p p' ∧ ∀ router, r = .ok router →
        a.initializeRoutingLogic around.routers routingLogic = .ok router.value := by
  unfold initializeRoutingLogic RoutingArguments.initializeRoutingLogic
  cases RoutingLogic.of routingLogic with
  | none =>
    refine ⟨⟨rfl, rfl, le_rfl⟩, fun router h => ?_⟩
    cases h
  | some logic =>
    apply gives_get
    rw [hempty logic]
    apply gives_ofExcept_bind
    · intro state hstate
      refine ⟨⟨rfl, rfl, Nat.le_succ _⟩, fun router h => ?_⟩
      obtain rfl := Except.ok.inj h
      change (a.create around.routers logic >>= _) = _
      rw [hstate]
      rfl
    · intro e _
      refine ⟨⟨rfl, rfl, le_rfl⟩, fun router h => ?_⟩
      cases h

theorem reconfigureRoutingLogic_gives : (around.reconfigureRoutingLogic config).Gives p fun r p' =>
      Kept p p' ∧ (r = .ok () → routerAtReload around.routers config = .ok p'.router.value) := by
  apply around.cleanupRoutingLogic_gives.bind
  · rintro ⟨⟩ p₁ ⟨hcleaned, hempty⟩
    apply (around.initializeRoutingLogic_gives _ _ (hempty rfl)).bind
    · rintro router p₂ ⟨hkept, hrouter⟩
      have hassigned : Kept p₂ { p₂ with router := router } := ⟨rfl, rfl, le_rfl⟩
      exact ⟨hcleaned.kept.trans (hkept.trans hassigned), fun _ => hrouter router rfl⟩
    · rintro e p₂ ⟨hkept, -⟩
      refine ⟨hcleaned.kept.trans hkept, fun h => ?_⟩
      cases h
  · rintro e p₁ ⟨hcleaned, -⟩
    refine ⟨hcleaned.kept, fun h => ?_⟩
    cases h

/-! The tick. -/

theorem reconfigureCallbacks_gives : (around.reconfigureCallbacks config).Gives p fun _ p' =>
      p' = { p with callbacks := p'.callbacks } := by
  unfold reconfigureCallbacks
  split
  · apply gives_ofExcept_bind
    · intro _ _
      exact rfl
    · intro _ _
      exact rfl
  · exact rfl

/-- The new service discovery is active, and if nothing was raised the router was
created from the configuration too. -/
structure Rebuilt (p : Process) (r : Except PyExc Unit) (p' : Process) : Prop where
  discovery : createAtReload around.kube config = .ok p'.discovery.value
  fresh : p'.discovery.id = p.created
  closing : around.closing p.discovery.value = .ok ()
  current : p'.currentConfig = p.currentConfig
  created : p.created < p'.created
  router : r = .ok () → routerAtReload around.routers config = .ok p'.router.value

/-- `reconfigure_all` stops at service discovery, or replaces it. -/
theorem reconfigureAll_gives : (around.reconfigureAll config).Gives p fun r p' =>
      (r ≠ .ok () ∧ around.Replaced config p r p') ∨ around.Rebuilt config p r p' := by
  apply (around.reconfigureServiceDiscovery_gives config).bind
  · rintro ⟨⟩ p₁ (⟨⟩ | ⟨⟩ | ⟨discovery, hcreated, hclosing⟩)
    apply (around.reconfigureRoutingLogic_gives config).bind
    · rintro ⟨⟩ p₂ ⟨hkept, hrouter⟩
      refine (around.reconfigureCallbacks_gives config).mono fun r p₃ hframe => ?_
      right
      rw [hframe]
      refine ⟨?_, ?_, hclosing, hkept.current, hkept.created, fun _ => hrouter rfl⟩
      · rw [hkept.discovery]
        exact hcreated
      · rw [hkept.discovery]
    · rintro e p₂ ⟨hkept, -⟩
      right
      refine ⟨?_, ?_, hclosing, hkept.current, hkept.created, fun h => ?_⟩
      · rw [hkept.discovery]
        exact hcreated
      · rw [hkept.discovery]
      · cases h
  · intro e p₁ hreplaced
    refine Or.inl ⟨?_, hreplaced⟩
    intro h
    cases h

end TickSurroundings

/-- How a tick ends: the file cannot be read, it says what is recorded, the
reconfiguration raises, or it is applied. -/
inductive Ticked (runtime : Runtime) (around : TickSurroundings) (file : ConfigFile)
    (p : Process) : Except PyExc Unit → Process → Prop where
  | unreadable (e : PyExc) (hread : runtime.fromFile file = .error e) :
      Ticked runtime around file p (.error e) p
  | same (config : DynamicRouterConfig) (hread : runtime.fromFile file = .ok config)
      (hsame : config.pyEq p.currentConfig = true) : Ticked runtime around file p (.ok ()) p
  | failed (config : DynamicRouterConfig) (e : PyExc) (p' : Process)
      (hread : runtime.fromFile file = .ok config)
      (hchanged : config.pyEq p.currentConfig = false)
      (hrun : (around.reconfigureAll config).on p = (.error e, p')) :
      Ticked runtime around file p (.error e) p'
  | applied (config : DynamicRouterConfig) (p' : Process)
      (hread : runtime.fromFile file = .ok config)
      (hchanged : config.pyEq p.currentConfig = false)
      (hrun : (around.reconfigureAll config).on p = (.ok (), p')) :
      Ticked runtime around file p (.ok ()) { p' with currentConfig := config }

theorem tick_gives (runtime : Runtime) (around : TickSurroundings) (file : ConfigFile)
    (p : Process) : (runtime.tick around file).Gives p (Ticked runtime around file p) := by
  apply gives_ofExcept_bind
  · intro config hread
    apply gives_get
    cases hsame : config.pyEq p.currentConfig with
    | true => exact .same config hread hsame
    | false =>
      rw [if_neg Bool.false_ne_true]
      unfold Act.Gives
      rw [on_bind]
      rcases hrun : (around.reconfigureAll config).on p with ⟨r, p'⟩
      cases r with
      | ok u => exact .applied config p' hread hsame hrun
      | error e => exact .failed config e p' hread hsame hrun
  · intro e hread
    exact .unreadable e hread

/-- The states of a router: it was started, and the watcher has ticked. -/
inductive Running (runtime : Runtime) : Process → Prop where
  | started (launch : Launch) (content : Except PyExc (Dict String Value))
      (surroundings : Surroundings) (args : Namespace) (p : Process)
      (h : launch.start runtime content surroundings = .ok (args, p)) : Running runtime p
  | ticked (around : TickSurroundings) (file : ConfigFile) (p : Process) (h : Running runtime p) :
      Running runtime ((runtime.tick around file).on p).2

variable {runtime : Runtime}

/-- The next object is another one than the active service discovery. -/
theorem Running.fresh (h : Running runtime p) : p.discovery.id < p.created := by
  induction h with
  | started launch content surroundings args p h =>
    have hbuilt := built_of_start h
    obtain ⟨_, -, hdiscovery⟩ := hbuilt.discovery
    rw [hdiscovery, hbuilt.created]
    exact Nat.zero_lt_two
  | ticked around file p _ ih =>
    have hticked := tick_gives runtime around file p
    unfold Act.Gives at hticked
    generalize ((runtime.tick around file).on p).1 = r at hticked
    generalize ((runtime.tick around file).on p).2 = p' at hticked
    have hreconfigured (config : DynamicRouterConfig) {r : Except PyExc Unit} {p' : Process}
        (hrun : (around.reconfigureAll config).on p = (r, p')) : p'.discovery.id < p'.created := by
      have hgives := around.reconfigureAll_gives config (p := p)
      unfold Act.Gives at hgives
      rw [hrun] at hgives
      rcases hgives with ⟨-, hreplaced⟩ | hrebuilt
      · cases hreplaced with
        | rejected => exact ih
        | unclosed => exact Nat.lt_succ_of_lt ih
        | replaced => exact Nat.lt_succ_self _
      · rw [hrebuilt.fresh]
        exact hrebuilt.created
    cases hticked with
    | unreadable | same => exact ih
    | failed config _ _ _ _ hrun => exact hreconfigured config hrun
    | applied config p' _ _ hrun =>
      have hless := hreconfigured config hrun
      exact hless

/-! A reload that fails. -/

/-- All that a tick might replace is as it was. -/
structure Unchanged (p p' : Process) : Prop where
  discovery : p'.discovery = p.discovery
  closed : p'.closed = p.closed
  registry : p'.registry = p.registry
  router : p'.router = p.router
  callbacks : p'.callbacks = p.callbacks
  currentConfig : p'.currentConfig = p.currentConfig

/-- When the reconfiguration raises, what it has done is what the tick leaves. -/
theorem tick_of_raised {around : TickSurroundings} {file : ConfigFile}
    {config : DynamicRouterConfig} {e : PyExc} (hread : runtime.fromFile file = .ok config)
    (hchanged : config.pyEq p.currentConfig = false)
    (hraise : ((around.reconfigureAll config).on p).1 = .error e) :
    ((runtime.tick around file).on p).2 = ((around.reconfigureAll config).on p).2 := by
  have hticked := tick_gives runtime around file p
  unfold Act.Gives at hticked
  generalize ((runtime.tick around file).on p).1 = r at hticked
  generalize ((runtime.tick around file).on p).2 = p' at hticked ⊢
  have hconfig {config' : DynamicRouterConfig} (hread' : runtime.fromFile file = .ok config') :
      config' = config := Except.ok.inj (hread'.symm.trans hread)
  cases hticked with
  | unreadable e' hread' =>
    rw [hread] at hread'
    cases hread'
  | same config' hread' hsame =>
    rw [hconfig hread', hchanged] at hsame
    cases hsame
  | failed config' _ _ hread' _ hrun => rw [← hconfig hread', hrun]
  | applied config' _ hread' _ hrun =>
    rw [← hconfig hread', hrun] at hraise
    cases hraise

/-- A reload that raises leaves everything as it was exactly if the new service
discovery could not be created, or the old one was closed before and cannot be closed
again. -/
theorem reload_all_or_nothing_iff (runtime : Runtime) (around : TickSurroundings)
    (file : ConfigFile) (config : DynamicRouterConfig) (p : Process) (e : PyExc)
    (hrunning : Running runtime p) (hread : runtime.fromFile file = .ok config)
    (hchanged : config.pyEq p.currentConfig = false)
    (hraise : ((around.reconfigureAll config).on p).1 = .error e) :
    Unchanged p ((runtime.tick around file).on p).2 ↔
      (∃ e, createAtReload around.kube config = .error e) ∨
        (p.closed = true ∧ ∃ e, around.closing p.discovery.value = .error e) := by
  have hfresh := hrunning.fresh
  rw [tick_of_raised hread hchanged hraise]
  have hgives := around.reconfigureAll_gives config (p := p)
  rcases hgives with ⟨-, hreplaced⟩ | hrebuilt
  · rw [hraise] at hreplaced
    generalize ((around.reconfigureAll config).on p).2 = p' at hreplaced
    cases hreplaced with
    | rejected _ hrejected =>
      exact iff_of_true ⟨rfl, rfl, rfl, rfl, rfl, rfl⟩ (Or.inl ⟨e, hrejected⟩)
    | unclosed discovery _ hcreated hclosing =>
      constructor
      · intro h
        exact Or.inr ⟨h.closed.symm, e, hclosing⟩
      · rintro (⟨_, hrejected⟩ | ⟨hclosed, -⟩)
        · rw [hcreated] at hrejected
          cases hrejected
        · exact ⟨rfl, hclosed.symm, rfl, rfl, rfl, rfl⟩
  · refine iff_of_false ?_ ?_
    · intro h
      have hid := hrebuilt.fresh
      rw [h.discovery] at hid
      omega
    · rintro (⟨_, hrejected⟩ | ⟨-, _, hclosing⟩)
      · rw [hrebuilt.discovery] at hrejected
        cases hrejected
      · rw [hrebuilt.closing] at hclosing
        cases hclosing

/-- Nothing around the router fails during a tick. -/
def calmTick : TickSurroundings := ⟨.ok (), .ok (), .ok (), ⟨.ok (), .ok⟩, fun _ => .ok 0⟩

/-- A start with one file and a tick with another that differs, whose reconfiguration
raises. -/
theorem raised_after_start (first second : Dict String Value)
    (h : (match onlyFile.start asciiRuntime (.ok first) calm,
          asciiRuntime.fromFile (onlyFile.file (.ok second)) with
        | .ok (_, p), .ok config => !config.pyEq p.currentConfig &&
            !((calmTick.reconfigureAll config).on p).1.isOk
        | _, _ => false) = true) :
    ∃ args p config e, onlyFile.start asciiRuntime (.ok first) calm = .ok (args, p) ∧
      asciiRuntime.fromFile (onlyFile.file (.ok second)) = .ok config ∧
      config.pyEq p.currentConfig = false ∧
      ((calmTick.reconfigureAll config).on p).1 = .error e := by
  cases hstart : onlyFile.start asciiRuntime (.ok first) calm with
  | error failure =>
    rw [hstart] at h
    cases h
  | ok started =>
    obtain ⟨args, p⟩ := started
    cases hread : asciiRuntime.fromFile (onlyFile.file (.ok second)) with
    | error e =>
      rw [hstart, hread] at h
      cases h
    | ok config =>
      rw [hstart, hread] at h
      simp only [Bool.and_eq_true, Bool.not_eq_true'] at h
      cases hraise : ((calmTick.reconfigureAll config).on p).1 with
      | ok u =>
        rw [hraise] at h
        cases h.2
      | error e => exact ⟨args, p, config, e, rfl, rfl, h.1, hraise⟩

/-- A deployment without engines of its own cannot be reconfigured, and stays. -/
theorem reload_refused_unchanged : ∃ p, Running asciiRuntime p ∧
    Unchanged p ((asciiRuntime.tick calmTick
      (onlyFile.file (.ok (externalFile (.int 81))))).on p).2 := by
  obtain ⟨args, p, config, e, hstart, hread, hchanged, hraise⟩ :=
    raised_after_start (externalFile (.int 80)) (externalFile (.int 81)) (by decide +kernel)
  have hrunning : Running asciiRuntime p := .started _ _ _ _ _ hstart
  refine ⟨p, hrunning, ?_⟩
  refine (reload_all_or_nothing_iff _ _ _ config p e hrunning hread hchanged hraise).mpr
    (Or.inl ?_)
  have hexternal : is (config .serviceDiscovery) "static" = false ∧
      is (config .serviceDiscovery) "k8s" = false := by
    have hdict : asciiRuntime.fromConfigDict (externalFile (.int 81)) = .ok config := hread
    have hfield := fieldOf_of_fromConfigDict hdict .serviceDiscovery
    rw [← Option.some.inj hfield]
    decide
  refine ⟨.new .valueError "Invalid service discovery type", ?_⟩
  simp only [createAtReload, hexternal.1, hexternal.2]
  rfl

/-- A static engine, and session routing without the key of the session. -/
def sessionlessFile : Dict String Value :=
  (((Dict.empty.set "service_discovery" (.str "static")).set "static_backends"
    (.str "http://a")).set "static_models" (.str "m")).set "routing_logic" (.str "session")

/-- The router cannot be created, but service discovery is replaced by then and the
registry is empty. -/
theorem failed_reload_replaces_discovery : ∃ p, Running asciiRuntime p ∧
    ∃ config e, asciiRuntime.fromFile (onlyFile.file (.ok sessionlessFile)) = .ok config ∧
      ((calmTick.reconfigureAll config).on p).1 = .error e ∧
      ¬ Unchanged p ((asciiRuntime.tick calmTick (onlyFile.file (.ok sessionlessFile))).on p).2 := by
  obtain ⟨args, p, config, e, hstart, hread, hchanged, hraise⟩ :=
    raised_after_start (externalFile (.int 80)) sessionlessFile (by decide +kernel)
  refine ⟨p, .started _ _ _ _ _ hstart, config, e, hread, hraise, ?_⟩
  intro hunchanged
  have hreplaced : (match onlyFile.start asciiRuntime (.ok (externalFile (.int 80))) calm with
      | .ok (_, p) => decide (((asciiRuntime.tick calmTick
          (onlyFile.file (.ok sessionlessFile))).on p).2.discovery.id = p.discovery.id)
      | .error _ => true) = false := by decide +kernel
  rw [hstart] at hreplaced
  have hsame := congrArg Instance.id hunchanged.discovery
  exact absurd hsame (of_decide_eq_false hreplaced)

end ProductionStack.Config

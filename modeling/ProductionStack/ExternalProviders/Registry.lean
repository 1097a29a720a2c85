import ProductionStack.Python.Json

/-!
The registry of the external providers. A provider has an adapter, made from its
configuration, and the model index says for every model id and alias whose it is.
The adapter resolves an alias once more, from its own configuration, when it sends
a request.
-/

namespace ProductionStack.ExternalProviders

open Lib Python

structure ExternalModelConfig where
  id : String
  aliases : List String

def ExternalModelConfig.answersTo (model : ExternalModelConfig) (requested : String) : Bool :=
  requested = model.id || model.aliases.contains requested

theorem ExternalModelConfig.answersTo_iff (model : ExternalModelConfig) (requested : String) :
    model.answersTo requested ↔ requested ∈ model.id :: model.aliases := by
  simp [answersTo]

/-- The fields of a configuration that registering and resolving read. -/
structure ExternalProviderConfig where
  name : String
  type : String
  models : List ExternalModelConfig
  apiKeyEnvVar : Option String

namespace ExternalProviderConfig

def getApiKey (config : ExternalProviderConfig) (environ : String → Option String)
    (default : String) : Except PyExc (Option String) :=
  let envVar := match config.apiKeyEnvVar with
    | some var => if var = "" then default else var
    | none => default
  if envVar = "" then .ok none
  else match environ envVar with
    | some key =>
      if key = "" then .error (missing envVar) else .ok (some key)
    | none => .error (missing envVar)
where
  missing (envVar : String) : PyExc :=
    .new .valueError ("API key for provider '" ++ config.name ++
      "' not found in environment variable '" ++ envVar ++ "'")

def resolveModelId (config : ExternalProviderConfig) (requested : String) : Option String :=
  (config.models.find? (·.answersTo requested)).map (·.id)

/-- `payload["model"]` of what `send_request` sends for a model. -/
def sentModel (config : ExternalProviderConfig) (requested : String) : String :=
  match config.resolveModelId requested with
  | some canonicalId =>
    if canonicalId ≠ "" ∧ canonicalId ≠ requested then canonicalId else requested
  | none => requested

/-- The calls of `_register_model_id` that `register` makes: what is registered, and
the canonical id. -/
def registrations (config : ExternalProviderConfig) : List (String × String) :=
  config.models.flatMap fun model => (model.id :: model.aliases).map (·, model.id)

/-- The models that have this id or alias. -/
def answering (config : ExternalProviderConfig) (requested : String) : List String :=
  (config.models.filter (·.answersTo requested)).map (·.id)

/-- The first model that answers to a name is the last one too. If its id is empty,
`send_request` keeps the name. -/
def Unambiguous (config : ExternalProviderConfig) (requested : String) : Prop :=
  (config.answering requested).getLast? =
    if (config.answering requested).head? = some "" then some requested
    else (config.answering requested).head?

variable (config : ExternalProviderConfig)

theorem resolveModelId_eq (requested : String) :
    config.resolveModelId requested = (config.answering requested).head? := by
  rw [resolveModelId, answering, List.head?_map, List.head?_filter]

theorem unambiguous_iff {config : ExternalProviderConfig} {requested canonicalId : String}
    (h : (config.answering requested).getLast? = some canonicalId) :
    config.Unambiguous requested ↔ canonicalId = config.sentModel requested := by
  cases hfirst : (config.answering requested).head? with
  | none =>
    rw [List.head?_eq_none_iff] at hfirst
    rw [hfirst] at h
    cases h
  | some first =>
    rw [Unambiguous, h, sentModel, resolveModelId_eq, hfirst]
    by_cases hempty : first = ""
    · simp [hempty]
    · by_cases hsame : first = requested
      · simp [hsame]
      · simp [hempty, hsame]

theorem getLast?_registered (known : List String) (canonicalId requested : String) :
    (((known.map (·, canonicalId)).filter (·.1 = requested)).map Prod.snd).getLast? =
      if requested ∈ known then some canonicalId else none := by
  have hsame : ((known.map (·, canonicalId)).filter (·.1 = requested)).map Prod.snd =
      List.replicate (known.count requested) canonicalId := by
    rw [List.filter_map, List.map_map, List.count_eq_length_filter, ← List.map_const']
    rfl
  rw [hsame, List.getLast?_replicate]
  simp [List.count_eq_zero]

/-- The last registration of a name is for the last model that answers to it. -/
theorem getLast?_registrations (requested : String) :
    ((config.registrations.filter (·.1 = requested)).map Prod.snd).getLast? =
      (config.answering requested).getLast? := by
  rw [registrations, answering]
  induction config.models with
  | nil => rfl
  | cons model rest ih =>
    rw [List.flatMap_cons, List.filter_append, List.map_append, List.getLast?_append, ih,
      getLast?_registered]
    by_cases hmodel : model.answersTo requested
    · rw [List.filter_cons_of_pos (by exact hmodel),
        if_pos ((model.answersTo_iff requested).mp hmodel), List.map_cons, List.getLast?_cons]
      cases ((rest.filter (·.answersTo requested)).map (·.id)).getLast? with
      | none => rfl
      | some last => rfl
    · rw [List.filter_cons_of_neg (by exact hmodel),
        if_neg (mt (model.answersTo_iff requested).mpr hmodel), Option.or_none]

end ExternalProviderConfig

/-- An adapter is an object of its own. -/
structure Adapter where
  id : Nat
  config : ExternalProviderConfig

structure IndexEntry where
  provider : String
  adapter : Adapter
  canonicalId : String

/-- The two tables, and the number of adapters made so far. `fetched` is what a
provider's adapter last listed. -/
structure Manager where
  adapters : Dict String Adapter
  modelIndex : Dict String IndexEntry
  created : Nat
  fetched : String → Option (List Json)
  fresh : ∀ name adapter, adapters.get? name = some adapter → adapter.id < created

namespace Manager

def init : Manager where
  adapters := .empty
  modelIndex := .empty
  created := 0
  fetched := fun _ => none
  fresh := by simp

def lookupAdapter (m : Manager) (modelId : String) : Option Adapter :=
  (m.modelIndex.get? modelId).map (·.adapter)

def getCanonicalModelId (m : Manager) (modelId : String) : Option String :=
  (m.modelIndex.get? modelId).map (·.canonicalId)

def getProviderName (m : Manager) (modelId : String) : Option String :=
  (m.modelIndex.get? modelId).map (·.provider)

/-! Registering. -/

/-- `ADAPTER_REGISTRY` has one class, whose adapters need a key. -/
def createAdapter (config : ExternalProviderConfig) (environ : String → Option String) :
    Except PyExc (Option String) :=
  if config.type = "openai" then config.getApiKey environ "OPENAI_API_KEY"
  else .error (.new .valueError ("No adapter found for provider type '" ++ config.type ++
    "'. Available types: ['openai']"))

def registerModelId (index : Dict String IndexEntry) (modelId : String) (entry : IndexEntry) :
    Except PyExc (Dict String IndexEntry) :=
  match index.get? modelId with
  | some existing =>
    if existing.provider ≠ entry.provider then
      .error (.new .valueError ("Model ID '" ++ modelId ++ "' from provider '" ++
        entry.provider ++ "' conflicts with same model ID from provider '" ++
        existing.provider ++ "'"))
    else .ok (index.set modelId entry)
  | none => .ok (index.set modelId entry)

/-- The loops of `register`: the exception that ended them, and the index. -/
def registerAll (provider : String) (adapter : Adapter) :
    List (String × String) → Dict String IndexEntry → Option PyExc × Dict String IndexEntry
  | [], index => (none, index)
  | (modelId, canonicalId) :: rest, index =>
    match registerModelId index modelId ⟨provider, adapter, canonicalId⟩ with
    | .error e => (some e, index)
    | .ok index => registerAll provider adapter rest index

def register (m : Manager) (config : ExternalProviderConfig) (environ : String → Option String) :
    Option PyExc × Manager :=
  match createAdapter config environ with
  | .error e => (some e, m)
  | .ok _ =>
    let adapter : Adapter := ⟨m.created, config⟩
    let registered := registerAll config.name adapter config.registrations m.modelIndex
    (registered.1, {
      adapters := m.adapters.set config.name adapter
      modelIndex := registered.2
      created := m.created + 1
      fetched := Function.update m.fetched config.name none
      fresh := by
        intro name stored h
        rw [Dict.get?_set] at h
        split at h
        · obtain rfl := Option.some.inj h
          exact Nat.lt_succ_self _
        · exact (m.fresh name stored h).trans (Nat.lt_succ_self _) })

variable {index index' : Dict String IndexEntry} {modelId : String} {entry : IndexEntry}

theorem registerModelId_ok (h : registerModelId index modelId entry = .ok index') :
    index' = index.set modelId entry := by
  rw [registerModelId] at h
  cases hexisting : index.get? modelId with
  | none =>
    rw [hexisting] at h
    exact (Except.ok.inj h).symm
  | some existing =>
    rw [hexisting] at h
    dsimp only at h
    by_cases hother : existing.provider ≠ entry.provider
    · rw [if_pos hother] at h
      cases h
    · rw [if_neg hother] at h
      exact (Except.ok.inj h).symm

theorem get?_registerAll {provider : String} {adapter : Adapter} {pairs : List (String × String)}
    (h : registerAll provider adapter pairs index = (none, index')) (modelId : String) :
    index'.get? modelId = (((pairs.filter (·.1 = modelId)).map Prod.snd).getLast?.map
        (IndexEntry.mk provider adapter)).or (index.get? modelId) := by
  induction pairs generalizing index with
  | nil =>
    obtain rfl := (Prod.mk.inj h).2
    rfl
  | cons pair rest ih =>
    rw [registerAll] at h
    cases hone : registerModelId index pair.1 ⟨provider, adapter, pair.2⟩ with
    | error e =>
      rw [hone] at h
      cases h
    | ok next =>
      rw [hone] at h
      rw [ih h, registerModelId_ok hone, Dict.get?_set]
      by_cases hpair : pair.1 = modelId
      · rw [List.filter_cons_of_pos (by simpa using hpair), List.map_cons, List.getLast?_cons,
          if_pos hpair.symm]
        cases ((rest.filter (·.1 = modelId)).map Prod.snd).getLast? with
        | none => rfl
        | some last => rfl
      · rw [List.filter_cons_of_neg (by simpa using hpair), if_neg (Ne.symm hpair)]

/-- What a successful registration leaves. -/
structure Registered (m : Manager) (config : ExternalProviderConfig) (m' : Manager) : Prop where
  adapters : m'.adapters = m.adapters.set config.name ⟨m.created, config⟩
  fetched : m'.fetched = Function.update m.fetched config.name none
  index : ∀ modelId, m'.modelIndex.get? modelId =
    ((config.answering modelId).getLast?.map
      (IndexEntry.mk config.name ⟨m.created, config⟩)).or (m.modelIndex.get? modelId)

variable {m m' : Manager} {config : ExternalProviderConfig} {environ : String → Option String}

theorem registered_of_register (h : m.register config environ = (none, m')) :
    Registered m config m' := by
  rw [register] at h
  cases hcreate : createAdapter config environ with
  | error e =>
    rw [hcreate] at h
    cases h
  | ok key =>
    rw [hcreate] at h
    obtain ⟨hnone, rfl⟩ := Prod.mk.inj h
    refine ⟨rfl, rfl, ?_⟩
    intro modelId
    rw [get?_registerAll (Prod.ext hnone rfl), ExternalProviderConfig.getLast?_registrations]

/-! Validating. -/

def isAvailable (available : List Json) (canonicalId : String) : Bool :=
  available.any fun listed => match listed with
    | .str modelId => modelId = canonicalId
    | _ => false

def toRemove (index : Dict String IndexEntry) (provider : String) (available : List Json) :
    List String :=
  (index.entries.filter fun e =>
    e.2.provider = provider && !isAvailable available e.2.canonicalId).map Prod.fst

/-- One round of `validate_models`. An empty list was not fetched. -/
def validateProvider (m : Manager) (provider : String) (available : List Json) : Manager :=
  if available.isEmpty then m
  else { m with
    modelIndex := (toRemove m.modelIndex provider available).foldl Dict.erase m.modelIndex
    fetched := Function.update m.fetched provider (some available) }

def validateAll (answers : String → Except PyExc (List Json)) :
    List String → Manager → Option PyExc × Manager
  | [], m => (none, m)
  | provider :: rest, m => match answers provider with
    | .error e => (some e, m)
    | .ok available => validateAll answers rest (m.validateProvider provider available)

/-- `answers` is `set(await adapter.fetch_available_model_ids())` for each provider. -/
def validateModels (m : Manager) (answers : String → Except PyExc (List Json)) :
    Option PyExc × Manager :=
  validateAll answers m.adapters.keys m

theorem validateModels_preserves {good : Manager → Prop}
    (h : ∀ m provider available, good m → good (m.validateProvider provider available))
    (answers : String → Except PyExc (List Json)) (hm : good m) :
    good (m.validateModels answers).2 := by
  rw [validateModels]
  generalize m.adapters.keys = providers
  induction providers generalizing m with
  | nil => exact hm
  | cons provider rest ih =>
    rw [validateAll]
    cases answers provider with
    | error e => exact hm
    | ok available => exact ih (h m provider available hm)

theorem validateProvider_adapters (m : Manager) (provider : String) (available : List Json) :
    (m.validateProvider provider available).adapters = m.adapters := by
  rw [validateProvider]
  split
  · rfl
  · rfl

/-- An entry that is left was there before, and the provider lists it. -/
theorem get?_validateProvider {provider : String} {available : List Json} (hne : ¬available.isEmpty)
    (h : (m.validateProvider provider available).modelIndex.get? modelId = some entry) :
    m.modelIndex.get? modelId = some entry ∧
      (entry.provider = provider → isAvailable available entry.canonicalId) := by
  rw [validateProvider, if_neg hne, Dict.get?_foldl_erase] at h
  by_cases hremoved : modelId ∈ toRemove m.modelIndex provider available
  · rw [if_pos hremoved] at h
    cases h
  · rw [if_neg hremoved] at h
    refine ⟨h, ?_⟩
    intro hprovider
    by_contra hmissing
    exact hremoved (List.mem_map.mpr ⟨(modelId, entry), List.mem_filter.mpr
      ⟨(Dict.mem_entries_iff _ _).mpr h, by simp [hprovider, hmissing]⟩, rfl⟩)

/-! Runs. -/

/-- A state after successful registrations, each one allowed where it was made, and
validations. -/
inductive Reached (allowed : Manager → ExternalProviderConfig → Prop) : Manager → Prop
  | init : Reached allowed init
  | register {m m' : Manager} {config : ExternalProviderConfig}
      {environ : String → Option String} (hm : Reached allowed m) (hallowed : allowed m config)
      (h : m.register config environ = (none, m')) : Reached allowed m'
  | validate {m : Manager} (answers : String → Except PyExc (List Json))
      (hm : Reached allowed m) : Reached allowed (m.validateModels answers).2

/-- An entry is for the last model of the adapter that answers to the name, and the
provider lists it. -/
def Resolved (m : Manager) : Prop :=
  ∀ modelId entry, m.modelIndex.get? modelId = some entry →
    (entry.adapter.config.answering modelId).getLast? = some entry.canonicalId ∧
    ∀ available, m.fetched entry.provider = some available →
      isAvailable available entry.canonicalId

theorem Registered.resolved (h : Registered m config m') (hm : m.Resolved) : m'.Resolved := by
  intro modelId entry hentry
  rw [h.index] at hentry
  rw [h.fetched]
  cases hlast : (config.answering modelId).getLast? with
  | none =>
    rw [hlast] at hentry
    obtain ⟨hcanonical, hfetched⟩ := hm modelId entry hentry
    refine ⟨hcanonical, ?_⟩
    intro available havailable
    by_cases hprovider : entry.provider = config.name
    · rw [hprovider, Function.update_self] at havailable
      cases havailable
    · rw [Function.update_of_ne hprovider] at havailable
      exact hfetched available havailable
  | some canonicalId =>
    rw [hlast] at hentry
    obtain rfl := Option.some.inj hentry
    refine ⟨hlast, ?_⟩
    intro available havailable
    rw [Function.update_self] at havailable
    cases havailable

theorem validateProvider_resolved (m : Manager) (provider : String) (available : List Json)
    (hm : m.Resolved) : (m.validateProvider provider available).Resolved := by
  by_cases hempty : available.isEmpty
  · rw [validateProvider, if_pos hempty]
    exact hm
  · intro modelId entry hentry
    obtain ⟨hbefore, hlisted⟩ := get?_validateProvider hempty hentry
    obtain ⟨hcanonical, hfetched⟩ := hm modelId entry hbefore
    refine ⟨hcanonical, ?_⟩
    intro list hlist
    rw [validateProvider, if_neg hempty] at hlist
    by_cases hprovider : entry.provider = provider
    · rw [hprovider] at hlist
      change Function.update m.fetched provider (some available) provider = _ at hlist
      rw [Function.update_self] at hlist
      obtain rfl := Option.some.inj hlist
      exact hlisted hprovider
    · change Function.update m.fetched provider (some available) _ = _ at hlist
      rw [Function.update_of_ne hprovider] at hlist
      exact hfetched list hlist

theorem resolved_of_reached {allowed : Manager → ExternalProviderConfig → Prop}
    (h : m.Reached allowed) : m.Resolved := by
  induction h with
  | init =>
    intro modelId entry hentry
    cases hentry
  | register hm hallowed hregister ih => exact (registered_of_register hregister).resolved ih
  | validate answers hm ih => exact validateModels_preserves validateProvider_resolved answers ih

/-- The index and the adapters agree about the canonical ids exactly when every name in
the index is unambiguous in the configuration of its adapter. -/
theorem resolution_agrees_iff (hm : m.Reached fun _ _ => True) :
    (∀ modelId adapter, m.lookupAdapter modelId = some adapter →
      m.getCanonicalModelId modelId = some (adapter.config.sentModel modelId) ∧
      ∀ provider available, m.getProviderName modelId = some provider →
        m.fetched provider = some available →
        isAvailable available (adapter.config.sentModel modelId)) ↔
    ∀ modelId adapter, m.lookupAdapter modelId = some adapter →
      adapter.config.Unambiguous modelId := by
  have hresolved := resolved_of_reached hm
  apply forall_congr'
  intro modelId
  apply forall_congr'
  intro adapter
  apply imp_congr_right
  intro hadapter
  obtain ⟨entry, hentry, rfl⟩ := Option.map_eq_some_iff.mp hadapter
  obtain ⟨hcanonical, hfetched⟩ := hresolved modelId entry hentry
  rw [ExternalProviderConfig.unambiguous_iff hcanonical, getCanonicalModelId, getProviderName,
    hentry, Option.map_some, Option.map_some, Option.some.injEq]
  refine ⟨And.left, ?_⟩
  intro hsent
  refine ⟨hsent, ?_⟩
  rintro provider available hprovider havailable
  obtain rfl := Option.some.inj hprovider
  rw [← hsent]
  exact hfetched available havailable

/-- A provider, with the names it has for each model. -/
def provider (name : String) (models : List (String × List String)) : ExternalProviderConfig where
  name := name
  type := "openai"
  models := models.map fun model => ⟨model.1, model.2⟩
  apiKeyEnvVar := none

/-- The manager after the first registration. -/
def withProvider (config : ExternalProviderConfig) : Manager :=
  (init.register config fun _ => some "key").2

theorem resolution_agrees_alias :
    (withProvider (provider "a" [("gpt-4o", ["gpt"])])).getCanonicalModelId "gpt" =
      some "gpt-4o" := by
  have hregister : init.register (provider "a" [("gpt-4o", ["gpt"])]) (fun _ => some "key") =
      (none, withProvider (provider "a" [("gpt-4o", ["gpt"])])) := rfl
  refine ((resolution_agrees_iff (.register .init trivial hregister)).mpr ?_ "gpt" _ rfl).1
  intro modelId adapter hadapter
  obtain ⟨entry, hentry, rfl⟩ := Option.map_eq_some_iff.mp hadapter
  have hmem := (Dict.mem_entries_iff _ (modelId, entry)).mpr hentry
  rcases List.mem_cons.mp hmem with heq | hmem
  · cases heq
    rfl
  · cases List.mem_singleton.mp hmem
    rfl

/-- The alias of one model is the id of a later one. -/
theorem alias_of_earlier_model :
    let m := withProvider (provider "a" [("gpt-4o", ["gpt"]), ("gpt", [])])
    m.getCanonicalModelId "gpt" = some "gpt" ∧
      (m.lookupAdapter "gpt").map (·.config.sentModel "gpt") = some "gpt-4o" :=
  ⟨rfl, rfl⟩

/-! Atomicity. -/

theorem register_atomic_iff {e : PyExc} (h : m.register config environ = (some e, m')) :
    (m'.adapters = m.adapters ∧ m'.modelIndex = m.modelIndex) ↔
      createAdapter config environ = .error e := by
  rw [register] at h
  cases hcreate : createAdapter config environ with
  | error raised =>
    rw [hcreate] at h
    obtain ⟨hraised, rfl⟩ := Prod.mk.inj h
    obtain rfl := Option.some.inj hraised
    exact ⟨fun _ => rfl, fun _ => ⟨rfl, rfl⟩⟩
  | ok key =>
    rw [hcreate] at h
    obtain ⟨-, rfl⟩ := Prod.mk.inj h
    -- The table has the new adapter, which no table had before.
    constructor
    · rintro ⟨hadapters, -⟩
      have hnew : m.adapters.get? config.name = some ⟨m.created, config⟩ := by
        rw [← hadapters]
        exact Dict.get?_set_self _ _ _
      exact absurd (m.fresh _ _ hnew) (lt_irrefl _)
    · intro hcreated
      cases hcreated

theorem register_atomic_unknown_type :
    let config := { provider "a" [("gpt-4o", [])] with type := "other" }
    (init.register config fun _ => none).2.adapters = Dict.empty := by
  intro config
  have hregister : init.register config (fun _ => none) = (some (.new .valueError
      "No adapter found for provider type 'other'. Available types: ['openai']"), init) := rfl
  exact ((register_atomic_iff hregister).mpr rfl).1

/-- The second provider has a model of the first. Its adapter is in the table, and so is
the model before. -/
theorem register_conflict :
    let after := (withProvider (provider "a" [("gpt-4o", [])])).register
      (provider "b" [("gpt", []), ("gpt-4o", [])]) fun _ => some "key"
    after.1 = some (.new .valueError ("Model ID 'gpt-4o' from provider 'b' conflicts with " ++
      "same model ID from provider 'a'")) ∧
    after.2.adapters.keys = ["a", "b"] ∧ after.2.getProviderName "gpt" = some "b" :=
  ⟨rfl, rfl, rfl⟩

/-! Consistency. -/

def Consistent (m : Manager) : Prop :=
  ∀ modelId entry, m.modelIndex.get? modelId = some entry →
    m.adapters.get? entry.provider = some entry.adapter ∧
    entry.canonicalId ∈ entry.adapter.config.models.map (·.id)

/-- The configuration has every name that the index has for the provider. -/
def Covers (m : Manager) (config : ExternalProviderConfig) : Prop :=
  ∀ modelId entry, m.modelIndex.get? modelId = some entry → entry.provider = config.name →
    config.answering modelId ≠ []

theorem Registered.consistent_iff (h : Registered m config m') (hm : m.Consistent) :
    m'.Consistent ↔ m.Covers config := by
  constructor
  · intro hm' modelId entry hentry hprovider hnone
    have hkept : m'.modelIndex.get? modelId = some entry := by
      rw [h.index, hnone, hentry]
      rfl
    -- A name that is left has the adapter that was replaced.
    have hnew := (hm' modelId entry hkept).1
    rw [h.adapters, hprovider, Dict.get?_set_self] at hnew
    have hold := m.fresh _ _ (hm modelId entry hentry).1
    rw [← Option.some.inj hnew] at hold
    exact absurd hold (lt_irrefl _)
  · intro hcovers modelId entry hentry
    rw [h.index] at hentry
    rw [h.adapters]
    cases hlast : (config.answering modelId).getLast? with
    | none =>
      rw [hlast] at hentry
      have hother : entry.provider ≠ config.name := by
        intro hprovider
        exact hcovers modelId entry hentry hprovider (List.getLast?_eq_none_iff.mp hlast)
      rw [Dict.get?_set_of_ne _ _ hother]
      exact hm modelId entry hentry
    | some canonicalId =>
      rw [hlast] at hentry
      obtain rfl := Option.some.inj hentry
      refine ⟨Dict.get?_set_self _ _ _, ?_⟩
      obtain ⟨model, hmodel, hid⟩ := List.mem_map.mp (List.mem_of_getLast? hlast)
      exact List.mem_map.mpr ⟨model, List.mem_of_mem_filter hmodel, hid⟩

theorem validateProvider_consistent (m : Manager) (provider : String) (available : List Json)
    (hm : m.Consistent) : (m.validateProvider provider available).Consistent := by
  by_cases hempty : available.isEmpty
  · rw [validateProvider, if_pos hempty]
    exact hm
  · intro modelId entry hentry
    rw [validateProvider_adapters]
    exact hm modelId entry (get?_validateProvider hempty hentry).1

theorem consistent_of_reached (h : m.Reached Covers) : m.Consistent := by
  induction h with
  | init =>
    intro modelId entry hentry
    cases hentry
  | register hm hcovers hregister ih =>
    exact ((registered_of_register hregister).consistent_iff ih).mpr hcovers
  | validate answers hm ih =>
    exact validateModels_preserves validateProvider_consistent answers ih

/-- While every registration has all the names that the index has for its provider, the
index is consistent. The first registration that lacks one makes it inconsistent. -/
theorem index_consistent_iff (hm : m.Reached Covers) :
    m.Consistent ∧ ∀ config environ m', m.register config environ = (none, m') →
      (m'.Consistent ↔ m.Covers config) := by
  refine ⟨consistent_of_reached hm, ?_⟩
  intro config environ m' h
  exact (registered_of_register h).consistent_iff (consistent_of_reached hm)

theorem index_consistent_one : (withProvider (provider "a" [("gpt-4o", ["gpt"])])).Consistent := by
  refine ((index_consistent_iff .init).2 (provider "a" [("gpt-4o", ["gpt"])])
    (fun _ => some "key") _ rfl).mpr ?_
  intro modelId entry hentry
  cases hentry

/-- Registered again without the alias, the provider keeps the alias with its first
adapter. -/
theorem alias_of_replaced_adapter :
    let after := (withProvider (provider "a" [("gpt-4o", ["gpt"])])).register
      (provider "a" [("gpt-4o", [])]) fun _ => some "key"
    after.1 = none ∧ (after.2.lookupAdapter "gpt").map (·.id) = some 0 ∧
      (after.2.adapters.get? "a").map (·.id) = some 1 :=
  ⟨rfl, rfl, rfl⟩

end Manager
end ProductionStack.ExternalProviders

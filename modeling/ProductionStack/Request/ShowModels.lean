import ProductionStack.Request.Availability

/-!
`show_models` against the routing of requests. The list shows the models of the
engines first, then those of the external providers and then the aliases, and the
first of a name stays; a request is resolved through the aliases first, then given
to an external provider, and then to an engine. What is listed is read from
`model_info`, and what is routed from `model_names`.
-/

namespace ProductionStack.Request

open Lib Python Stats Py

/-- A `ModelInfo`, and the `ModelCard` made of it. -/
structure ModelCard where
  id : String
  object : String
  created : Int
  ownedBy : String
  root : Option String
  parent : Option String
  extraFields : JsonObject

/-- An endpoint with its `model_info`, whose keys are the ids of the models. -/
structure ListedEndpoint extends EndpointInfo where
  modelInfo : List (String × ModelCard)
  keyed : ∀ entry ∈ modelInfo, entry.2.id = entry.1

/-- An entry of `_model_index`. -/
structure ExternalModel where
  providerName : String
  canonicalModelId : String

/-- What the list and the router read: the endpoints of service discovery, its
memory and its aliases, and the registry of external providers. -/
structure Catalogue where
  endpoints : List ListedEndpoint
  memory : Option (String → Bool)
  aliases : Dict String String
  registry : Option (Dict String ExternalModel)

/-- Where a card says its model comes from. -/
inductive Origin where
  | engine
  | provider (name : String)
  | alternate (root : String)

variable {name : String} {e : Event} {request : ClientRequest} {fields : JsonObject}

namespace Catalogue

variable (c : Catalogue)

def snapshot : List EndpointInfo := c.endpoints.map (·.toEndpointInfo)

def isExternalModel (model : String) : Bool := c.registry.any (model ∈ ·)

def getProviderName (model : String) : Option String :=
  (c.registry.bind (·.get? model)).map (·.providerName)

/-- The model that a name stands for. -/
def resolve (name : String) : String := (c.aliases.get? name).getD name

/-! The list. -/

/-- `if model_id in existing_models: continue`. -/
def addCard (listed : List (Origin × ModelCard)) (entry : Origin × ModelCard) :
    List (Origin × ModelCard) :=
  if listed.any (·.2.id = entry.2.id) then listed else listed ++ [entry]

def engineCards : List (Origin × ModelCard) :=
  c.endpoints.flatMap fun endpoint => endpoint.modelInfo.map fun (_, info) => (.engine, info)

def providerCards (now : Int) : List (Origin × ModelCard) :=
  match c.registry with
  | none => []
  | some registry => registry.entries.map fun (id, model) =>
    (.provider model.providerName, ⟨id, "model", now, model.providerName, none, none, []⟩)

def aliasCards (now : Int) : List (Origin × ModelCard) :=
  c.aliases.entries.map fun (name, canonical) =>
    (.alternate canonical, ⟨name, "model", now, "vllm", some canonical, none, []⟩)

def listing (now : Int) : List (Origin × ModelCard) :=
  let listed := c.engineCards.foldl addCard []
  let listed := (c.providerCards now).foldl addCard listed
  (c.aliasCards now).foldl addCard listed

def showModels (now : Int) : List ModelCard := (c.listing now).map Prod.snd

variable {entry : Origin × ModelCard} {now : Int} {listed : List (Origin × ModelCard)}
  {card : ModelCard}

theorem mem_addCard {other : Origin × ModelCard} (h : other ∈ addCard listed entry) :
    other ∈ listed ∨ other = entry := by
  unfold addCard at h
  split at h
  · exact Or.inl h
  · exact (List.mem_append.mp h).imp_right List.mem_singleton.mp

theorem mem_foldl_addCard {entries : List (Origin × ModelCard)}
    (h : entry ∈ entries.foldl addCard listed) : entry ∈ listed ∨ entry ∈ entries := by
  induction entries generalizing listed with
  | nil => exact Or.inl h
  | cons first rest ih =>
    rcases ih h with h | h
    · rcases mem_addCard h with h | rfl
      · exact Or.inl h
      · exact Or.inr List.mem_cons_self
    · exact Or.inr (List.mem_cons_of_mem _ h)

/-- A card is one of an engine, of a provider or of an alias. -/
theorem mem_listing (h : entry ∈ c.listing now) :
    entry ∈ c.engineCards ∨ entry ∈ c.providerCards now ∨ entry ∈ c.aliasCards now := by
  rcases mem_foldl_addCard h with h | h
  · rcases mem_foldl_addCard h with h | h
    · rcases mem_foldl_addCard h with h | h
      · cases h
      · exact Or.inl h
    · exact Or.inr (Or.inl h)
  · exact Or.inr (Or.inr h)

theorem origin_engineCards (h : entry ∈ c.engineCards) : entry.1 = .engine := by
  obtain ⟨endpoint, -, h⟩ := List.mem_flatMap.mp h
  obtain ⟨info, -, rfl⟩ := List.mem_map.mp h
  rfl

theorem isExternalModel_iff (model : String) :
    c.isExternalModel model = true ↔ ∃ name, c.getProviderName model = some name := by
  unfold isExternalModel getProviderName
  cases c.registry with
  | none => simp
  | some registry => simp [Dict.mem_iff_get?]

/-- What is no alias stands for itself. -/
theorem resolve_of_not_mem (h : name ∉ c.aliases) : c.resolve name = name := by
  unfold resolve
  rw [(c.aliases.get?_eq_none_iff name).mpr h]
  rfl

/-- The card of a provider's model names the provider. -/
theorem providerName_of_listed (h : (.provider name, card) ∈ c.listing now) :
    c.getProviderName card.id = some name := by
  rcases c.mem_listing h with h | h | h
  · cases c.origin_engineCards h
  · unfold providerCards at h
    split at h
    · cases h
    · rename_i registry hregistry
      obtain ⟨⟨id, model⟩, hentry, hcard⟩ := List.mem_map.mp h
      cases hcard
      unfold getProviderName
      rw [hregistry, Option.bind_some, registry.get?_of_mem_entries hentry]
      rfl
  · obtain ⟨_, -, hcard⟩ := List.mem_map.mp h
    cases hcard

/-- The card of an alias shows what it stands for. -/
theorem resolve_of_listed {root : String} (h : (.alternate root, card) ∈ c.listing now) :
    c.resolve card.id = root := by
  rcases c.mem_listing h with h | h | h
  · cases c.origin_engineCards h
  · unfold providerCards at h
    split at h
    · cases h
    · obtain ⟨_, -, hcard⟩ := List.mem_map.mp h
      cases hcard
  · obtain ⟨⟨name, canonical⟩, hentry, hcard⟩ := List.mem_map.mp h
    cases hcard
    unfold resolve
    rw [c.aliases.get?_of_mem_entries hentry]
    rfl

end Catalogue

/-- The router reads the same state. -/
def Deployment.showing (deployment : Deployment) (c : Catalogue) : Deployment :=
  { deployment with
    aliases := c.aliases.entries
    externalModels := c.registry.map (·.keys)
    remembersModels := c.memory.isSome }

/-! No listed model is missing. -/

/-- In some run the router answers 404 itself, and hands the request on to nobody. -/
def AnsweredNotFound (known : (e : Event) → e.Answer → Prop) (p : Py service Unit Response) :
    Prop :=
  ∃ window ≠ 0, ∃ earlier response w,
    Prog.Reaches ((informed known).before Event.isHandover) (p ()) (.start window earlier)
      (.ret (.ok (.plain response), ())) w ∧ response.status = 404

/-- An external provider has the model, an endpoint admits the request for it, or
it is remembered. -/
def Catalogue.Obtainable (c : Catalogue) (request : ClientRequest) (model : String) : Prop :=
  c.isExternalModel model = true ∨ (∃ endpoint ∈ c.snapshot, request.admits model endpoint = true) ∨
    c.memory.any (· model) = true

/-- A provider's model that no alias redirects is always found. -/
def Catalogue.Found (c : Catalogue) (request : ClientRequest) (card : ModelCard) : Origin → Prop
  | .engine => c.Obtainable request (c.resolve card.id)
  | .provider _ => card.id ∈ c.aliases → c.Obtainable request (c.resolve card.id)
  | .alternate root => c.Obtainable request root

theorem isLocal_showing (deployment : Deployment) (c : Catalogue) (model : String) :
    (deployment.showing c).isLocal model = !c.isExternalModel model := by
  unfold Deployment.isLocal Deployment.showing Catalogue.isExternalModel
  cases c.registry with
  | none => rfl
  | some registry =>
    change (!registry.keys.contains model) = !decide (model ∈ registry.keys)
    rw [List.contains_eq_mem]

namespace Forwarding

variable (f : Forwarding)

/-- The response of an attempt is a timeout. -/
def TimesOut : AfterAttempt → Prop
  | .respond response => response.status = 504
  | .stop | .rotate => True

theorem onAttemptError_timesOut : ∀ raised, Returns TimesOut (f.onAttemptError raised)
  | .interrupt _ => returns_raise _
  | .error e => by
      simp only [onAttemptError]
      split_ifs
      · exact returns_raise _
      · apply returns_then
        intro _
        apply returns_then
        intro _
        exact returns_pure trivial
      · apply returns_then
        intro _
        apply returns_then
        intro _
        apply returns_pure
        unfold TimesOut preHeaderTimeoutResponse
        split_ifs <;> rfl
      · apply returns_then
        intro _
        exact returns_pure trivial

theorem tryServer_timesOut : Returns TimesOut f.tryServer := by
  apply Returns.tryExcept
  · apply returns_then
    intro _
    apply returns_then
    rintro ⟨headers, status, generator⟩
    apply returns_then
    intro _
    exact returns_pure trivial
  · intro raised
    apply returns_then
    intro _
    exact f.onAttemptError_timesOut raised

theorem attempts_timesOut (left attempt : Nat) :
    Returns (fun answer => ∀ response, answer = some response → response.status = 504)
      (f.attempts left attempt) := by
  induction left generalizing attempt with
  | zero =>
    apply returns_pure
    intro response h
    cases h
  | succ left ih =>
    apply returns_then
    intro found
    cases found with
    | false =>
      apply returns_pure
      intro response h
      cases h
    | true =>
      apply returns_then
      intro _
      apply returns_then
      intro _
      apply f.tryServer_timesOut.bind
      intro after htimesOut
      cases after with
      | stop =>
        apply returns_pure
        intro response h
        cases h
      | rotate => exact ih (attempt + 1)
      | respond answer =>
        apply returns_pure
        intro response h
        obtain rfl := Option.some.inj h
        exact htimesOut

/-- A response that is not streamed has another status than 404. -/
def NotMissing : Response → Prop
  | .plain response => response.status ≠ 404
  | .streaming _ _ _ _ => True

theorem conclude_notMissing : Returns NotMissing f.conclude := by
  apply returns_then
  intro l
  cases l.lastError with
  | some e =>
    dsimp only
    split_ifs
    · apply returns_then
      intro _
      apply returns_pure
      change (502 : Nat) ≠ 404
      decide
    · apply returns_then
      intro _
      exact returns_raise _
  | none =>
    dsimp only
    split
    · exact returns_pure trivial
    · exact returns_raise _

/-- The failover loop itself never answers 404. -/
theorem forward_notMissing : Returns NotMissing f.forward := by
  apply returns_then
  intro _
  apply returns_then
  intro _
  apply (f.attempts_timesOut _ _).bind
  intro answer htimesOut
  cases answer with
  | some response =>
    apply returns_pure
    change response.status ≠ 404
    rw [htimesOut response rfl]
    decide
  | none => exact f.conclude_notMissing

end Forwarding

section Handed

variable {taken : List EndpointInfo} {memory : Option (String → Bool)} {w : World}
  {deployment : Deployment} {path : String} {bytes : Bytes}

/-- No run goes on after a handover. -/
theorem ensures_blocked {L α : Type} {env : Env service World} {l : L}
    {f : e.Answer → Py service L α} {post : Except Raised α → L → World → Prop}
    (he : e.isHandover = true) :
    Ensures (env.before Event.isHandover) (fun _ _ => True) (note e >>= f) l w post := by
  refine ⟨trivial, ?_⟩
  rintro answer w' ⟨hnot, -⟩
  rw [he] at hnot
  cases hnot

/-- An event before the handover, and then the rest of the function. -/
theorem ensures_passed {L α : Type} {known : (e : Event) → e.Answer → Prop} {l : L}
    {f : e.Answer → Py service L α} {post : Except Raised α → L → World → Prop} (hw : Windowed w)
    (hf : ∀ answer w', informed known w e answer w' → Windowed w' →
      Ensures ((informed known).before Event.isHandover) (fun _ _ => True) (f answer) l w' post) :
    Ensures ((informed known).before Event.isHandover) (fun _ _ => True) (note e >>= f) l w
      post := by
  refine ⟨trivial, ?_⟩
  rintro answer w' ⟨-, hstep⟩
  exact hf answer w' hstep (windowed_step hw hstep.1)

namespace GeneralCall

variable (c : GeneralCall)

theorem routeAmong_handed {json : JsonObject} {body : Body} (everExisted : Bool)
    (hadmitted : ∃ endpoint ∈ taken, c.request.admits name endpoint = true) (hw : Windowed w) :
    Ensures ((informed (consulted taken memory)).before Event.isHandover) (fun _ _ => True)
      (c.routeAmong taken (.str name) json body everExisted) () w
      fun r _ _ => ∀ response, r = .ok response → Forwarding.NotMissing response := by
  apply ensures_seq ((c.readStats_reads hw).before _)
  · rintro _ _ w₁ ⟨-, hw₁⟩
    apply ensures_passed hw₁
    intro _ w₂ _ _
    rw [c.mayServe_str]
    cases hfilter : taken.filter (c.request.admits name) with
    | nil =>
      obtain ⟨endpoint, hmember, hadmits⟩ := hadmitted
      rw [List.filter_eq_nil_iff] at hfilter
      exact absurd hadmits (hfilter endpoint hmember)
    | cons first rest =>
      apply ensures_call.mpr
      exact (c.forwarding (first :: rest)).forward_notMissing.run _ _ _ _
  · intro raised _ _ _ response h
    cases h

theorem routeNamed_handed (hmemory : c.deployment.remembersModels = memory.isSome)
    (hhanded : c.deployment.isLocal (c.deployment.resolve name) = false ∨
      ∃ endpoint ∈ taken, c.request.admits (c.deployment.resolve name) endpoint = true)
    (hw : Windowed w) :
    Ensures ((informed (consulted taken memory)).before Event.isHandover) (fun _ _ => True)
      (c.routeNamed name bytes fields) () w
      fun r _ _ => ∀ response, r = .ok response → Forwarding.NotMissing response := by
  apply ensures_passed hw
  intro snapshot w₁ hstep hw₁
  obtain rfl : snapshot = taken := hstep.2
  cases hlocal : c.deployment.isLocal (c.deployment.resolve name) with
  | false =>
    exact ensures_blocked rfl
  | true =>
    have hadmitted := hhanded.resolve_left (by rw [hlocal]; decide)
    apply ensures_seq ((c.modelEverExisted_remembers _ hmemory hw₁).before _)
    · rintro everExisted _ w₂ ⟨-, hw₂⟩
      exact c.routeAmong_handed everExisted hadmitted hw₂
    · intro raised _ _ _ response h
      cases h

end GeneralCall

theorem routeNamedRequest_handed (hmemory : deployment.remembersModels = memory.isSome)
    (hhanded : deployment.isLocal (deployment.resolve name) = false ∨
      ∃ endpoint ∈ taken, request.admits (deployment.resolve name) endpoint = true)
    (hw : Windowed w) :
    Ensures ((informed (consulted taken memory)).before Event.isHandover) (fun _ _ => True)
      (routeNamedRequest deployment request path name bytes fields) () w
      fun r _ _ => ∀ response, r = .ok response → Forwarding.NotMissing response := by
  apply ensures_passed hw
  intro _ w₁ _ hw₁
  apply ensures_seq ((openRouterSpan_opens _ _ hw₁).before _)
  · rintro span _ w₂ ⟨-, hw₂⟩
    apply ensures_seq
      ((GeneralCall.preRequest_passes ⟨deployment, request, path, span⟩ fields hw₂).before _)
    · rintro overwrite _ w₃ ⟨hpasses, hw₃⟩
      obtain rfl : overwrite = none := Except.ok.inj hpasses
      exact GeneralCall.routeNamed_handed ⟨deployment, request, path, span⟩ hmemory hhanded hw₃
    · intro raised _ _ _ response h
      cases h
  · intro raised _ _ _ response h
    cases h

/-- A request that is not handed on is answered 404 if the model is not remembered. -/
theorem answeredNotFound_unserved (hmemory : deployment.remembersModels = memory.isSome)
    (hlocal : deployment.isLocal (deployment.resolve name) = true)
    (hunserved : ∀ endpoint ∈ taken, request.admits (deployment.resolve name) endpoint = false) :
    AnsweredNotFound (consulted taken memory)
        (routeNamedRequest deployment request path name bytes fields) ↔
      memory.any (· (deployment.resolve name)) = false := by
  constructor
  · rintro ⟨window, hwindow, earlier, response, w, hrun, hstatus⟩
    have hw := windowed_start hwindow earlier
    have hresult := ((routeNamedRequest_unserved hmemory hlocal hunserved hw).before _).returned hrun
    obtain rfl := Response.plain.inj (Except.ok.inj hresult)
    rw [Bool.eq_false_iff]
    intro hseen
    rw [hseen] at hstatus
    cases hstatus
  · intro hunseen
    have hopen := (unhindered_consulted taken memory).before
    have htaken : Answers (informed (consulted taken memory)) Idle .getEndpointInfo taken :=
      answers_informed rfl trivial rfl
    have hseen : Answers (informed (consulted taken memory)) Idle
        (.hasEverSeenModel (.str (deployment.resolve name)))
        (.ok (memory.any (· (deployment.resolve name)))) := answers_consulted_seen _
    obtain ⟨w, -, hrun⟩ := (may_routeNamedRequest_unserved hopen (htaken.before rfl) hlocal
      hunserved (hseen.before rfl)).run () (.start 60 []) rfl
    refine ⟨60, by decide, [], _, w, hrun, ?_⟩
    rw [hunseen, Bool.and_false]
    rfl

end Handed

/-- A request is answered 404 in some run exactly if the model that its name stands
for cannot be obtained. -/
theorem answeredNotFound_iff (c : Catalogue) (deployment : Deployment) (path : String)
    (hrouter : deployment.router.isDisaggregated = false)
    (hfields : request.fields? deployment.app.recursionLimit = some fields)
    (hname : namedModel fields = some name) : AnsweredNotFound (consulted c.snapshot c.memory)
        (routeGeneralRequest (deployment.showing c) request path) ↔
      ¬ c.Obtainable request (c.resolve name) := by
  have hnamed : ∃ bytes, routeGeneralRequest (deployment.showing c) request path =
      routeNamedRequest (deployment.showing c) request path name bytes fields :=
    routeGeneralRequest_named path hrouter hfields hname
  obtain ⟨bytes, hnamed⟩ := hnamed
  rw [hnamed]
  by_cases hhanded : (deployment.showing c).isLocal ((deployment.showing c).resolve name) = false ∨
      ∃ endpoint ∈ c.snapshot, request.admits ((deployment.showing c).resolve name) endpoint = true
  · -- the request is handed on
    have hobtainable : c.Obtainable request (c.resolve name) := by
      rcases hhanded with hexternal | hadmitted
      · rw [isLocal_showing, Bool.not_eq_false'] at hexternal
        exact Or.inl hexternal
      · exact Or.inr (Or.inl hadmitted)
    refine iff_of_false ?_ (not_not_intro hobtainable)
    rintro ⟨window, hwindow, earlier, response, w, hrun, hstatus⟩
    have hw := windowed_start hwindow earlier
    exact (routeNamedRequest_handed rfl hhanded hw).returned hrun _ rfl hstatus
  · -- the router answers the request itself
    rw [not_or, Bool.not_eq_false] at hhanded
    obtain ⟨hlocal, hnone⟩ := hhanded
    have hunserved : ∀ endpoint ∈ c.snapshot,
        request.admits ((deployment.showing c).resolve name) endpoint = false := by
      intro endpoint hmember
      rw [Bool.eq_false_iff]
      intro hadmits
      exact hnone ⟨endpoint, hmember, hadmits⟩
    have hexternal : c.isExternalModel (c.resolve name) = false := by
      rw [isLocal_showing, Bool.not_eq_true'] at hlocal
      exact hlocal
    have hobtainable : c.Obtainable request (c.resolve name) ↔
        c.memory.any (· (c.resolve name)) = true := by
      unfold Catalogue.Obtainable
      rw [hexternal]
      refine ⟨fun h => ?_, fun h => Or.inr (Or.inr h)⟩
      rcases h with h | h | h
      · cases h
      · exact absurd h hnone
      · exact h
    rw [hobtainable, Bool.not_eq_true]
    exact answeredNotFound_unserved rfl hlocal hunserved

/-- A listed model is not answered 404 exactly if it is found. -/
theorem listed_found_iff (c : Catalogue) (now : Int) (deployment : Deployment)
    (request : ClientRequest) (path : String) (origin : Origin) (card : ModelCard)
    (fields : JsonObject) (hlisted : (origin, card) ∈ c.listing now)
    (hrouter : deployment.router.isDisaggregated = false)
    (hfields : request.fields? deployment.app.recursionLimit = some fields)
    (hname : namedModel fields = some card.id) :
    ¬ AnsweredNotFound (consulted c.snapshot c.memory)
        (routeGeneralRequest (deployment.showing c) request path) ↔ c.Found request card origin := by
  rw [answeredNotFound_iff c deployment path hrouter hfields hname, not_not]
  cases origin with
  | engine => exact Iff.rfl
  | provider name =>
    refine ⟨fun h _ => h, fun h => ?_⟩
    by_cases hredirected : card.id ∈ c.aliases
    · exact h hredirected
    · -- the request goes to the provider that the card shows
      rw [c.resolve_of_not_mem hredirected]
      exact Or.inl ((c.isExternalModel_iff _).mpr ⟨name, c.providerName_of_listed hlisted⟩)
  | alternate root =>
    rw [c.resolve_of_listed hlisted]
    exact Iff.rfl

/-- The card of a model on an engine. -/
def engineCard (model : String) : ModelCard := ⟨model, "model", 0, "vllm", none, none, []⟩

/-- An engine that lists and serves one model. -/
def listedEngine (model : String) (sleep : Bool) : ListedEndpoint where
  url := "http://a"
  modelNames := [model]
  id := "a"
  modelLabel := none
  sleep := sleep
  modelInfo := [(model, engineCard model)]
  keyed := by
    intro entry h
    obtain rfl := List.mem_singleton.mp h
    rfl

/-- One engine, and the registry of external providers. Service discovery remembers
no models. -/
def oneEngine (model : String) (sleep : Bool) (registry : Option (Dict String ExternalModel)) :
    Catalogue := ⟨[listedEngine model sleep], none, .empty, registry⟩

/-- A model on an engine that is awake is found. -/
theorem listed_found_awake :
    ¬ AnsweredNotFound (consulted (oneEngine "m" false none).snapshot none)
      (routeGeneralRequest ((aliasing []).showing (oneEngine "m" false none)) modelRequest
        "/v1/completions") := by
  obtain ⟨fields, hfields, hname⟩ := modelOnly_fields modelRequest rfl
  have hlisted : (Origin.engine, engineCard "m") ∈ (oneEngine "m" false none).listing 0 :=
    List.mem_singleton.mpr rfl
  refine (listed_found_iff _ 0 _ _ _ _ _ fields hlisted rfl hfields hname).mpr ?_
  exact Or.inr (Or.inl ⟨_, List.mem_singleton.mpr rfl, by decide⟩)

/-- A model on an engine that is asleep is listed, and answered 404. -/
theorem listed_asleep_not_found :
    (Origin.engine, engineCard "m") ∈ (oneEngine "m" true none).listing 0 ∧
      AnsweredNotFound (consulted (oneEngine "m" true none).snapshot none)
        (routeGeneralRequest ((aliasing []).showing (oneEngine "m" true none)) modelRequest
          "/v1/completions") := by
  refine ⟨List.mem_singleton.mpr rfl, ?_⟩
  obtain ⟨fields, hfields, hname⟩ := modelOnly_fields modelRequest rfl
  refine (answeredNotFound_iff _ (aliasing []) _ rfl hfields hname).mpr ?_
  rintro (h | ⟨endpoint, hmember, hadmits⟩ | h)
  · cases h
  · obtain rfl := List.mem_singleton.mp hmember
    cases hadmits
  · cases h

/-! A listed model comes from where its card says. -/

/-- The request is given to the router, with endpoints that all serve the id. -/
def GoesToEngine (id : String) (e : Event) : Prop :=
  ∃ router endpoints json, e = .routeRequest router endpoints json ∧
    ∀ endpoint ∈ endpoints, endpoint.serves id = true

/-- The request is given to this external provider. -/
def GoesToProvider (c : Catalogue) (name : String) (e : Event) : Prop :=
  ∃ json model, e = .externalProvider json ∧ namedModel json = some model ∧
    c.getProviderName model = some name

/-- The body that is handed on. -/
def Event.handedJson? : Event → Option JsonObject
  | .routeRequest _ _ json | .externalProvider json => some json
  | _ => none

/-- The request goes where the card says, and is rewritten to the root that it shows. -/
def Catalogue.RoutedAsShown (c : Catalogue) (p : Py service Unit Response) (card : ModelCard) :
    Origin → Prop
  | .engine => (∃ e, HandsOn c.snapshot p e) ∧
      ∀ e, HandsOn c.snapshot p e → GoesToEngine card.id e
  | .provider name => (∃ e, HandsOn c.snapshot p e) ∧
      ∀ e, HandsOn c.snapshot p e → GoesToProvider c name e
  | .alternate root => ∀ e, HandsOn c.snapshot p e →
      e.handedJson?.bind namedModel = some root

/-- No card hides what the request is resolved to. -/
def Catalogue.Undisguised (c : Catalogue) (card : ModelCard) : Origin → Prop
  | .engine => c.isExternalModel (c.resolve card.id) = false ∧
      (∃ endpoint ∈ c.snapshot, endpoint.serves (c.resolve card.id) = true) ∧
      ∀ endpoint ∈ c.snapshot, endpoint.serves (c.resolve card.id) = true →
        endpoint.serves card.id = true
  | .provider name => c.getProviderName (c.resolve card.id) = some name
  | .alternate _ => True

section Origins

variable (c : Catalogue) (deployment : Deployment)

theorem handover_showing : (deployment.showing c).handover c.snapshot name fields =
      if c.isExternalModel (c.resolve name) then
        some (.externalProvider ((deployment.showing c).resolvedJson name fields))
      else offer deployment.router ((deployment.showing c).resolvedJson name fields)
        (c.snapshot.filter (·.serves (c.resolve name))) := by
  have hresolve : (deployment.showing c).resolve name = c.resolve name := rfl
  unfold Deployment.handover
  rw [isLocal_showing, hresolve]
  cases c.isExternalModel (c.resolve name) <;> rfl

theorem decided_iff {decided : Option Event} {P : Event → Prop} :
    ((∃ e, decided = some e) ∧ ∀ e, decided = some e → P e) ↔ ∃ e, decided = some e ∧ P e := by
  cases decided with
  | none => simp
  | some e => simp

/-- An offer goes to engines that serve the id if there is one and all do. -/
theorem offer_goesToEngine (router : RouterKind) (json : JsonObject) (id : String)
    (endpoints : List EndpointInfo) :
    (∃ e, offer router json endpoints = some e ∧ GoesToEngine id e) ↔
      endpoints ≠ [] ∧ ∀ endpoint ∈ endpoints, endpoint.serves id = true := by
  constructor
  · rintro ⟨e, hoffer, _, _, _, rfl, hserve⟩
    obtain ⟨hne, h⟩ := offer_some hoffer
    cases h
    exact ⟨hne, hserve⟩
  · rintro ⟨hne, hserve⟩
    cases endpoints with
    | nil => exact absurd rfl hne
    | cons first rest => exact ⟨_, rfl, _, _, _, rfl, hserve⟩

theorem handover_engine_iff (id : String) :
    (∃ e, (deployment.showing c).handover c.snapshot name fields = some e ∧ GoesToEngine id e) ↔
      c.isExternalModel (c.resolve name) = false ∧
        (∃ endpoint ∈ c.snapshot, endpoint.serves (c.resolve name) = true) ∧
        ∀ endpoint ∈ c.snapshot, endpoint.serves (c.resolve name) = true →
          endpoint.serves id = true := by
  rw [handover_showing]
  cases hexternal : c.isExternalModel (c.resolve name) with
  | true =>
    refine iff_of_false ?_ ?_
    · rintro ⟨e, he, _, _, _, rfl, -⟩
      cases he
    · rintro ⟨h, -⟩
      cases h
  | false =>
    rw [if_neg Bool.false_ne_true, offer_goesToEngine]
    simp [List.filter_eq_nil_iff]

theorem handover_provider_iff (hname : namedModel fields = some name) (provider : String) :
    (∃ e, (deployment.showing c).handover c.snapshot name fields = some e ∧
        GoesToProvider c provider e) ↔
      c.getProviderName (c.resolve name) = some provider := by
  have hmodel : namedModel ((deployment.showing c).resolvedJson name fields) =
      some (c.resolve name) := namedModel_resolvedJson hname
  rw [handover_showing]
  constructor
  · rintro ⟨e, he, json, model, rfl, hnamed, hprovider⟩
    split_ifs at he
    · obtain rfl := Event.externalProvider.inj (Option.some.inj he)
      rw [hmodel] at hnamed
      obtain rfl := Option.some.inj hnamed
      exact hprovider
    · obtain ⟨-, h⟩ := offer_some he
      cases h
  · intro hprovider
    rw [if_pos ((c.isExternalModel_iff _).mpr ⟨provider, hprovider⟩)]
    exact ⟨_, rfl, _, _, rfl, hmodel, hprovider⟩

/-- Whatever is handed on names the model that the name stands for. -/
theorem handover_names (hname : namedModel fields = some name)
    (h : (deployment.showing c).handover c.snapshot name fields = some e) :
    e.handedJson?.bind namedModel = some (c.resolve name) := by
  have hmodel : namedModel ((deployment.showing c).resolvedJson name fields) =
      some (c.resolve name) := namedModel_resolvedJson hname
  rw [handover_showing] at h
  split_ifs at h
  · obtain rfl := Option.some.inj h
    exact hmodel
  · obtain ⟨-, rfl⟩ := offer_some h
    exact hmodel

end Origins

/-- A listed model is routed as its card shows exactly if the card does not hide
what the request is resolved to. -/
theorem routed_as_shown_iff (c : Catalogue) (now : Int) (deployment : Deployment)
    (request : ClientRequest) (path : String) (origin : Origin) (card : ModelCard)
    (fields : JsonObject) (hlisted : (origin, card) ∈ c.listing now)
    (hrouter : deployment.router.isDisaggregated = false)
    (hfields : request.fields? deployment.app.recursionLimit = some fields)
    (hname : namedModel fields = some card.id) (hunpinned : request.isPinned = false) :
    c.RoutedAsShown (routeGeneralRequest (deployment.showing c) request path) card origin ↔
      c.Undisguised card origin := by
  have hrouter' : (deployment.showing c).router.isDisaggregated = false := hrouter
  have hfields' : request.fields? (deployment.showing c).app.recursionLimit = some fields := hfields
  have hhands := routeGeneralRequest_handsOn path c.snapshot hrouter' hfields' hname hunpinned
  unfold Catalogue.RoutedAsShown
  simp only [hhands]
  cases origin with
  | engine => exact decided_iff.trans (handover_engine_iff c deployment card.id)
  | provider name => exact decided_iff.trans (handover_provider_iff c deployment hname name)
  | alternate root =>
    refine iff_of_true ?_ trivial
    intro e he
    rw [← c.resolve_of_listed hlisted]
    exact handover_names c deployment hname he

/-- An engine's model that no provider has is routed to the engine. -/
theorem routed_as_shown_engine :
    (oneEngine "m" false none).RoutedAsShown
      (routeGeneralRequest ((aliasing []).showing (oneEngine "m" false none)) modelRequest
        "/v1/completions") (engineCard "m") .engine := by
  obtain ⟨fields, hfields, hname⟩ := modelOnly_fields modelRequest rfl
  have hlisted : (Origin.engine, engineCard "m") ∈ (oneEngine "m" false none).listing 0 :=
    List.mem_singleton.mpr rfl
  refine (routed_as_shown_iff _ 0 _ _ _ _ _ fields hlisted rfl hfields hname rfl).mpr ?_
  refine ⟨rfl, ⟨_, List.mem_singleton.mpr rfl, by decide⟩, ?_⟩
  intro endpoint _ hserves
  exact hserves

/-- An engine and a provider that both have `m`. -/
def contested : Catalogue := oneEngine "m" false (some (Dict.empty.set "m" ⟨"p", "m"⟩))

/-- The card shows the engine, and the request goes to the provider. -/
theorem contested_shown_as_engine :
    (Origin.engine, engineCard "m") ∈ contested.listing 0 ∧
      ¬ contested.RoutedAsShown (routeGeneralRequest ((aliasing []).showing contested) modelRequest
        "/v1/completions") (engineCard "m") .engine := by
  refine ⟨List.mem_singleton.mpr rfl, ?_⟩
  rintro ⟨-, hshown⟩
  obtain ⟨fields, hfields, hname⟩ := modelOnly_fields modelRequest rfl
  have hrouter : ((aliasing []).showing contested).router.isDisaggregated = false := rfl
  have hhands := routeGeneralRequest_handsOn "/v1/completions" contested.snapshot hrouter hfields
    hname rfl
  obtain ⟨e, he, hprovider⟩ := (handover_provider_iff contested (aliasing []) hname "p").mpr rfl
  obtain ⟨_, _, _, rfl, -⟩ := hshown e ((hhands e).mpr he)
  obtain ⟨_, _, h, -⟩ := hprovider
  cases h

end ProductionStack.Request

import ProductionStack.Request.Destinations

/-!
Where a request is handed on. A JSON request that names a model is handed to the
router, with the endpoints that serve the model its alias stands for, or to an
external provider; a multipart form is handed to the router with the endpoints
that serve the model as it is named. Both are read off from the snapshot.
-/

namespace ProductionStack.Request

open Lib Python Stats Py

/-- The request is given to the router, or to an external provider. -/
def Event.isHandover : Event → Bool
  | .routeRequest _ _ _ | .externalProvider _ => true
  | _ => false

/-- In some run in which service discovery shows `snapshot`, the request is first
handed on with `e`. -/
def HandsOn (snapshot : List EndpointInfo) (p : Py service Unit Response) (e : Event) : Prop :=
  ∃ window earlier, Prog.First (informed (discovered snapshot)) Event.isHandover (p ())
    (.start window earlier) e

/-! A JSON request that names a model. -/

/-- The routers that do not serve a request with one engine. -/
def RouterKind.isDisaggregated : RouterKind → Bool
  | .disaggregatedPrefill | .disaggregatedPrefillOrchestrated => true
  | _ => false

/-- The parsed body, with the model that an alias stands for. -/
def Deployment.resolvedJson (deployment : Deployment) (name : String) (fields : JsonObject) :
    JsonObject :=
  match deployment.aliases.lookup name with
  | some canonical => upsert "model" (.str canonical) fields
  | none => fields

def Deployment.resolvedBody (deployment : Deployment) (name : String) (bytes : Bytes)
    (fields : JsonObject) : Body :=
  match deployment.aliases.lookup name with
  | some canonical => .dumped (.obj (upsert "model" (.str canonical) fields))
  | none => .raw bytes

variable {fields : JsonObject} {deployment : Deployment} {name endpoint : String} {limit : Nat}
  {json : JsonObject} {snapshot : List EndpointInfo} {decided : Option Event}
  {env : Env service World} {known : (e : Event) → e.Answer → Prop}

theorem namedModel_resolvedJson (hname : namedModel fields = some name) :
    namedModel (deployment.resolvedJson name fields) = some (deployment.resolve name) := by
  unfold Deployment.resolvedJson Deployment.resolve
  cases deployment.aliases.lookup name with
  | some canonical => exact GeneralCall.namedModel_upsert canonical fields
  | none => exact hname

theorem lookup_of_namedModel (h : namedModel fields = some name) :
    fields.lookup "model" = some (.str name) := by
  unfold namedModel at h
  split at h
  · rename_i name' hlookup
    rw [hlookup, Option.some.inj h]
  · cases h

variable {request : ClientRequest}

theorem fields?_some (h : request.fields? limit = some fields) :
    ∃ bytes, request.body = .ok bytes ∧ jsonLoads limit bytes = .ok (.obj fields) := by
  unfold ClientRequest.fields? at h
  split at h
  · rename_i bytes hbody
    split at h
    · rename_i fields' hloads
      obtain rfl : fields' = fields := Option.some.inj h
      exact ⟨bytes, hbody, hloads⟩
    · cases h
  · cases h

variable {bytes : Bytes}

/-- An object is never what an empty body is read as. -/
theorem parse_of_loads (hloads : jsonLoads limit bytes = .ok (.obj fields)) :
    parseRequestBody limit bytes = .ok (.object fields) := by
  unfold parseRequestBody
  cases bytes with
  | nil => cases hloads
  | cons byte rest =>
    rw [hloads]
    rfl

namespace GeneralCall

variable (c : GeneralCall)

theorem rewritten_eq
    (hloads : jsonLoads c.deployment.app.recursionLimit bytes = .ok (.obj fields)) :
    c.rewritten bytes fields = .ok fields := by
  unfold rewritten
  split
  · rw [hloads]
  · rfl

/-- `routeObject`, once the body is known to name a model. -/
def routeNamed (name : String) (bytes : Bytes) (fields : JsonObject) :
    Py service Unit Response := do
  let snapshot ← note .getEndpointInfo
  if c.deployment.isLocal (c.deployment.resolve name) then do
    let everExisted ← c.modelEverExisted (.str (c.deployment.resolve name))
    c.routeAmong snapshot (.str (c.deployment.resolve name))
      (c.deployment.resolvedJson name fields) (c.deployment.resolvedBody name bytes fields)
      everExisted
  else c.routeExternal (c.deployment.resolvedJson name fields)

theorem routeModel_str (snapshot : List EndpointInfo) (name : String) (json : JsonObject)
    (body : Body) : c.routeModel snapshot (.str name) json body =
      if c.deployment.isLocal name then do
        let everExisted ← c.modelEverExisted (.str name)
        c.routeAmong snapshot (.str name) json body everExisted
      else c.routeExternal json := by
  unfold routeModel
  rw [isExternalModel_str]
  cases c.deployment.isLocal name <;> rfl

theorem routeObject_named
    (hloads : jsonLoads c.deployment.app.recursionLimit bytes = .ok (.obj fields))
    (hname : namedModel fields = some name) :
    c.routeObject bytes fields = c.routeNamed name bytes fields := by
  unfold routeObject
  rw [lookup_of_namedModel hname, c.rewritten_eq hloads]
  change (note .getEndpointInfo >>= fun snapshot => eval (c.aliasOf (.str name)) >>= _) = _
  refine congrArg (note .getEndpointInfo >>= ·) (funext fun snapshot => ?_)
  rw [aliasOf_str]
  unfold Deployment.resolve Deployment.resolvedJson Deployment.resolvedBody
  cases c.deployment.aliases.lookup name with
  | some canonical => exact c.routeModel_str snapshot canonical _ _
  | none => exact c.routeModel_str snapshot name fields (.raw bytes)

end GeneralCall

/-- `route_general_request` for a body that names a model. -/
def routeNamedRequest (deployment : Deployment) (request : ClientRequest) (endpoint name : String)
    (bytes : Bytes) (fields : JsonObject) : Py service Unit Response := do
  let _ ← time
  let span ← openRouterSpan deployment.app endpoint
  let overwrite ← GeneralCall.preRequest ⟨deployment, request, endpoint, span⟩ fields
  match overwrite with
  | some response =>
    pure (.plain { response with
      headers := upsert "X-Request-Id" request.requestId response.headers })
  | none => GeneralCall.routeNamed ⟨deployment, request, endpoint, span⟩ name bytes fields

theorem routeGeneralRequest_named (endpoint : String)
    (hrouter : deployment.router.isDisaggregated = false)
    (hfields : request.fields? deployment.app.recursionLimit = some fields)
    (hname : namedModel fields = some name) :
    ∃ bytes, routeGeneralRequest deployment request endpoint =
      routeNamedRequest deployment request endpoint name bytes fields := by
  obtain ⟨bytes, hbody, hloads⟩ := fields?_some hfields
  have hproxied : routeGeneralRequest deployment request endpoint =
      routeProxied deployment request endpoint := by
    unfold routeGeneralRequest
    split
    · rename_i h
      rw [h] at hrouter
      cases hrouter
    · rename_i h
      rw [h] at hrouter
      cases hrouter
    · rfl
  refine ⟨bytes, ?_⟩
  rw [hproxied]
  unfold routeProxied routeNamedRequest
  rw [hbody]
  refine congrArg (time >>= ·) (funext fun _ => ?_)
  change (eval (parseRequestBody deployment.app.recursionLimit bytes) >>= _) = _
  rw [parse_of_loads hloads]
  refine congrArg (openRouterSpan deployment.app endpoint >>= ·) (funext fun span => ?_)
  refine congrArg (GeneralCall.preRequest ⟨deployment, request, endpoint, span⟩ fields >>= ·)
    (funext fun overwrite => ?_)
  cases overwrite with
  | some response => rfl
  | none => exact GeneralCall.routeObject_named ⟨deployment, request, endpoint, span⟩ hloads hname

/-! What the snapshot decides. -/

/-- The router is only asked if there is something to choose from. -/
def offer (router : RouterKind) (json : JsonObject) : List EndpointInfo → Option Event
  | [] => none
  | first :: rest => some (.routeRequest router (first :: rest) json)

/-- Where a JSON request for a model is handed on: to the provider that has the
model, or else to the router with the endpoints that serve it. -/
def Deployment.handover (deployment : Deployment) (snapshot : List EndpointInfo) (name : String)
    (fields : JsonObject) : Option Event :=
  if deployment.isLocal (deployment.resolve name) then
    offer deployment.router (deployment.resolvedJson name fields)
      (snapshot.filter (·.serves (deployment.resolve name)))
  else some (.externalProvider (deployment.resolvedJson name fields))

/-- Where a multipart form is handed on. An empty name is no name. -/
def MultipartCall.handover (m : MultipartCall) (snapshot : List EndpointInfo) (name : String) :
    Option Event :=
  if name = "" then none
  else offer m.router (m.routingJson (.text name)) (snapshot.filter (·.serves name))

variable {e : Event} {endpoints : List EndpointInfo} {L : Type} {body : Body}

theorem offer_some {router : RouterKind} (h : offer router json endpoints = some e) :
    endpoints ≠ [] ∧ e = .routeRequest router endpoints json := by
  cases endpoints with
  | nil => cases h
  | cons first rest => exact ⟨List.cons_ne_nil _ _, (Option.some.inj h).symm⟩

/-- The endpoints of an offer are all that it was made of. -/
theorem mem_offer (router : RouterKind) (json : JsonObject) (endpoints : List EndpointInfo)
    (endpoint : EndpointInfo) : (∃ router' endpoints' json', offer router json endpoints =
        some (.routeRequest router' endpoints' json') ∧ endpoint ∈ endpoints') ↔
      endpoint ∈ endpoints := by
  cases endpoints with
  | nil => simp [offer]
  | cons first rest => simp [offer]

/-- The runs up to the first handover, while service discovery shows `snapshot`. -/
def upToHandover (snapshot : List EndpointInfo) : Env service World :=
  (informed (discovered snapshot)).before Event.isHandover

/-- In every run, what is handed on first is what is `decided`. -/
structure Foreseen (snapshot : List EndpointInfo) (decided : Option Event) {L α : Type}
    (p : Py service L α) (l : L) : Prop where
  run : ∀ w, Ensures (upToHandover snapshot) (fun _ e => e.isHandover = true → decided = some e)
    p l w fun _ _ _ => True

section Rules

variable {α β : Type} {l : L} {p : Py service L α}

theorem foreseen_of_performs
    (hp : Performs (fun e : Event => e.isHandover = false) p) : Foreseen snapshot decided p l := by
  constructor
  intro w
  refine hp.ensures ?_ (fun _ _ _ _ _ _ _ => trivial) trivial
  intro _ e _ he hhandover
  rw [he] at hhandover
  cases hhandover

theorem Foreseen.bind {f : α → Py service L β}
    (hp : Foreseen snapshot decided p l) (hf : ∀ a l', Foreseen snapshot decided (f a) l') :
    Foreseen snapshot decided (p >>= f) l := by
  constructor
  intro w
  apply ensures_seq (hp.run w)
  · intro a l' w' _
    exact (hf a l').run w'
  · intro _ _ _ _
    exact trivial

/-- A handover as decided; what follows does not matter. -/
theorem foreseen_handover {f : e.Answer → Py service L α} (he : e.isHandover = true)
    (hdecided : decided = some e) : Foreseen snapshot decided (note e >>= f) l := by
  constructor
  intro w
  refine ⟨fun _ => hdecided, ?_⟩
  rintro answer w' ⟨hnot, -⟩
  rw [he] at hnot
  cases hnot

theorem foreseen_getEndpointInfo {f : List EndpointInfo → Py service L α}
    (hf : Foreseen snapshot decided (f snapshot) l) :
    Foreseen snapshot decided (note .getEndpointInfo >>= f) l := by
  constructor
  intro w
  refine ⟨?_, ?_⟩
  · intro h
    cases h
  · rintro taken w' ⟨-, -, hknown⟩
    obtain rfl : taken = snapshot := hknown
    exact hf.run w'

theorem Foreseen.tryExcept {body : Py service L α} {handler : Raised → Py service L α}
    (hbody : Foreseen snapshot decided body l)
    (hhandler : ∀ raised l', Foreseen snapshot decided (handler raised) l') :
    Foreseen snapshot decided (tryExcept body handler) l := by
  constructor
  intro w
  apply ensures_tryExcept.mpr
  refine (hbody.run w).imp ?_
  intro r l' w' _
  cases r with
  | ok a => exact trivial
  | error raised => exact (hhandler raised l').run w'

theorem Foreseen.call {L' : Type} {p : Py service L' α} {l' : L'}
    (hp : Foreseen snapshot decided p l') : Foreseen snapshot decided (Py.call p l') l := by
  constructor
  intro w
  apply ensures_call.mpr
  exact hp.run w

end Rules

/-- A monitor that has counted nothing yet. -/
def Idle (w : World) : Prop := w.monitor = RequestStatsMonitor.init 60

/-- What is decided is what happens, if some run gets there. -/
theorem handsOn_iff {p : Py service Unit Response} (hp : Foreseen snapshot decided p ())
    (hgets : ∀ e, decided = some e → e.isHandover = true ∧ Gets (upToHandover snapshot) Idle p () e)
    (e : Event) : HandsOn snapshot p e ↔ decided = some e := by
  constructor
  · rintro ⟨window, earlier, hfirst⟩
    exact hfirst.meets (hp.run _)
  · intro hdecided
    obtain ⟨hhandover, hgets⟩ := hgets e hdecided
    exact ⟨60, [], hhandover, hgets.run _ rfl⟩

/-! The JSON request: every run. -/

theorem Forwarding.forward_foreseen {f : Forwarding} (hunpinned : f.isPinned = false)
    (hdecided : decided = some (.routeRequest f.router f.endpoints json)) :
    Foreseen snapshot decided f.forward (.start json body) := by
  constructor
  intro w
  apply ensures_bind.mpr
  unfold pickServer
  rw [hunpinned]
  refine ⟨fun _ => hdecided, ?_⟩
  rintro answer w' ⟨hnot, -⟩
  cases hnot

namespace GeneralCall

variable (c : GeneralCall)

/-- For a request without an id the filter is that of the model. -/
theorem mayServe_unpinned (name : String) (hunpinned : c.request.isPinned = false) :
    c.mayServe (.str name) = fun endpoint => endpoint.serves name := by
  have hpinned : c.pinnedId = none := by
    unfold ClientRequest.isPinned at hunpinned
    unfold pinnedId
    cases hid : c.request.queryId with
    | none => rfl
    | some id =>
      rw [hid] at hunpinned
      simpa using hunpinned
  funext endpoint
  unfold mayServe EndpointInfo.serves
  rw [hpinned]
  simp

theorem respond_foreseen (status : Nat) (message : String) :
    Foreseen snapshot decided (c.respond status message) () := by
  apply foreseen_of_performs
  exact (endRouterSpan_performs _ _ _ fun _ _ _ => rfl).bind fun _ => performs_ofExcept (.ok _)

theorem routeExternal_foreseen (json : JsonObject) (hdecided : decided = some (.externalProvider json)) :
    Foreseen snapshot decided (c.routeExternal json) () := by
  apply Foreseen.tryExcept
  · exact foreseen_handover rfl hdecided
  · intro raised _
    apply foreseen_of_performs
    cases raised with
    | interrupt i => exact performs_ofExcept _
    | error e =>
      exact (endRouterSpan_performs _ _ _ fun _ _ _ => rfl).bind fun _ => performs_ofExcept _

theorem routeAmong_foreseen (everExisted : Bool) (hunpinned : c.request.isPinned = false)
    (hdecided : ∀ first rest, snapshot.filter (·.serves name) = first :: rest →
      decided = some (.routeRequest c.deployment.router (first :: rest) json)) :
    Foreseen snapshot decided (c.routeAmong snapshot (.str name) json body everExisted) () := by
  apply (foreseen_of_performs (c.readStats_performs rfl fun _ => rfl)).bind
  intro _ _
  apply (foreseen_of_performs (performs_perform rfl)).bind
  intro _ _
  rw [c.mayServe_unpinned name hunpinned]
  split
  · split <;> exact c.respond_foreseen _ _
  · rename_i first rest hfilter
    apply Foreseen.call
    exact Forwarding.forward_foreseen hunpinned (hdecided first rest hfilter)

theorem routeNamed_foreseen (hunpinned : c.request.isPinned = false) :
    Foreseen snapshot (c.deployment.handover snapshot name fields)
      (c.routeNamed name bytes fields) () := by
  apply foreseen_getEndpointInfo
  split
  · rename_i hlocal
    apply (foreseen_of_performs (c.modelEverExisted_performs _ rfl)).bind
    intro everExisted _
    apply c.routeAmong_foreseen everExisted hunpinned
    intro first rest hfilter
    unfold Deployment.handover
    rw [if_pos hlocal, hfilter]
    rfl
  · rename_i hexternal
    apply c.routeExternal_foreseen
    unfold Deployment.handover
    rw [if_neg hexternal]

end GeneralCall

theorem routeNamedRequest_foreseen (hunpinned : request.isPinned = false) :
    Foreseen snapshot (deployment.handover snapshot name fields)
      (routeNamedRequest deployment request endpoint name bytes fields) () := by
  apply (foreseen_of_performs (performs_perform rfl)).bind
  intro _ _
  apply (foreseen_of_performs (openRouterSpan_performs _ _ fun _ => rfl)).bind
  intro span _
  apply (foreseen_of_performs (GeneralCall.preRequest_performs _ fields rfl)).bind
  intro overwrite _
  cases overwrite with
  | some response => exact foreseen_of_performs (performs_ofExcept (.ok _))
  | none => exact GeneralCall.routeNamed_foreseen ⟨deployment, request, endpoint, span⟩ hunpinned

/-! The JSON request: a run that gets there. -/

/-- What service discovery and the callbacks are asked. -/
def Event.isConsultation : Event → Bool
  | .getEndpointInfo | .hasEverSeenModel _ | .preRequest _ => true
  | _ => false

/-- From every state that meets `inv` the event may be answered so, and the state
meets `inv` again. -/
def Answers (env : Env service World) (inv : World → Prop) (e : Event) (answer : e.Answer) :
    Prop :=
  ∀ w, inv w → ∃ w', inv w' ∧ env w e answer w'

/-- Nothing goes wrong by itself: before a request is handed on, events may be
answered as one likes, but for what service discovery says, and the callbacks may
leave the request alone. -/
structure Unhindered (env : Env service World) (inv : World → Prop) : Prop where
  answers : ∀ (e : Event) (answer : e.Answer), e.op? = none → e.isHandover = false →
    e.isConsultation = false → answerable e answer → Answers env inv e answer
  stats : Answers env inv (.getRequestStats 0) (.ok .empty)
  passes : ∀ json, Answers env inv (.preRequest json) (.ok none)

variable {inv : World → Prop} {answer : e.Answer}

theorem Answers.may (h : Answers env inv e answer) :
    May env inv (note e : Py service L _) answer := may_perform h

theorem answers_informed (hop : e.op? = none) (hanswer : answerable e answer)
    (hknown : known e answer) : Answers (informed known) Idle e answer :=
  fun w hw => ⟨⟨w.monitor, w.log ++ [⟨e, answer⟩]⟩, hw,
    ⟨rfl, hanswer, monitorMoves_still answer hop⟩, hknown⟩

theorem Answers.before (h : Answers env inv e answer)
    (he : e.isHandover = false) : Answers (env.before Event.isHandover) inv e answer := by
  intro w hw
  obtain ⟨w', hw', hstep⟩ := h w hw
  exact ⟨w', hw', he, hstep⟩

theorem unhindered_informed
    (hknown : ∀ (e : Event) (answer : e.Answer), e.isConsultation = false → known e answer)
    (hpasses : ∀ json, known (.preRequest json) (.ok none)) : Unhindered (informed known) Idle where
  answers e answer hop _ hconsultation hanswer :=
    answers_informed hop hanswer (hknown e answer hconsultation)
  passes json := answers_informed rfl trivial (hpasses json)
  stats w hw := by
    refine ⟨⟨w.monitor, w.log ++ [⟨.getRequestStats 0, .ok .empty⟩]⟩, hw, ⟨rfl, trivial, ?_⟩,
      hknown _ _ rfl⟩
    have hmonitor : w.monitor = RequestStatsMonitor.init 60 := hw
    rw [hmonitor]
    rfl

theorem Unhindered.before (h : Unhindered env inv) :
    Unhindered (env.before Event.isHandover) inv where
  answers e answer hop hhandover hconsultation hanswer :=
    Answers.before (h.answers e answer hop hhandover hconsultation hanswer) hhandover
  stats := Answers.before h.stats rfl
  passes json := Answers.before (h.passes json) rfl

theorem unhindered_discovered (snapshot : List EndpointInfo) :
    Unhindered (informed (discovered snapshot)) Idle := by
  apply unhindered_informed
  · intro e answer h
    cases e with
    | getEndpointInfo => cases h
    | _ => exact trivial
  · intro json
    exact trivial

theorem answers_getEndpointInfo (snapshot : List EndpointInfo) :
    Answers (upToHandover snapshot) Idle .getEndpointInfo snapshot :=
  Answers.before (answers_informed rfl trivial rfl) rfl

namespace Unhindered

variable (h : Unhindered env inv)

include h

theorem may_note (hop : e.op? = none)
    (hhandover : e.isHandover = false) (hconsultation : e.isConsultation = false)
    (hanswer : answerable e answer) : May env inv (note e : Py service L _) answer :=
  (h.answers e answer hop hhandover hconsultation hanswer).may

theorem may_time : May env inv (time : Py service L ℚ) 0 :=
  h.may_note (e := .time) rfl rfl rfl trivial

theorem may_openRouterSpan (app : App) (endpoint : String) :
    ∃ span, May env inv (openRouterSpan app endpoint) span := by
  unfold openRouterSpan
  split
  · have hspan : May env inv (note (.startSpan ("router " ++ endpoint)) : Py service Unit Nat) 0 :=
      h.may_note rfl rfl rfl trivial
    exact ⟨some 0, hspan.bind (may_pure _)⟩
  · exact ⟨none, may_pure none⟩

variable (c : GeneralCall)

theorem may_preRequest (json : JsonObject) : May env inv (c.preRequest json) none := by
  unfold GeneralCall.preRequest
  split
  · exact (h.passes json).may.bind (may_pure none)
  · exact may_pure none

theorem may_readStats : May env inv c.readStats () := by
  unfold GeneralCall.readStats
  split
  · exact may_pure ()
  · exact h.may_time.bind (h.stats.may.bind (may_pure ()))

theorem may_countRequest (model : Json) :
    May env inv (note (.metric (.incomingRequests model)) : Py service Unit Unit) () :=
  h.may_note rfl rfl rfl trivial

end Unhindered

/-- Without a memory no model was ever seen. -/
theorem GeneralCall.may_modelEverExisted (c : GeneralCall) {model : Json} {seen : Bool}
    (hseen : Answers env inv (.hasEverSeenModel model) (.ok seen)) :
    May env inv (c.modelEverExisted model) (c.deployment.remembersModels && seen) := by
  unfold modelEverExisted
  cases c.deployment.remembersModels with
  | true => exact hseen.may.bind (may_pure seen)
  | false => exact may_pure false

namespace GeneralCall

variable (c : GeneralCall)

theorem routeAmong_gets (everExisted : Bool)
    (hunpinned : c.request.isPinned = false) (hsome : snapshot.filter (·.serves name) ≠ []) :
    Gets (upToHandover snapshot) Idle (c.routeAmong snapshot (.str name) json body everExisted) ()
      (.routeRequest c.deployment.router (snapshot.filter (·.serves name)) json) := by
  have hopen := (unhindered_discovered snapshot).before
  apply (hopen.may_readStats c).gets
  apply (hopen.may_countRequest (.str name)).gets
  rw [c.mayServe_unpinned name hunpinned]
  cases hfilter : snapshot.filter (·.serves name) with
  | nil => exact absurd hfilter hsome
  | cons first rest =>
    apply Gets.call
    constructor
    intro w _
    have hpinned : (c.forwarding (first :: rest)).isPinned = false := hunpinned
    unfold Forwarding.forward Forwarding.pickServer
    rw [hpinned]
    exact ⟨_, w, .refl _ _⟩

theorem routeNamed_gets (hunpinned : c.request.isPinned = false)
    (hdecided : c.deployment.handover snapshot name fields = some e) :
    Gets (upToHandover snapshot) Idle (c.routeNamed name bytes fields) () e := by
  have hseen : Answers (upToHandover snapshot) Idle
      (.hasEverSeenModel (.str (c.deployment.resolve name))) (.ok false) :=
    Answers.before (answers_informed rfl trivial trivial) rfl
  apply (answers_getEndpointInfo snapshot).may.gets
  unfold Deployment.handover at hdecided
  split
  · rename_i hlocal
    rw [if_pos hlocal] at hdecided
    apply (c.may_modelEverExisted hseen).gets
    obtain ⟨hsome, rfl⟩ := offer_some hdecided
    exact c.routeAmong_gets _ hunpinned hsome
  · rename_i hexternal
    rw [if_neg hexternal] at hdecided
    obtain rfl := Option.some.inj hdecided
    exact ⟨fun w _ => ⟨_, w, .refl _ _⟩⟩

end GeneralCall

theorem routeNamedRequest_gets (hunpinned : request.isPinned = false)
    (hdecided : deployment.handover snapshot name fields = some e) :
    Gets (upToHandover snapshot) Idle
      (routeNamedRequest deployment request endpoint name bytes fields) () e := by
  have hopen := (unhindered_discovered snapshot).before
  obtain ⟨span, hspan⟩ := hopen.may_openRouterSpan deployment.app endpoint
  apply hopen.may_time.gets
  apply hspan.gets
  apply (hopen.may_preRequest ⟨deployment, request, endpoint, span⟩ fields).gets
  exact GeneralCall.routeNamed_gets ⟨deployment, request, endpoint, span⟩ hunpinned hdecided

theorem handover_isHandover (h : deployment.handover snapshot name fields = some e) :
    e.isHandover = true := by
  unfold Deployment.handover at h
  split at h
  · rw [(offer_some h).2]
    rfl
  · obtain rfl := Option.some.inj h
    rfl

/-- A JSON request that names a model is handed on as the snapshot decides. -/
theorem routeGeneralRequest_handsOn (endpoint : String) (snapshot : List EndpointInfo)
    (hrouter : deployment.router.isDisaggregated = false)
    (hfields : request.fields? deployment.app.recursionLimit = some fields)
    (hname : namedModel fields = some name) (hunpinned : request.isPinned = false) (e : Event) :
    HandsOn snapshot (routeGeneralRequest deployment request endpoint) e ↔
      deployment.handover snapshot name fields = some e := by
  obtain ⟨bytes, hnamed⟩ := routeGeneralRequest_named endpoint hrouter hfields hname
  rw [hnamed]
  apply handsOn_iff (routeNamedRequest_foreseen hunpinned)
  intro e hdecided
  exact ⟨handover_isHandover hdecided, routeNamedRequest_gets hunpinned hdecided⟩

/-! The multipart form. -/

namespace MultipartCall

variable {m : MultipartCall}

theorem servedBy_text (name : String) :
    (FormValue.text name).servedBy = fun endpoint => endpoint.serves name := rfl

/-- Nothing is returned before the router was asked. -/
theorem chooseUrl_foreseen {first : EndpointInfo}
    {rest : List EndpointInfo} {w : World} (hdecided : decided =
      some (.routeRequest m.router (first :: rest) (m.routingJson (.text name)))) :
    Ensures (upToHandover snapshot) (fun _ e => e.isHandover = true → decided = some e)
      (m.chooseUrl (.text name) (first :: rest)) () w fun r _ _ => ∀ url, r ≠ .ok url := by
  have hquiet {e : Event} (he : e.isHandover = false) : e.isHandover = true → decided = some e := by
    intro h
    rw [he] at h
    cases h
  refine ⟨hquiet rfl, ?_⟩
  intro t w₁ _
  refine ⟨hquiet rfl, ?_⟩
  intro stats w₂ _
  cases stats with
  | error e => exact fun _ h => by cases h
  | ok stats =>
    refine ⟨fun _ => hdecided, ?_⟩
    rintro routed w₃ ⟨hnot, -⟩
    cases hnot

theorem proxyModel_foreseen (hname : name ≠ "") :
    Foreseen snapshot (m.handover snapshot name) (m.proxyModel (.text name)) () := by
  apply foreseen_getEndpointInfo
  rw [servedBy_text]
  split
  · exact foreseen_of_performs (performs_ofExcept (.ok _))
  · rename_i first rest hfilter
    have hdecided : m.handover snapshot name =
        some (.routeRequest m.router (first :: rest) (m.routingJson (.text name))) := by
      unfold handover
      rw [if_neg hname, hfilter]
      rfl
    constructor
    intro w
    apply ensures_seq (chooseUrl_foreseen hdecided)
    · intro url _ _ h
      exact absurd rfl (h url)
    · intro _ _ _ _
      exact trivial

theorem proxyModel_gets (hdecided : m.handover snapshot name = some e) :
    Gets (upToHandover snapshot) Idle (m.proxyModel (.text name)) () e := by
  have hopen := (unhindered_discovered snapshot).before
  unfold handover at hdecided
  apply (answers_getEndpointInfo snapshot).may.gets
  rw [servedBy_text]
  split at hdecided
  · cases hdecided
  · obtain ⟨hsome, rfl⟩ := offer_some hdecided
    cases hfilter : snapshot.filter (·.serves name) with
    | nil => exact absurd hfilter hsome
    | cons first rest =>
      apply hopen.may_time.gets
      apply hopen.stats.may.gets
      exact (gets_perform _ _).bind _

/-- A multipart form is handed on as the snapshot decides. -/
theorem proxyMultipartRequest_handsOn (snapshot : List EndpointInfo)
    (hmodel : m.model = some (.text name)) (e : Event) :
    HandsOn snapshot m.proxyMultipartRequest e ↔ m.handover snapshot name = some e := by
  unfold proxyMultipartRequest
  rw [hmodel]
  by_cases hname : name = ""
  · have hnone : m.handover snapshot name = none := by
      unfold handover
      rw [if_pos hname]
    have hempty : (some (FormValue.text name)).filter (·.truthy) = none := by
      simp [FormValue.truthy, hname]
    rw [hempty]
    apply handsOn_iff (foreseen_of_performs (performs_ofExcept (.ok _)))
    intro e hdecided
    rw [hnone] at hdecided
    cases hdecided
  · have hfound : (some (FormValue.text name)).filter (·.truthy) = some (.text name) := by
      simp [FormValue.truthy, hname]
    rw [hfound]
    apply handsOn_iff (proxyModel_foreseen hname)
    intro e hdecided
    refine ⟨?_, proxyModel_gets hdecided⟩
    unfold handover at hdecided
    rw [if_neg hname] at hdecided
    rw [(offer_some hdecided).2]
    rfl

end MultipartCall

/-! The candidates for a model. -/

/-- The endpoints the router may be given to choose from. -/
def candidates (snapshot : List EndpointInfo) (p : Py service Unit Response) :
    Set EndpointInfo :=
  {endpoint | ∃ router endpoints json,
    HandsOn snapshot p (.routeRequest router endpoints json) ∧ endpoint ∈ endpoints}

section Candidates

theorem mem_candidates_json (path : String) (snapshot : List EndpointInfo)
    (hrouter : deployment.router.isDisaggregated = false) (hunpinned : request.isPinned = false)
    (hfields : request.fields? deployment.app.recursionLimit = some fields)
    (hname : namedModel fields = some name) (endpoint : EndpointInfo) :
    endpoint ∈ candidates snapshot (Ingress.route deployment (.json request path)) ↔
      endpoint ∈ snapshot ∧ deployment.isLocal (deployment.resolve name) = true ∧
        endpoint.serves (deployment.resolve name) = true := by
  have hhands := routeGeneralRequest_handsOn path snapshot hrouter hfields hname hunpinned
  simp only [candidates, Ingress.route, Set.mem_ofPred_eq, hhands, Deployment.handover]
  split
  · rename_i hlocal
    rw [mem_offer, List.mem_filter]
    simp [hlocal]
  · rename_i hexternal
    simp [hexternal]

theorem mem_candidates_multipart {form : List (String × FormValue)} (received : Bool)
    (formPath : String) (formRequest : HttpRequest) (stream : Bool) (freshId : String)
    (snapshot : List EndpointInfo) (hform : formGet form "model" = some (.text name))
    (endpoint : EndpointInfo) : endpoint ∈ candidates snapshot (Ingress.route deployment
        (.multipart received form formPath formRequest stream freshId)) ↔
      endpoint ∈ snapshot ∧ name ≠ "" ∧ endpoint.serves name = true := by
  have hhands := MultipartCall.proxyMultipartRequest_handsOn (m := ⟨deployment.router,
    .multipart received form, formGet form "model", formPath, formRequest, stream, freshId⟩)
    snapshot hform
  simp only [candidates, Ingress.route, Set.mem_ofPred_eq, hhands, MultipartCall.handover]
  split
  · rename_i hempty
    simp [hempty]
  · rename_i hnamed
    rw [mem_offer, List.mem_filter]
    simp [hnamed]

end Candidates

/-- A JSON request and a multipart form for the same model have the same
candidates exactly if the endpoints that serve the model its alias stands for are
those that serve the model as it is named. -/
theorem same_candidates_iff (deployment : Deployment) (request : ClientRequest)
    (path : String) (received : Bool) (form : List (String × FormValue)) (formPath : String)
    (formRequest : HttpRequest) (stream : Bool) (freshId : String) (name : String)
    (fields : JsonObject) (snapshot : List EndpointInfo)
    (hrouter : deployment.router.isDisaggregated = false)
    (hunpinned : request.isPinned = false)
    (hfields : request.fields? deployment.app.recursionLimit = some fields)
    (hname : namedModel fields = some name)
    (hform : formGet form "model" = some (.text name)) :
    candidates snapshot (Ingress.route deployment (.json request path)) =
        candidates snapshot (Ingress.route deployment
          (.multipart received form formPath formRequest stream freshId)) ↔
      ∀ endpoint ∈ snapshot,
        (deployment.isLocal (deployment.resolve name) = true ∧
            endpoint.serves (deployment.resolve name) = true ↔
          name ≠ "" ∧ endpoint.serves name = true) := by
  rw [Set.ext_iff]
  refine forall_congr' fun endpoint => ?_
  rw [mem_candidates_json path snapshot hrouter hunpinned hfields hname,
    mem_candidates_multipart received formPath formRequest stream freshId snapshot hform]
  tauto

/-- The body `{"model":"m"}`. -/
def modelOnly : Bytes := [123, 34, 109, 111, 100, 101, 108, 34, 58, 34, 109, 34, 125]

theorem modelOnly_fields (request : ClientRequest) (hbody : request.body = .ok modelOnly) :
    ∃ fields, request.fields? 100 = some fields ∧ namedModel fields = some "m" := by
  have hnamed : (Body.raw modelOnly).namedModel 100 = some "m" := by decide +kernel
  simp only [Body.namedModel] at hnamed
  split at hnamed
  · rename_i fields hloads
    refine ⟨fields, ?_, hnamed⟩
    simp only [ClientRequest.fields?, hbody, hloads]
  · cases hnamed

/-- A deployment with a round-robin router and these aliases. -/
def aliasing (aliases : List (String × String)) : Deployment where
  app := ⟨false, none, false, false, 100⟩
  router := .roundRobin
  maxInstanceFailoverRerouteAttempts := 0
  requestRewriter := false
  aliases := aliases
  externalModels := none
  remembersModels := true
  strOf := fun _ => ""
  prefillModelLabels := []
  decodeModelLabels := []
  prefillClient := none
  decodeClient := none
  openaiApiKey := none

/-- An engine that serves one model. -/
def engineOf (model : String) : EndpointInfo := ⟨"http://a", [model], "a", none, false⟩

/-- A JSON request and a form for the same model. -/
def modelRequest : ClientRequest := ⟨⟨"POST", []⟩, .ok modelOnly, none, "r"⟩

def modelForm : Ingress :=
  .multipart true [("model", .text "m")] "/v1/audio/transcriptions" ⟨"POST", []⟩ false "r"

/-- Without an alias the candidates are the same. -/
theorem same_candidates_unaliased :
    candidates [engineOf "m"]
        (Ingress.route (aliasing []) (.json modelRequest "/v1/audio/transcriptions")) =
      candidates [engineOf "m"] (modelForm.route (aliasing [])) := by
  obtain ⟨fields, hfields, hname⟩ := modelOnly_fields modelRequest rfl
  refine (same_candidates_iff _ _ _ _ _ _ _ _ _ "m" fields _ rfl rfl hfields hname rfl).mpr ?_
  decide

/-- An alias finds the engine for the JSON request, and nothing for the form. -/
theorem alias_unknown_to_multipart :
    candidates [engineOf "llama"] (Ingress.route (aliasing [("m", "llama")])
        (.json modelRequest "/v1/audio/transcriptions")) ≠
      candidates [engineOf "llama"] (modelForm.route (aliasing [("m", "llama")])) := by
  intro hsame
  obtain ⟨fields, hfields, hname⟩ := modelOnly_fields modelRequest rfl
  have hjson := (mem_candidates_json "/v1/audio/transcriptions" [engineOf "llama"] rfl rfl hfields
    hname (engineOf "llama")).mpr (by decide : _ ∧
      (aliasing [("m", "llama")]).isLocal ((aliasing [("m", "llama")]).resolve "m") = true ∧ _)
  rw [hsame] at hjson
  have hform := (mem_candidates_multipart true _ _ false "r" [engineOf "llama"] rfl _).mp hjson
  exact absurd hform.2.2 (by decide)

/-! The orchestrated router. -/

theorem readJson_of_fields (h : request.fields? deployment.app.recursionLimit = some fields) :
    readJson deployment request = pure (.obj fields) := by
  obtain ⟨bytes, hbody, hloads⟩ := fields?_some h
  unfold readJson
  rw [hbody]
  change eval (jsonLoads deployment.app.recursionLimit bytes) = _
  rw [hloads]
  rfl

namespace Orchestration

variable {prefiller decoder : EndpointInfo} (o : Orchestration)

theorem may_selectEndpoint {σ : Type} {env : Env service σ} {inv : σ → Prop} {role : ServingRole}
    (hnote : ∀ index, May env inv (note (.takeIndex role) : Py service Unit Nat) index)
    {endpoint : EndpointInfo} (hmember : endpoint ∈ endpoints) :
    May env inv (selectEndpoint role endpoints) endpoint := by
  have hsorted : endpoint ∈ sortedByUrl endpoints := List.mem_mergeSort.mpr hmember
  obtain ⟨index, hindex⟩ := List.mem_iff_getElem?.mp hsorted
  have hbound : index < endpoints.length := by
    have hlt := (List.getElem?_eq_some_iff.mp hindex).1
    unfold sortedByUrl at hlt
    rwa [List.length_mergeSort] at hlt
  apply (hnote index).bind
  rw [Nat.mod_eq_of_lt hbound, hindex]
  exact may_pure endpoint

theorem findEndpoints_eq
    (hprefiller : prefiller ∈ snapshot.filter (hasLabel o.deployment.prefillModelLabels))
    (hdecoder : decoder ∈ snapshot.filter (hasLabel o.deployment.decodeModelLabels)) :
    o.findEndpoints snapshot = .ok (snapshot.filter (hasLabel o.deployment.prefillModelLabels),
        snapshot.filter (hasLabel o.deployment.decodeModelLabels)) := by
  have hne {endpoint : EndpointInfo} {endpoints : List EndpointInfo}
      (hmember : endpoint ∈ endpoints) : ¬ endpoints.isEmpty = true := by
    intro hempty
    rw [List.isEmpty_iff.mp hempty] at hmember
    cases hmember
  simp only [findEndpoints, if_neg (hne hprefiller), if_neg (hne hdecoder)]

end Orchestration

/-- A deployment with the orchestrated router. -/
def prefillAndDecode : Deployment where
  app := ⟨false, none, false, false, 100⟩
  router := .disaggregatedPrefillOrchestrated
  maxInstanceFailoverRerouteAttempts := 0
  requestRewriter := false
  aliases := []
  externalModels := none
  remembersModels := true
  strOf := fun _ => ""
  prefillModelLabels := ["prefill"]
  decodeModelLabels := ["decode"]
  prefillClient := none
  decodeClient := none
  openaiApiKey := none

end ProductionStack.Request

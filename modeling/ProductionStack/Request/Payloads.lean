import ProductionStack.Request.ErrorStatus
import ProductionStack.Request.Handover

/-!
What the two disaggregated paths send. The prefill engine is asked for one token and
for nothing that contradicts it, and the decode engine for what the client asked.
-/

namespace ProductionStack.Request

open Lib Python Stats Py

/-- A number above one. -/
def AboveOne (v : Json) : Prop :=
  v.number? = some .inf ∨ ∃ q : ℚ, v.number? = some (.finite q) ∧ 1 < q

/-- The fields that a request for one token may change. -/
def lengthFields : List String :=
  ["max_tokens", "max_completion_tokens", "min_tokens", "stream", "stream_options"]

/-- One token is asked for, consistently, and the rest is as the client has it. -/
structure PrefillPayload (client body : JsonObject) : Prop where
  maxTokens : body.lookup "max_tokens" = some (.int 1)
  maxCompletionTokens : ∀ v, body.lookup "max_completion_tokens" = some v → v = .int 1
  minTokens : ∀ v, body.lookup "min_tokens" = some v → ¬ AboveOne v
  stream : body.lookup "stream" = some (.bool false)
  streamOptions : body.lookup "stream_options" = none
  others : ∀ key ∉ lengthFields, ∀ v, client.lookup key = some v → body.lookup key = some v

/-- The client's body, but for the metadata of the cache. -/
def DecodePayload (client body : JsonObject) : Prop :=
  ∀ key ≠ "kv_transfer_params", body.lookup key = client.lookup key

def Carrying (P : JsonObject → Prop) (request : BackendRequest) : Prop :=
  ∃ body, request.data = .dumped (.obj body) ∧ P body

/-! The first request of a run goes to the prefill engine, and a later one to the decode
engine. -/

/-- Whether a request has been sent. -/
def sendings : Env service Bool := fun sent e _ sent' => sent' = (sent || e.isSend)

def Payloads (client : JsonObject) : Bool → Event → Prop
  | false, .sendRequest request => Carrying (PrefillPayload client) request
  | true, .sendRequest request => Carrying (DecodePayload client) request
  | _, _ => True

/-- A response whose body sends requests to the decode engine only. -/
def StreamsDecode (client : JsonObject) (response : Response) : Prop :=
  ∀ status headers media body, response = .streaming status headers media body →
    body.Performs (Sends (Carrying (DecodePayload client)))

/-- The requests of a route, and then those of the body that it returns. -/
def SendsPayloads (client : JsonObject) (route : Py service Unit Response) : Prop :=
  Ensures sendings (Payloads client) route () false fun result _ _ =>
    ∀ response, result = .ok response → StreamsDecode client response

section Stages

variable {α : Type} {client : JsonObject} {p : Py service Unit α}

theorem payloads_unsent {sent : Bool} {e : Event} (he : e.isSend = false) :
    Payloads client sent e := by
  cases e with
  | sendRequest _ => cases he
  | _ => cases sent <;> exact trivial

/-- What follows the request to the prefill engine. -/
theorem ensures_later {Q : α → Prop}
    (hp : Performs (Sends (Carrying (DecodePayload client))) p) (hreturns : Returns Q p) :
    Ensures sendings (Payloads client) p () true fun result _ sent =>
      sent = true ∧ ∀ a, result = .ok a → Q a := by
  have hasserts : ∀ (s : Bool) e, s = true → Sends (Carrying (DecodePayload client)) e →
      Payloads client s e := by
    rintro _ e rfl he
    cases e with
    | sendRequest request => exact he
    | _ => exact trivial
  have hinv : ∀ (s : Bool) e (answer : Event.Answer e) s', s = true →
      Sends (Carrying (DecodePayload client)) e → sendings s e answer s' → s' = true := by
    rintro _ e _ _ rfl - rfl
    rfl
  exact (hp.ensures hasserts hinv rfl).and (hreturns.run Bool sendings () true)

/-- What comes before any request. -/
theorem SendsPayloads.after {f : α → Py service Unit Response}
    (hp : Performs (fun e : Event => e.isSend = false) p) (hf : ∀ a, SendsPayloads client (f a)) :
    SendsPayloads client (p >>= f) := by
  have hinv : ∀ (s : Bool) e (answer : Event.Answer e) s', s = false → e.isSend = false →
      sendings s e answer s' → s' = false := by
    rintro _ e _ _ rfl he rfl
    exact he
  have hbefore : Ensures sendings (Payloads client) p () false fun _ _ sent => sent = false :=
    Performs.ensures (E := fun e : Event => e.isSend = false) hp
      (fun _ _ _ he => payloads_unsent he) hinv rfl
  apply ensures_seq hbefore
  · rintro a _ _ rfl
    exact hf a
  · exact fun _ _ _ _ => nofun

theorem streamsDecode_plain (plain : PlainResponse) : StreamsDecode client (.plain plain) := nofun

theorem PassesOn.streamsDecode {r : BackendResponse} {response : Response}
    (h : PassesOn r response) : StreamsDecode client response := by
  intro status headers media body hbody
  refine (h.body status headers media body hbody).mono ?_
  intro e he
  cases e with
  | sendRequest _ => exact absurd he id
  | _ => exact he

end Stages

/-! The bodies. -/

variable (key : String) (client : JsonObject) (key' : String)

theorem lookup_withoutKey (json : JsonObject) :
    (withoutKey key json).lookup key' = if key' = key then none else json.lookup key' :=
  lookup_filter_key key key' json

/-- A limit on the tokens that is only replaced where the client has one. -/
theorem lookup_replaced (v : Json) (json : JsonObject) :
    (if hasKey key json then upsert key v json else json).lookup key' =
      if key' = key then (json.lookup key).map fun _ => v else json.lookup key' := by
  unfold hasKey
  cases hkey : json.lookup key with
  | none =>
    by_cases h : key' = key
    · simp [h, hkey]
    · simp [h]
  | some old => simp [lookup_upsert]

theorem lookup_prefillerJson (key : String) :
    (DisaggregatedPrefill.prefillerJson (withoutKey "max_completion_tokens"
      (upsert "max_tokens" (.int 1) client))).lookup key =
        if key ∈ ["stream_options", "min_tokens", "max_completion_tokens"] then none
        else if key = "stream" then some (.bool false)
        else if key = "max_tokens" then some (.int 1) else client.lookup key := by
  simp only [DisaggregatedPrefill.prefillerJson, lookup_withoutKey, lookup_upsert, lookup_replaced,
    List.mem_cons, List.not_mem_nil, or_false]
  split_ifs <;> simp_all

/-- The metadata that the orchestrated path starts from. -/
def remoteDecode : Json := .obj [("do_remote_decode", .bool true),
  ("do_remote_prefill", .bool false), ("remote_engine_id", .null), ("remote_block_ids", .null),
  ("remote_host", .null), ("remote_port", .null)]

theorem lookup_prefillRequestJson (key : String) :
    (Orchestration.prefillRequestJson client).lookup key =
      if key = "stream_options" then none
      else if key = "stream" then some (.bool false)
      else if key = "kv_transfer_params" then some remoteDecode
      else if key = "max_completion_tokens" then (client.lookup key).map fun _ => .int 1
      else if key = "max_tokens" then some (.int 1) else client.lookup key := by
  simp only [Orchestration.prefillRequestJson, lookup_withoutKey, lookup_upsert, lookup_replaced,
    remoteDecode]
  split_ifs <;> simp_all

theorem prefillPayload_prefiller : PrefillPayload client (DisaggregatedPrefill.prefillerJson
      (withoutKey "max_completion_tokens" (upsert "max_tokens" (.int 1) client))) := by
  constructor <;> simp only [lookup_prefillerJson]
  case others =>
    intro key hkey v hv
    simp_all [lengthFields]
  all_goals simp

/-- Two fields of the client's body are in the way of the orchestrated path. -/
structure PlainBody (client : JsonObject) : Prop where
  minTokens : ∀ v, client.lookup "min_tokens" = some v → ¬ AboveOne v
  transfer : ∀ v, client.lookup "kv_transfer_params" = some v → v = remoteDecode

theorem prefillPayload_orchestrated_iff :
    PrefillPayload client (Orchestration.prefillRequestJson client) ↔ PlainBody client := by
  constructor
  · intro h
    constructor
    · intro v hv
      apply h.minTokens v
      simpa [lookup_prefillRequestJson] using hv
    · intro v hv
      have hkept := h.others "kv_transfer_params" (by decide) v hv
      simpa [lookup_prefillRequestJson] using hkept.symm
  · intro h
    constructor <;> simp only [lookup_prefillRequestJson]
    case minTokens => simpa using h.minTokens
    case others =>
      intro key hkey v hv
      by_cases htransfer : key = "kv_transfer_params"
      · rw [htransfer] at hv ⊢
        simp [h.transfer v hv]
      · simp_all [lengthFields]
    all_goals simp

theorem decodePayload_of_decodeRequestJson {url : String} {client body : JsonObject} {data : Json}
    (h : Orchestration.decodeRequestJson url client data = .ok body) :
    DecodePayload client body := by
  intro key hkey
  obtain ⟨params, -, h⟩ := bind_ok h
  split at h
  · obtain ⟨host, -, h⟩ := bind_ok h
    cases params with
    | obj fields => rw [← Except.ok.inj h, lookup_upsert, if_neg hkey]
    | _ => cases h
  · rw [Except.ok.inj h]

/-! The orchestrated path. -/

namespace Orchestration

variable (o : Orchestration) {client : JsonObject}

theorem prefill_ensures (url : String) (h : PlainBody client) :
    Ensures sendings (Payloads client) (o.prefill url client) () false fun result _ sent =>
      sent = true ∧ ∀ outcome, result = .ok outcome →
        ∀ response, outcome = .inl response → StreamsDecode client response := by
  apply ensures_perform_bind ⟨_, rfl, (prefillPayload_orchestrated_iff client).mpr h⟩
  rintro entry _ rfl
  apply ensures_later ((awaited_sends entry).bind fun r => o.readPrefill_sends r)
  refine returns_then fun r => (o.readPrefill_returns r).mono ?_
  intro outcome houtcome response hresponse
  exact (houtcome response hresponse).streamsDecode

theorem decode_sends {isStreaming : Bool} {url : String} {body : JsonObject}
    (h : DecodePayload client body) :
    Performs (Sends (Carrying (DecodePayload client))) (o.decode isStreaming url body) := by
  have hsend : Performs (Sends (Carrying (DecodePayload client)))
      (note (.sendRequest (o.backendRequest url body)) : Py service Unit _) :=
    performs_perform ⟨body, rfl, h⟩
  apply hsend.bind
  intro entry
  exact (awaited_sends entry).bind fun r => o.decodeResponse_sends isStreaming r

theorem exchange_payloads (prefillUrl decodeUrl : String) (h : PlainBody client) :
    SendsPayloads client (o.exchange prefillUrl decodeUrl client) := by
  apply ensures_seq (o.prefill_ensures prefillUrl h)
  · rintro outcome _ _ ⟨rfl, houtcome⟩
    cases outcome with
    | inl response =>
      rintro _ ⟨⟩
      exact houtcome _ rfl response rfl
    | inr data =>
      dsimp only
      cases hbody : decodeRequestJson prefillUrl client data with
      | error e => exact nofun
      | ok body =>
        have hdecode := decodePayload_of_decodeRequestJson hbody
        refine (ensures_later (o.decode_sends hdecode) (Q := StreamsDecode client) ?_).imp fun _ _ _ h => h.2
        refine returns_then fun _ => returns_then fun r => ?_
        exact (o.decodeResponse_returns _ r).mono fun _ h => h.streamsDecode
  · exact fun _ _ _ _ => nofun

theorem serve_payloads (prefillers decoders : List EndpointInfo) (h : PlainBody client) :
    SendsPayloads client (o.serve (.obj client) prefillers decoders) := by
  refine SendsPayloads.after (selectEndpoint_unsent _ _) fun prefiller => ?_
  refine SendsPayloads.after (selectEndpoint_unsent _ _) fun decoder => ?_
  change SendsPayloads client (time >>= _)
  refine SendsPayloads.after (performs_perform rfl) fun _ => ?_
  apply ensures_tryExcept.mpr
  refine (o.exchange_payloads prefiller.url decoder.url h).imp ?_
  intro result _ sent hresult
  cases result with
  | ok response => exact hresult
  | error raised =>
    cases raised with
    | interrupt i => exact nofun
    | error e =>
      change Ensures _ _ (if _ then _ else _) _ _ _
      split <;>
      · rintro _ ⟨⟩
        exact streamsDecode_plain _

/-- No engine is found without a label to look for. -/
theorem labels_of_findEndpoints {endpoints : List EndpointInfo}
    {found : List EndpointInfo × List EndpointInfo} (h : o.findEndpoints endpoints = .ok found) :
    o.deployment.prefillModelLabels ≠ [] ∧ o.deployment.decodeModelLabels ≠ [] := by
  have hnone : endpoints.filter (hasLabel []) = [] := by
    rw [List.filter_eq_nil_iff]
    intro endpoint _
    cases hlabel : endpoint.modelLabel <;> simp [hasLabel, hlabel]
  constructor
  · intro hnil
    simp [findEndpoints, hnil, hnone] at h
  · intro hnil
    simp only [findEndpoints, hnil, hnone, List.isEmpty_nil, if_true] at h
    split at h <;> cases h

theorem route_payloads (hfields : o.request.fields? o.deployment.app.recursionLimit = some client)
    (h : o.deployment.prefillModelLabels ≠ [] → o.deployment.decodeModelLabels ≠ [] →
      PlainBody client) : SendsPayloads client o.routeOrchestratedDisaggregatedRequest := by
  unfold routeOrchestratedDisaggregatedRequest
  rw [readJson_of_fields hfields]
  refine SendsPayloads.after (performs_perform rfl) fun _ => ?_
  change SendsPayloads client (note .getEndpointInfo >>= _)
  refine SendsPayloads.after (performs_perform rfl) fun endpoints => ?_
  cases hfound : o.findEndpoints endpoints with
  | error e =>
    change Ensures _ _ ((if _ then _ else _) >>= _) _ _ _
    split
    · rintro _ ⟨⟩
      exact streamsDecode_plain _
    · exact nofun
  | ok found =>
    obtain ⟨hprefill, hdecode⟩ := o.labels_of_findEndpoints hfound
    exact o.serve_payloads found.1 found.2 (h hprefill hdecode)

theorem route_plainBody (h : SendsPayloads client o.routeOrchestratedDisaggregatedRequest)
    (hfields : o.request.fields? o.deployment.app.recursionLimit = some client)
    {prefillLabel decodeLabel : String} (hprefill : prefillLabel ∈ o.deployment.prefillModelLabels)
    (hdecode : decodeLabel ∈ o.deployment.decodeModelLabels) : PlainBody client := by
  have hmay {e : Event} (he : e.isSend = false) (answer : e.Answer) :
      May sendings (· = false) (note e : Py service Unit _) answer := by
    apply may_perform
    rintro _ rfl
    exact ⟨false, rfl, he.symm⟩
  let prefiller : EndpointInfo := ⟨"", [], "", some prefillLabel, false⟩
  let decoder : EndpointInfo := ⟨"", [], "", some decodeLabel, false⟩
  have hprefiller : prefiller ∈ [prefiller, decoder].filter
      (hasLabel o.deployment.prefillModelLabels) := by
    simp [prefiller, hasLabel, hprefill]
  have hdecoder : decoder ∈ [prefiller, decoder].filter
      (hasLabel o.deployment.decodeModelLabels) := by
    simp [decoder, hasLabel, hdecode]
  unfold SendsPayloads routeOrchestratedDisaggregatedRequest at h
  rw [readJson_of_fields hfields] at h
  obtain ⟨_, rfl, h⟩ := h.after (hmay (e := .time) rfl (0 : ℚ)) rfl
  obtain ⟨_, rfl, h⟩ := h.after (may_pure (Json.obj client)) rfl
  obtain ⟨_, rfl, h⟩ := h.after (hmay (e := .getEndpointInfo) rfl [prefiller, decoder]) rfl
  rw [o.findEndpoints_eq hprefiller hdecoder] at h
  have h : Ensures _ _ (o.serve (.obj client) _ _) _ _ _ := h
  obtain ⟨_, rfl, h⟩ := h.after (may_selectEndpoint (fun index => hmay rfl index) hprefiller) rfl
  obtain ⟨_, rfl, h⟩ := h.after (may_selectEndpoint (fun index => hmay rfl index) hdecoder) rfl
  obtain ⟨_, rfl, h⟩ := h.after (may_pure client) rfl
  obtain ⟨_, rfl, h⟩ := h.after (hmay (e := .time) rfl (0 : ℚ)) rfl
  have hsent : Payloads client false
      (.sendRequest (o.backendRequest prefiller.url (prefillRequestJson client))) :=
    (ensures_tryExcept.mp h).1
  obtain ⟨body, ⟨⟩, hbody⟩ := hsent
  exact (prefillPayload_orchestrated_iff client).mp hbody

end Orchestration

/-! The router with two fixed clients. -/

namespace DisaggregatedPrefill

variable (p : DisaggregatedPrefill) {client : JsonObject} {Q : BackendRequest → Prop}

theorem relayAll_sends (ending : Ending) (chunks : List Bytes) :
    Performs (Sends Q) (relayAll ending chunks) := by
  induction chunks with
  | nil =>
    apply nextChunk_performs sends_of_plain
    cases ending <;> exact performs_ofExcept _
  | cons chunk rest ih =>
    apply nextChunk_performs sends_of_plain
    exact (yieldItem_sends _).bind fun _ => ih

theorem generateStream_sends {inner : Prog service (Except Raised Unit)}
    (h : inner.Performs (Sends Q)) : (generateStream inner).Performs (Sends Q) := by
  induction inner with
  | ret result =>
    cases result with
    | ok _ => exact trivial
    | error raised =>
      cases raised with
      | interrupt i => exact trivial
      | error e => exact ((yieldItem_sends _).run ()).bind fun _ => trivial
  | perform e next ih =>
    cases e with
    | yields item =>
      refine ⟨trivial, ?_⟩
      intro wake
      cases wake with
      | resumed => exact ih .resumed (h.2 .resumed)
      | interrupted i =>
        exact (aclose_sends (h.2 (.interrupted .generatorExit))).bind fun _ => trivial
    | _ => exact ⟨h.1, fun answer => ih answer (h.2 answer)⟩

theorem bodyIterator_sends :
    (p.bodyIterator client).Performs (Sends (Carrying (DecodePayload client))) := by
  have hdecode : Performs (Sends (Carrying (DecodePayload client)))
      (p.sendRequestToDecode client) := by
    apply Performs.bind
    · cases p.deployment.decodeClient <;> exact performs_ofExcept _
    · intro url
      have hsend : Performs (Sends (Carrying (DecodePayload client)))
          (note (.sendRequest (p.backendRequest url client)) : Py service Unit _) :=
        performs_perform ⟨client, rfl, fun _ _ => rfl⟩
      apply hsend.bind
      intro entry
      apply (awaited_sends entry).bind
      intro r
      apply Performs.withExit _ fun _ => exitResponse_sends
      exact (raiseForStatus_sends r).bind fun _ => relayAll_sends r.ending r.chunks
  exact generateStream_sends ((hdecode.run ()).bind fun _ => trivial)

/-- What a first exchange that fails returns is no stream. -/
def Refuses (failed : Option Response) : Prop :=
  ∀ response, failed = some response → ∃ plain, response = .plain plain

theorem prefill_ensures : Ensures sendings (Payloads client) (p.prefill client) () false
    fun result _ _ => ∀ failed, result = .ok failed → Refuses failed := by
  have hcatch (raised : Raised) (sent : Bool) : Ensures sendings (Payloads client)
      (p.onPrefillError raised) () sent fun result _ _ =>
        ∀ failed, result = .ok failed → Refuses failed := by
    cases raised with
    | interrupt i => exact nofun
    | error e =>
      rintro _ ⟨⟩ _ ⟨⟩
      exact ⟨_, rfl⟩
  apply ensures_tryExcept.mpr
  apply ensures_bind.mpr
  cases p.deployment.prefillClient with
  | none => exact hcatch _ _
  | some url =>
    apply (ensures_pure url _).mpr
    have hsent : Ensures sendings (Payloads client) (p.sendRequestToPrefiller url
        (withoutKey "max_completion_tokens" (upsert "max_tokens" (.int 1) client))) () false
        fun _ _ sent => sent = true := by
      apply ensures_perform_bind ⟨_, rfl, prefillPayload_prefiller client⟩
      rintro entry _ rfl
      refine (ensures_later ?_ (returns_any _)).imp fun _ _ _ h => h.1
      apply (awaited_sends entry).bind
      intro r
      apply Performs.withExit _ fun _ => exitResponse_sends
      exact (raiseForStatus_sends r).bind fun _ =>
        (note_sends rfl).bind fun answer => performs_ofExcept answer
    apply ensures_seq hsent
    · rintro _ _ _ rfl
      apply ensures_perform_bind trivial
      rintro _ _ _ _ ⟨⟩ _ ⟨⟩
    · rintro raised _ _ -
      exact hcatch raised _

theorem route_payloads (hfields : p.request.fields? p.deployment.app.recursionLimit = some client) :
    SendsPayloads client p.routeDisaggregatedPrefillRequest := by
  unfold routeDisaggregatedPrefillRequest
  rw [readJson_of_fields hfields]
  refine SendsPayloads.after (performs_perform rfl) fun _ => ?_
  change SendsPayloads client (time >>= fun _ => p.prefill client >>= _)
  refine SendsPayloads.after (performs_perform rfl) fun _ => ?_
  apply ensures_seq p.prefill_ensures
  · intro failed _ sent hfailed
    cases failed with
    | some response =>
      obtain ⟨plain, rfl⟩ := hfailed _ rfl response rfl
      rintro _ ⟨⟩
      exact streamsDecode_plain plain
    | none =>
      apply ensures_perform_bind (payloads_unsent rfl)
      rintro _ _ - _ ⟨⟩ _ _ _ _ ⟨⟩
      exact p.bodyIterator_sends
  · exact fun _ _ _ _ => nofun

end DisaggregatedPrefill

/-- In the router with two fixed clients both engines are sent what they should be, and
in the orchestrated router just when the client's body is plain or no engine can be
found. -/
theorem payloads_sent_iff (deployment : Deployment) (request : ClientRequest) (endpoint : String)
    (client : JsonObject) (hrouter : deployment.router.isDisaggregated = true)
    (hfields : request.fields? deployment.app.recursionLimit = some client) :
    SendsPayloads client (routeGeneralRequest deployment request endpoint) ↔
      (deployment.router = .disaggregatedPrefillOrchestrated →
        deployment.prefillModelLabels ≠ [] → deployment.decodeModelLabels ≠ [] →
          PlainBody client) := by
  unfold routeGeneralRequest
  cases hkind : deployment.router with
  | disaggregatedPrefill =>
    exact iff_of_true (DisaggregatedPrefill.route_payloads ⟨deployment, request, endpoint⟩ hfields)
      nofun
  | disaggregatedPrefillOrchestrated =>
    let o : Orchestration := ⟨deployment, request, endpoint⟩
    constructor
    · intro h _ hprefill hdecode
      obtain ⟨label, hlabel⟩ := List.exists_mem_of_ne_nil _ hprefill
      obtain ⟨label', hlabel'⟩ := List.exists_mem_of_ne_nil _ hdecode
      exact o.route_plainBody h hfields hlabel hlabel'
    · intro h
      exact o.route_payloads hfields (h rfl)
  | _ =>
    rw [hkind] at hrouter
    cases hrouter

/-- A request for a model and nothing else. -/
theorem payloads_sent_model_only : ∃ client, modelRequest.fields? 100 = some client ∧
    SendsPayloads client (routeGeneralRequest prefillAndDecode modelRequest "/v1/completions") := by
  have hfields : modelRequest.fields? 100 = some [("model", .str "m")] := by rfl
  refine ⟨_, hfields, (payloads_sent_iff prefillAndDecode modelRequest _ _ rfl hfields).mpr ?_⟩
  intro _ _ _
  exact ⟨nofun, nofun⟩

/-- The body `{"min_tokens":5}`. -/
def minTokensOnly : Bytes :=
  [123, 34, 109, 105, 110, 95, 116, 111, 107, 101, 110, 115, 34, 58, 53, 125]

def minTokensRequest : ClientRequest := ⟨⟨"POST", []⟩, .ok minTokensOnly, none, "r"⟩

/-- The prefill engine is asked for at most one token and for at least five. -/
theorem orchestrated_keeps_min_tokens : ∃ client, minTokensRequest.fields? 100 = some client ∧
    ¬ SendsPayloads client
      (routeGeneralRequest prefillAndDecode minTokensRequest "/v1/completions") := by
  have hfields : minTokensRequest.fields? 100 = some [("min_tokens", .int 5)] := by rfl
  refine ⟨_, hfields, ?_⟩
  intro h
  let o : Orchestration := ⟨prefillAndDecode, minTokensRequest, "/v1/completions"⟩
  have hplain := o.route_plainBody h hfields List.mem_cons_self List.mem_cons_self
  exact hplain.minTokens (.int 5) rfl (.inr ⟨5, rfl, by norm_num⟩)

end ProductionStack.Request

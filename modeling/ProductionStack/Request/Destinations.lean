import ProductionStack.Request.Footprint

/-!
What a request names and how it comes in: the model in a body, the alias it stands for,
whether an endpoint serves it, and the two kinds of requests that are routed by it.
-/

namespace ProductionStack.Request

open Lib Python Stats Py

/-! The model named in a body. -/

/-- `form.get(key)`: the last of the values under the key. -/
def formGet (form : List (String × FormValue)) (key : String) : Option FormValue :=
  form.reverse.lookup key

/-- The string under `"model"`. -/
def namedModel (fields : JsonObject) : Option String :=
  match fields.lookup "model" with
  | some (.str name) => some name
  | _ => none

def Body.namedModel (limit : Nat) : Body → Option String
  | .raw bytes =>
    match jsonLoads limit bytes with
    | .ok (.obj fields) => Request.namedModel fields
    | _ => none
  | .dumped (.obj fields) => Request.namedModel fields
  | .dumped _ => none
  | .multipart _ form =>
    match formGet form "model" with
    | some (.text name) => some name
    | _ => none

/-! The ways into the router. -/

/-- A JSON request for `route_general_request`, or a multipart form for
`proxy_multipart_request`: as received, or rebuilt for transcriptions. -/
inductive Ingress where
  | json (request : ClientRequest) (endpoint : String)
  | multipart (received : Bool) (form : List (String × FormValue)) (endpoint : String)
      (request : HttpRequest) (stream : Bool) (freshId : String)

def Ingress.route (deployment : Deployment) : Ingress → Py service Unit Response
  | .json request endpoint => routeGeneralRequest deployment request endpoint
  | .multipart received form endpoint request stream freshId =>
    MultipartCall.proxyMultipartRequest {
      router := deployment.router
      formData := .multipart received form
      model := formGet form "model"
      endpoint, request, stream, freshId }

/-- Nothing but what is `known` is answered. -/
def informed (known : (e : Event) → e.Answer → Prop) : Env service World :=
  fun w e answer w' => allows w e answer w' ∧ known e answer

/-- Service discovery shows these endpoints. -/
def discovered (snapshot : List EndpointInfo) : (e : Event) → e.Answer → Prop
  | .getEndpointInfo, taken => taken = snapshot
  | _, _ => True

/-! What a request is routed by. -/

/-- The fields of the request's JSON object, if its body is one. -/
def ClientRequest.fields? (limit : Nat) (request : ClientRequest) : Option JsonObject :=
  match request.body with
  | .ok bytes =>
    match jsonLoads limit bytes with
    | .ok (.obj fields) => some fields
    | _ => none
  | .error _ => none

/-- The model an alias stands for. -/
def Deployment.resolve (deployment : Deployment) (name : String) : String :=
  (deployment.aliases.lookup name).getD name

/-- A model that no external provider has. -/
def Deployment.isLocal (deployment : Deployment) (name : String) : Bool :=
  !(deployment.externalModels.any (·.contains name))

def EndpointInfo.serves (endpoint : EndpointInfo) (name : String) : Bool :=
  endpoint.modelNames.contains name && !endpoint.sleep

def ClientRequest.isPinned (request : ClientRequest) : Bool := request.queryId.any (· ≠ "")

namespace GeneralCall

variable (c : GeneralCall) (name : String)

/-- The alias table, for a model that is a string. -/
theorem aliasOf_str : c.aliasOf (.str name) = .ok (c.deployment.aliases.lookup name) := by
  unfold aliasOf
  split
  · rename_i hempty
    rw [List.isEmpty_iff.mp hempty]
    rfl
  · simp only [inKeys]
    cases hknown : (c.deployment.aliases.map Prod.fst).contains name with
    | true => rfl
    | false =>
      have hnone : c.deployment.aliases.lookup name = none := by
        rw [lookup_eq_none_iff_not_mem_keys]
        simpa using hknown
      rw [hnone]
      rfl

theorem isExternalModel_str : c.isExternalModel (.str name) = .ok (!c.deployment.isLocal name) := by
  unfold isExternalModel Deployment.isLocal
  cases c.deployment.externalModels with
  | none => rfl
  | some models => simp [inKeys]

theorem namedModel_upsert (json : JsonObject) :
    namedModel (upsert "model" (.str name) json) = some name := by
  unfold namedModel
  rw [lookup_upsert, if_pos rfl]

end GeneralCall

end ProductionStack.Request

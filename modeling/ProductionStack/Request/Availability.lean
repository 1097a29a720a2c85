import ProductionStack.Discovery.Memory
import ProductionStack.Request.Handover

/-!
The answer to a request for a model that no endpoint serves: 503 if service
discovery has seen the model, 404 if it has not. Whether it has seen a model that
was ever registered depends on what it remembers.
-/

namespace ProductionStack.Request

open Lib Python Stats Py
open Discovery (ServiceDiscovery Settings Change)

/-- Service discovery shows the endpoints in `taken` and has seen the models in
`memory`, if it has one. The callbacks leave the request to the router. -/
def consulted (taken : List EndpointInfo) (memory : Option (String → Bool)) :
    (e : Event) → e.Answer → Prop
  | .getEndpointInfo, snapshot => snapshot = taken
  | .hasEverSeenModel (.str name), answer => ∀ seen, memory = some seen → answer = .ok (seen name)
  | .preRequest _, answer => answer = .ok none
  | _, _ => True

/-- The aliases and the memory are those of the service discovery object. -/
def Deployment.reading (deployment : Deployment) (discovery : ServiceDiscovery) : Deployment :=
  { deployment with
    aliases := discovery.aliases
    remembersModels := discovery.hasEverSeenModel.isSome }

/-- The window of the statistics is set. -/
def Windowed (w : World) : Prop := w.monitor.slidingWindowSize ≠ 0

variable {w : World} {e : Event} {taken : List EndpointInfo} {memory : Option (String → Bool)}
  {model name : String} {bytes : Bytes} {fields : JsonObject} {deployment : Deployment}
  {request : ClientRequest}

theorem windowed_step {w' : World} {answer : e.Answer} (hw : Windowed w)
    (h : allows w e answer w') : Windowed w' := by
  have hkept : w'.monitor.slidingWindowSize = w.monitor.slidingWindowSize := by
    rcases monitorMoves_cases h.2.2 with ⟨op, -, hm⟩ | ⟨-, ops, -, hm⟩
    · rw [hm, window_step]
    · rw [hm, window_run]
  unfold Windowed
  rwa [hkept]

theorem windowed_start {window : ℚ} (hwindow : window ≠ 0) (earlier : List Op) :
    Windowed (.start window earlier) := by
  unfold Windowed World.start
  rwa [window_run]

section Every

variable {known : (e : Event) → e.Answer → Prop} {L α : Type} {l : L}

/-- An event, and then the rest of the function. -/
theorem ensures_consult {f : e.Answer → Py service L α}
    {post : Except Raised α → L → World → Prop} (hw : Windowed w)
    (hf : ∀ answer w', informed known w e answer w' → Windowed w' →
      Ensures (informed known) (fun _ _ => True) (f answer) l w' post) :
    Ensures (informed known) (fun _ _ => True) (note e >>= f) l w post := by
  refine ⟨trivial, ?_⟩
  intro answer w' hstep
  exact hf answer w' hstep (windowed_step hw hstep.1)

theorem openRouterSpan_opens (app : App) (endpoint : String) (hw : Windowed w) :
    Ensures (informed known) (fun _ _ => True) (openRouterSpan app endpoint) () w
      fun r _ w' => (∃ span, r = .ok span) ∧ Windowed w' := by
  unfold openRouterSpan
  split
  · apply ensures_consult hw
    intro span w' _ hw'
    exact ⟨⟨some span, rfl⟩, hw'⟩
  · exact ⟨⟨none, rfl⟩, hw⟩

variable (c : GeneralCall)

theorem GeneralCall.preRequest_passes (json : JsonObject) (hw : Windowed w) :
    Ensures (informed (consulted taken memory)) (fun _ _ => True) (c.preRequest json) () w
      fun r _ w' => r = .ok none ∧ Windowed w' := by
  unfold preRequest
  split
  · apply ensures_consult hw
    intro answer w' hstep hw'
    obtain rfl : answer = .ok none := hstep.2
    exact ⟨rfl, hw'⟩
  · exact ⟨rfl, hw⟩

/-- With a window the statistics are there. -/
theorem GeneralCall.readStats_reads (hw : Windowed w) :
    Ensures (informed known) (fun _ _ => True) c.readStats () w
      fun r _ w' => r = .ok () ∧ Windowed w' := by
  unfold readStats
  split
  · exact ⟨rfl, hw⟩
  · apply ensures_consult hw
    intro t w₁ _ hw₁
    apply ensures_consult hw₁
    intro stats w₂ hstep hw₂
    have hmoves : w₁.monitor.getRequestStats t = (stats, w₂.monitor) := hstep.1.2.2
    obtain ⟨found, hfound⟩ := getRequestStats_ok hw₁ t
    rw [hmoves] at hfound
    obtain rfl : stats = .ok found := hfound
    exact ⟨rfl, hw₂⟩

theorem GeneralCall.modelEverExisted_remembers (name : String)
    (hmemory : c.deployment.remembersModels = memory.isSome) (hw : Windowed w) :
    Ensures (informed (consulted taken memory)) (fun _ _ => True)
      (c.modelEverExisted (.str name)) () w
      fun r _ w' => r = .ok (memory.any (· name)) ∧ Windowed w' := by
  unfold modelEverExisted
  rw [hmemory]
  cases memory with
  | none => exact ⟨rfl, hw⟩
  | some seen =>
    apply ensures_consult hw
    intro answer w' hstep hw'
    obtain rfl : answer = .ok (seen name) := hstep.2 seen rfl
    exact ⟨rfl, hw'⟩

theorem GeneralCall.respond_responds (status : Nat) (message : String) :
    Ensures (informed known) (fun _ _ => True) (c.respond status message) () w
      fun r _ _ => r = .ok (.plain (errorResponse status message c.request.requestId)) := by
  unfold respond endRouterSpan
  cases c.span with
  | none => exact rfl
  | some span => exact ⟨trivial, fun _ _ _ => rfl⟩

end Every

/-- The response when no endpoint serves the model. -/
def unservedResponse (deployment : Deployment) (request : ClientRequest) (name : String)
    (seen : Bool) : PlainResponse :=
  if seen then
    errorResponse 503 ("Model '" ++ deployment.strOf (.str name) ++
      "' is temporarily unavailable. Please try again later.") request.requestId
  else
    errorResponse 404 ("Model '" ++ deployment.strOf (.str name) ++
      "' not found. Available models can be listed at /v1/models.") request.requestId

section Unserved

/-- An endpoint that is awake serves the model, and has the id that the request
names if it names one. -/
def ClientRequest.admits (request : ClientRequest) (model : String) (endpoint : EndpointInfo) :
    Bool :=
  endpoint.serves model && (request.queryId.filter (· ≠ "")).all (endpoint.id = ·)

namespace GeneralCall

variable (c : GeneralCall)

theorem mayServe_str (name : String) : c.mayServe (.str name) = c.request.admits name := by
  funext endpoint
  exact Bool.and_right_comm _ _ _

theorem filter_unserved (hunserved : ∀ endpoint ∈ taken, c.request.admits name endpoint = false) :
    taken.filter (c.mayServe (.str name)) = [] := by
  rw [List.filter_eq_nil_iff, c.mayServe_str]
  intro endpoint hmember
  rw [hunserved endpoint hmember]
  decide

theorem routeAmong_unserved {json : JsonObject} {body : Body} (everExisted : Bool)
    (hunserved : ∀ endpoint ∈ taken, c.request.admits name endpoint = false) (hw : Windowed w) :
    Ensures (informed (consulted taken memory)) (fun _ _ => True)
      (c.routeAmong taken (.str name) json body everExisted) () w fun r _ _ =>
        r = .ok (.plain (unservedResponse c.deployment c.request name everExisted)) := by
  apply ensures_seq (c.readStats_reads hw)
  · rintro _ _ w₁ ⟨-, hw₁⟩
    apply ensures_consult hw₁
    intro _ w₂ _ _
    rw [c.filter_unserved hunserved]
    cases everExisted with
    | true | false => exact c.respond_responds _ _
  · rintro raised _ _ ⟨⟨⟩, -⟩

theorem routeNamed_unserved (hmemory : c.deployment.remembersModels = memory.isSome)
    (hlocal : c.deployment.isLocal (c.deployment.resolve name) = true)
    (hunserved : ∀ endpoint ∈ taken,
      c.request.admits (c.deployment.resolve name) endpoint = false) (hw : Windowed w) :
    Ensures (informed (consulted taken memory)) (fun _ _ => True) (c.routeNamed name bytes fields)
      () w fun r _ _ => r = .ok (.plain (unservedResponse c.deployment c.request
        (c.deployment.resolve name) (memory.any (· (c.deployment.resolve name))))) := by
  apply ensures_consult hw
  intro snapshot w₁ hstep hw₁
  obtain rfl : snapshot = taken := hstep.2
  rw [if_pos hlocal]
  apply ensures_seq (c.modelEverExisted_remembers _ hmemory hw₁)
  · rintro everExisted _ w₂ ⟨hseen, hw₂⟩
    obtain rfl := Except.ok.inj hseen
    exact c.routeAmong_unserved _ hunserved hw₂
  · rintro raised _ _ ⟨⟨⟩, -⟩

end GeneralCall

variable {path : String}

theorem routeNamedRequest_unserved (hmemory : deployment.remembersModels = memory.isSome)
    (hlocal : deployment.isLocal (deployment.resolve name) = true)
    (hunserved : ∀ endpoint ∈ taken, request.admits (deployment.resolve name) endpoint = false)
    (hw : Windowed w) : Ensures (informed (consulted taken memory)) (fun _ _ => True)
      (routeNamedRequest deployment request path name bytes fields) () w fun r _ _ =>
        r = .ok (.plain (unservedResponse deployment request (deployment.resolve name)
          (memory.any (· (deployment.resolve name))))) := by
  apply ensures_consult hw
  intro _ w₁ _ hw₁
  apply ensures_seq (openRouterSpan_opens _ _ hw₁)
  · rintro span _ w₂ ⟨-, hw₂⟩
    apply ensures_seq (GeneralCall.preRequest_passes ⟨deployment, request, path, span⟩ fields hw₂)
    · rintro overwrite _ w₃ ⟨hpasses, hw₃⟩
      obtain rfl : overwrite = none := Except.ok.inj hpasses
      exact GeneralCall.routeNamed_unserved ⟨deployment, request, path, span⟩ hmemory hlocal
        hunserved hw₃
    · rintro raised _ _ ⟨⟨⟩, -⟩
  · rintro raised _ _ ⟨⟨_, ⟨⟩⟩, -⟩

/-! Some run. -/

theorem unhindered_consulted (taken : List EndpointInfo) (memory : Option (String → Bool)) :
    Unhindered (informed (consulted taken memory)) Idle := by
  apply unhindered_informed
  · intro e answer h
    cases e with
    | getEndpointInfo | hasEverSeenModel _ | preRequest _ => cases h
    | _ => exact trivial
  · intro json
    exact rfl

theorem answers_consulted_seen (name : String) :
    Answers (informed (consulted taken memory)) Idle (.hasEverSeenModel (.str name))
      (.ok (memory.any (· name))) := by
  refine answers_informed rfl trivial ?_
  rintro seen rfl
  rfl

section Open

variable {env : Env service World} {inv : World → Prop} (hopen : Unhindered env inv)
  (htaken : Answers env inv .getEndpointInfo taken) {seen : Bool} (c : GeneralCall)

include hopen

theorem Unhindered.may_respond (status : Nat) (message : String) :
    May env inv (c.respond status message)
      (.plain (errorResponse status message c.request.requestId)) := by
  unfold GeneralCall.respond endRouterSpan
  cases c.span with
  | none => exact may_pure _
  | some span =>
    have hnote : May env inv (note (.endSpan span none (some status)) : Py service Unit Unit) () :=
      hopen.may_note rfl rfl rfl trivial
    exact hnote.bind (may_pure _)

include htaken

theorem GeneralCall.may_routeNamed_unserved
    (hlocal : c.deployment.isLocal (c.deployment.resolve name) = true)
    (hunserved : ∀ endpoint ∈ taken, c.request.admits (c.deployment.resolve name) endpoint = false)
    (hseen : Answers env inv (.hasEverSeenModel (.str (c.deployment.resolve name))) (.ok seen)) :
    May env inv (c.routeNamed name bytes fields)
      (.plain (unservedResponse c.deployment c.request (c.deployment.resolve name)
        (c.deployment.remembersModels && seen))) := by
  apply htaken.may.bind
  rw [if_pos hlocal]
  apply (c.may_modelEverExisted hseen).bind
  apply (hopen.may_readStats c).bind
  apply (hopen.may_countRequest _).bind
  rw [c.filter_unserved hunserved]
  cases c.deployment.remembersModels && seen with
  | true | false => exact hopen.may_respond c _ _

theorem may_routeNamedRequest_unserved
    (hlocal : deployment.isLocal (deployment.resolve name) = true)
    (hunserved : ∀ endpoint ∈ taken, request.admits (deployment.resolve name) endpoint = false)
    (hseen : Answers env inv (.hasEverSeenModel (.str (deployment.resolve name))) (.ok seen)) :
    May env inv (routeNamedRequest deployment request path name bytes fields)
      (.plain (unservedResponse deployment request (deployment.resolve name)
        (deployment.remembersModels && seen))) := by
  obtain ⟨span, hspan⟩ := hopen.may_openRouterSpan deployment.app path
  apply hopen.may_time.bind
  apply hspan.bind
  apply (hopen.may_preRequest ⟨deployment, request, path, span⟩ fields).bind
  exact GeneralCall.may_routeNamed_unserved hopen htaken ⟨deployment, request, path, span⟩ hlocal
    hunserved hseen

end Open

end Unserved

section Law

variable {settings : Settings} {initial : ServiceDiscovery} {earlier since : List Change}
  {path : String}

end Law

end ProductionStack.Request

import Mathlib.Data.List.Sort
import Mathlib.Data.String.Basic
import ProductionStack.Routing.Interface

/-!
The two routers that place a request where its KV cache is. Both keep a table
from the controller's instance ids to engine URLs, and both await between filling
it and the next request's use of it, so at an await the table may be anything.
-/

namespace ProductionStack.Routing

open Lib Python Stats Request

/-- The state of a `KvawareRouter` or `LoadAwareRouter`. -/
structure KvState where
  ring : Finset String
  instanceIdToIp : Dict InstanceId String

def KvState.init : KvState := ⟨∅, .empty⟩

/-- `len(v)`. -/
def lengthOf : Json → Except PyExc Nat
  | .arr items => .ok items.length
  | .obj fields => .ok fields.length
  | .str s => .ok s.length
  | .null | .bool _ | .int _ | .float _ => .error (.new .typeError "object has no len()")

def evaluate {σ α : Type} (r : Except PyExc α) : Co σ α := Py.ofExcept (r.mapError Raised.error)

def firstEndpoint {σ : Type} : List EndpointInfo → Co σ EndpointInfo
  | [] => raiseExc indexError "list index out of range"
  | endpoint :: _ => pure endpoint

def firstModel {σ : Type} (endpoints : List EndpointInfo) : Co σ String := do
  let endpoint ← firstEndpoint endpoints
  match endpoint.modelNames with
  | [] => raiseExc indexError "list index out of range"
  | model :: _ => pure model

/-- Tokenize locally, and by the engine's `/tokenize` when that fails. -/
def tokenizePrompt {σ : Type} (post : String → String → Json → Co σ (Except Raised Json))
    (args : RouteArgs) : Co σ Json :=
  let prompt := (args.requestJson.lookup "prompt").getD (.str "")
  Py.tryExcept
    (do
      let model ← firstModel args.endpoints
      let tokens ← ask (.localTokens model prompt)
      Py.ofExcept tokens)
    fun
    | .interrupt i => Py.raise (.interrupt i)
    | .error _ => do
        let endpoint ← firstEndpoint args.endpoints
        let model ← firstModel args.endpoints
        let answer ← post (endpoint.url ++ "/tokenize") model prompt
        let body ← Py.ofExcept answer
        evaluate (body.item "tokens")

/-- An endpoint the table does not map to, or a holder it does not know. -/
def mapIsStale (table : Dict InstanceId String) (endpoints : List EndpointInfo)
    (layout : Layout) : Bool :=
  endpoints.any (fun endpoint => !table.values.contains endpoint.url) ||
    layout.keys.any (fun holder => holder ∉ table)

/-- The table inverted, for the URLs that `live` lets through. The last id written
for a URL wins. -/
def urlToInstance (table : Dict InstanceId String) (live : String → Bool) :
    Dict String InstanceId :=
  table.entries.foldl
    (fun inverse (holder, url) => if live url then inverse.set url holder else inverse) .empty

/-- `instance_id_to_ip[reply.instance_id] = url`. -/
def recordInstance (url : String) : Option InstanceId → Co KvState Unit
  | none => raiseExc .attributeError "'NoneType' object has no attribute 'instance_id'"
  | some id => do
      let router ← get
      put { router with instanceIdToIp := router.instanceIdToIp.set id url }

/-- The session or QPS route on the state of the router. -/
def fallbackUrl (sessionKey : Option String) (args : RouteArgs) :
    Co KvState (Option String × JsonObject) := do
  let router ← get
  let (url, nodes) ← sessionRoute sessionKey router.ring args
  put { router with ring := nodes }
  let url ← Py.ofExcept url
  pure (url, args.requestJson)

variable {table : Dict InstanceId String} {holder : InstanceId} {args : RouteArgs}
  {endpoints : List EndpointInfo} {layout : Layout}

/-- An id that is left in the inverted table is mapped to a URL let through. -/
theorem mem_urlToInstance_values {live : String → Bool}
    (h : holder ∈ (urlToInstance table live).values) :
    ∃ url, (holder, url) ∈ table.entries ∧ live url = true := by
  have hfold (entries : List (InstanceId × String)) (inverse : Dict String InstanceId)
      (h : holder ∈ (entries.foldl (fun inverse (holder, url) =>
        if live url then inverse.set url holder else inverse) inverse).values) :
      holder ∈ inverse.values ∨ ∃ url, (holder, url) ∈ entries ∧ live url = true := by
    induction entries generalizing inverse with
    | nil => exact Or.inl h
    | cons entry rest ih =>
      obtain ⟨id, first⟩ := entry
      rcases ih _ h with hmem | ⟨url, hmem, hlive⟩
      · dsimp only at hmem
        split at hmem
        · next hlive =>
            rcases Dict.mem_values_set _ _ _ hmem with rfl | hmem
            · exact Or.inr ⟨first, List.mem_cons_self, hlive⟩
            · exact Or.inl hmem
        · exact Or.inl hmem
      · exact Or.inr ⟨url, List.mem_cons_of_mem _ hmem, hlive⟩
  exact (hfold table.entries .empty h).resolve_left List.not_mem_nil

/-- Without an invariant on the table: the fallback needs none. -/
theorem fallbackUrl_spec (kind : RouterKind) (hkind : ∀ json, kind.Updates json json)
    (sessionKey : Option String) (hne : args.endpoints ≠ []) (state : KvState) :
    Yields (fun _ => True) (fallbackUrl sessionKey args) state fun r _ =>
      True ∧ Routed kind args r := by
  apply yields_get
  apply Yields.seq (sessionRoute_spec sessionKey state.ring hne)
  · rintro _ _ ⟨rfl, url, nodes, ⟨⟩, hwithin⟩
    apply yields_put
    apply yields_ofExcept_bind
    · rintro url rfl
      exact yields_pure ⟨trivial, hwithin, hkind _⟩
    · intro e
      exact ⟨trivial, trivial⟩
  · rintro e s ⟨-, url, nodes, h, -⟩
    cases h

/-! `KvawareRouter`. -/

structure KvawareRouter where
  sessionKey : Option String
  threshold : Int

/-- The host of a URL, between `//` and the last colon. -/
def queryIp (url : String) : Except PyExc String :=
  let port := (splitText url ":").getLastD ""
  match splitText ((splitText url (":" ++ port)).headD "") "//" with
  | _ :: ip :: _ => .ok ip
  | _ => .error (.new indexError "list index out of range")

namespace KvawareRouter

variable (router : KvawareRouter)

/-- Ask the controller for the instance of every endpoint, one after the other. -/
def queryInstances : List EndpointInfo → Co KvState Unit
  | [] => pure ()
  | endpoint :: rest => do
      let ip ← evaluate (queryIp endpoint.url)
      let answer ← await (.queryInst ip)
      let reply ← Py.ofExcept answer
      recordInstance endpoint.url reply
      queryInstances rest

/-- The holder with the most matched tokens, among those mapped to a live URL. -/
def matchedInstance (table : Dict InstanceId String) (endpoints : List EndpointInfo)
    (layout : Layout) : Option InstanceId :=
  let inverse := urlToInstance table ((urlsOf endpoints).contains ·)
  let liveHolders := layout.keys.filter (inverse.values.contains ·)
  firstBest (fun holder best => layout.getD best 0 < layout.getD holder 0) liveHolders

/-- The table is brought up to date if the controller names any holder. -/
def refresh (endpoints : List EndpointInfo) : Option Layout → Co KvState Unit
  | none => pure ()
  | some layout =>
    if layout.size = 0 then pure ()
    else do
      let state ← get
      if mapIsStale state.instanceIdToIp endpoints layout then queryInstances endpoints
      else pure ()

/-- The decision. Nothing is awaited between reading the table and using it. -/
def place (args : RouteArgs) (tokenIds : Json) :
    Option Layout → Co KvState (Option String × JsonObject)
  | none => raiseExc .typeError "object of type 'NoneType' has no len()"
  | some layout => do
      let state ← get
      match matchedInstance state.instanceIdToIp args.endpoints layout with
      | none => fallbackUrl router.sessionKey args
      | some holder => do
          let length ← evaluate (lengthOf tokenIds)
          if layout.getD holder 0 < max (length - router.threshold) 0 then
            fallbackUrl router.sessionKey args
          else
            match state.instanceIdToIp.get? holder with
            | some url => pure (some url, args.requestJson)
            | none => raiseExc .keyError ""

def routeRequest (args : RouteArgs) : Co KvState (Option String × JsonObject) := do
  let tokenIds ← tokenizePrompt (fun url model prompt => ask (.remoteTokens url model prompt)) args
  let answer ← await (.lookup tokenIds)
  let reply ← Py.ofExcept answer
  match reply with
  | none => raiseExc .attributeError "'NoneType' object has no attribute 'layout_info'"
  | some layoutInfo => do
      refresh args.endpoints layoutInfo
      router.place args tokenIds layoutInfo

/-- Whatever the table holds, the holder that is chosen is mapped to a URL of the
endpoints of this call. -/
theorem matchedInstance_live (h : matchedInstance table endpoints layout = some holder) :
    ∃ url ∈ urlsOf endpoints, table.get? holder = some url := by
  have hmem := firstBest_mem _ h
  rw [List.mem_filter, List.contains_iff_mem] at hmem
  obtain ⟨url, hentry, hlive⟩ := mem_urlToInstance_values hmem.2
  rw [List.contains_iff_mem] at hlive
  exact ⟨url, hlive, table.get?_of_mem_entries hentry⟩

theorem place_spec (hne : args.endpoints ≠ []) (tokenIds : Json)
    (layoutInfo : Option Layout) (state : KvState) :
    Yields (fun _ => True) (router.place args tokenIds layoutInfo) state fun r _ =>
      True ∧ Routed .kvaware args r := by
  have hfallback (state : KvState) :=
    fallbackUrl_spec .kvaware (fun _ => rfl) router.sessionKey hne state
  cases layoutInfo with
  | none => exact yields_raise ⟨trivial, trivial⟩
  | some layout =>
    apply yields_get
    cases hmatched : matchedInstance state.instanceIdToIp args.endpoints layout with
    | none => exact hfallback state
    | some holder =>
      obtain ⟨url, hurl, hget⟩ := matchedInstance_live hmatched
      apply yields_ofExcept_bind
      · intro length _
        split
        · exact hfallback state
        · rw [hget]
          exact yields_pure ⟨trivial, ⟨url, hurl, rfl⟩, rfl⟩
      · intro e
        exact ⟨trivial, trivial⟩

theorem routeRequest_spec (hne : args.endpoints ≠ []) (state : KvState) :
    Yields (fun _ => True) (router.routeRequest args) state fun r _ =>
      True ∧ Routed .kvaware args r := by
  apply Yields.seq (yields_any _ state)
  · intro tokenIds state _
    apply yields_await trivial
    intro answer state _ _
    apply yields_ofExcept_bind
    · intro reply _
      cases reply with
      | none => exact yields_raise ⟨trivial, trivial⟩
      | some layoutInfo =>
        apply Yields.seq (yields_any _ state)
        · intro _ state _
          exact router.place_spec hne tokenIds layoutInfo state
        · intro e state _
          exact ⟨trivial, trivial⟩
    · intro e
      exact ⟨trivial, trivial⟩
  · intro e state _
    exact ⟨trivial, trivial⟩

end KvawareRouter

/-! `LoadAwareRouter`. -/

/-- `a > b`. -/
def exceeds : PyFloat → PyFloat → Bool
  | .finite a, .finite b => b < a
  | .finite _, .negInf | .inf, .finite _ | .inf, .negInf => true
  | _, _ => false

structure LoadAwareRouter where
  sessionKey : Option String
  beta : PyFloat

namespace LoadAwareRouter

variable (router : LoadAwareRouter)

def loadPenalty (requestStats : Dict String RequestStats) (url : String) : Int :=
  inFlight requestStats url

/-- An endpoint's load as a signed fraction of the fleet mean. -/
def relativeLoad (requestStats : Dict String RequestStats) (endpoints : List EndpointInfo)
    (url : String) : ℚ :=
  let loads : Dict String Int := endpoints.foldl
    (fun loads endpoint => loads.set endpoint.url (loadPenalty requestStats endpoint.url)) .empty
  let mean : ℚ := loads.values.sum / loads.size
  match loads.get? url with
  | some load => (load - mean) / max 1 mean
  | none => 0

/-- `benefit - beta * relative_load`, on exact numbers. -/
def scoreEndpoint (matchedTokens promptTokens : Int) (relativeLoad : ℚ) :
    Except PyExc PyFloat :=
  let benefit : ℚ := min matchedTokens promptTokens / max promptTokens 1
  if floatOverflow ≤ |benefit| then
    .error (.new .overflowError "integer division result too large for a float")
  else .ok (match router.beta with
    | .finite beta => .finite (benefit - beta * relativeLoad)
    | .nan => .nan
    | .inf => if 0 < relativeLoad then .negInf else if relativeLoad < 0 then .inf else .nan
    | .negInf => if 0 < relativeLoad then .inf else if relativeLoad < 0 then .negInf else .nan)

/-- The controller's answer by engine URL. -/
def matchedTokens (table : Dict InstanceId String) (layout : Layout) (url : String) : Int :=
  match (urlToInstance table fun _ => true).get? url with
  | some id => layout.getD id 0
  | none => 0

def selectLoop (score : String → Except PyExc PyFloat) :
    List EndpointInfo → Option String → PyFloat → Except PyExc (Option String)
  | [], bestUrl, _ => .ok bestUrl
  | info :: rest, bestUrl, bestScore =>
    match score info.url with
    | .error e => .error e
    | .ok value =>
      if exceeds value bestScore then selectLoop score rest (some info.url) value
      else selectLoop score rest bestUrl bestScore

/-- The placement decision: ties go to the lexicographically first URL. -/
def selectUrl (table : Dict InstanceId String) (args : RouteArgs) (layout : Layout)
    (promptTokens : Nat) : Except PyExc (Option String) :=
  let score (url : String) := router.scoreEndpoint (matchedTokens table layout url) promptTokens
    (relativeLoad args.requestStats args.endpoints url)
  selectLoop score (args.endpoints.insertionSort fun a b => a.url ≤ b.url) none .negInf

/-- One of the tasks that `refresh_instance_map` gathers. It goes on by itself
when another of them has failed. -/
def queryEndpoint (endpoint : EndpointInfo) : Co KvState Unit := do
  let host ← ask (.hostname endpoint.url)
  let ip ← Py.ofExcept host
  let answer ← await (.queryInst ip)
  let reply ← Py.ofExcept answer
  recordInstance endpoint.url reply

def refreshInstanceMap (endpoints : List EndpointInfo) (layout : Layout) : Co KvState Unit := do
  let state ← get
  if mapIsStale state.instanceIdToIp endpoints layout then do
    let gathered ← await (.gather endpoints)
    Py.ofExcept gathered
  else pure ()

def place (args : RouteArgs) (tokenIds : Json) (layout : Layout) :
    Co KvState (Option String × JsonObject) := do
  let state ← get
  let length ← evaluate (lengthOf tokenIds)
  let url ← evaluate (router.selectUrl state.instanceIdToIp args layout length)
  match url with
  | none => fallbackUrl router.sessionKey args
  | some url => pure (some url, args.requestJson)

def routeRequest (args : RouteArgs) : Co KvState (Option String × JsonObject) :=
  if args.endpoints.isEmpty then
    Py.raise (.error (.http 503 "No backend endpoints available"))
  else do
    let tokenIds ←
      tokenizePrompt (fun url model prompt => await (.remoteTokens url model prompt)) args
    let answer ← await (.lookup tokenIds)
    let reply ← Py.ofExcept answer
    let layout := (reply.getD none).getD .empty
    if layout.size = 0 then fallbackUrl router.sessionKey args
    else do
      refreshInstanceMap args.endpoints layout
      router.place args tokenIds layout

variable {url : String}

theorem selectLoop_mem {score : String → Except PyExc PyFloat} {bestUrl : Option String}
    {bestScore : PyFloat} (h : selectLoop score endpoints bestUrl bestScore = .ok (some url)) :
    url ∈ urlsOf endpoints ∨ bestUrl = some url := by
  induction endpoints generalizing bestUrl bestScore with
  | nil => exact Or.inr (Except.ok.inj h)
  | cons info rest ih =>
    unfold selectLoop at h
    split at h
    · cases h
    · split at h
      · rcases ih h with hmem | hbest
        · exact Or.inl (List.mem_cons_of_mem _ hmem)
        · obtain rfl := Option.some.inj hbest
          exact Or.inl List.mem_cons_self
      · exact (ih h).imp (List.mem_cons_of_mem _) id

theorem selectUrl_mem {promptTokens : Nat}
    (h : router.selectUrl table args layout promptTokens = .ok (some url)) :
    url ∈ urlsOf args.endpoints := by
  have hmem := (selectLoop_mem h).resolve_right nofun
  obtain ⟨endpoint, hendpoint, rfl⟩ := List.mem_map.mp hmem
  exact List.mem_map_of_mem ((List.mem_insertionSort _).mp hendpoint)

theorem place_spec (hne : args.endpoints ≠ []) (tokenIds : Json) (layout : Layout) (state : KvState) :
    Yields (fun _ => True) (router.place args tokenIds layout) state fun r _ =>
      True ∧ Routed .loadaware args r := by
  apply yields_get
  apply yields_ofExcept_bind
  · intro length _
    apply yields_ofExcept_bind
    · intro url hurl
      cases url with
      | none => exact fallbackUrl_spec .loadaware (fun _ => rfl) router.sessionKey hne state
      | some url =>
        cases hselect : router.selectUrl state.instanceIdToIp args layout length with
        | error e =>
          rw [hselect] at hurl
          cases hurl
        | ok selected =>
          rw [hselect] at hurl
          cases hurl
          exact yields_pure ⟨trivial, ⟨url, router.selectUrl_mem hselect, rfl⟩, rfl⟩
    · intro e
      exact ⟨trivial, trivial⟩
  · intro e
    exact ⟨trivial, trivial⟩

theorem routeRequest_spec (hne : args.endpoints ≠ []) (state : KvState) :
    Yields (fun _ => True) (router.routeRequest args) state fun r _ =>
      True ∧ Routed .loadaware args r := by
  unfold routeRequest
  split
  · exact ⟨trivial, trivial⟩
  · apply Yields.seq (yields_any _ state)
    · intro tokenIds state _
      apply yields_await trivial
      intro answer state _ _
      apply yields_ofExcept_bind
      · intro reply _
        dsimp only
        split
        · exact fallbackUrl_spec .loadaware (fun _ => rfl) router.sessionKey hne state
        · apply Yields.seq (yields_any _ state)
          · intro _ state _
            exact router.place_spec hne tokenIds _ state
          · intro e state _
            exact ⟨trivial, trivial⟩
      · intro e
        exact ⟨trivial, trivial⟩
    · intro e state _
      exact ⟨trivial, trivial⟩

end LoadAwareRouter

end ProductionStack.Routing

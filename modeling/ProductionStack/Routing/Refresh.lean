import ProductionStack.Lib.Gather
import ProductionStack.Routing.InstanceMap
import ProductionStack.Routing.Sequential

/-!
What a refresh of the instance table achieves. The table is stale if it lacks the
URL of an endpoint or the id of a holder. A refresh asks the controller about the
host of every endpoint and writes the ids it is told, so that two endpoints on one
host are written under one id, and an id that no engine answers with any more stays
unknown. The load-aware router asks for all of them at once, and the answers are
written as they come.
-/

namespace ProductionStack.Routing

open Lib Python Request Py

/-- A controller that answers each host query the same way throughout; and what
`urlparse` makes of each URL. -/
structure Controller where
  hostname : String → Except Raised String
  queryInst : String → Except Raised (Option InstanceId)

namespace Controller

variable (controller : Controller)

def allowed : (query : Query) → query.Answer → Prop
  | .hostname url, answer => answer = controller.hostname url
  | .queryInst ip, answer => answer = controller.queryInst ip
  | query, answer => query.allowed answer

/-- The instance that the controller names for a host, if it names one. -/
def instanceAt : Except Raised String → Option InstanceId
  | .error _ => none
  | .ok ip =>
    match controller.queryInst ip with
    | .error _ => none
    | .ok reply => reply

/-- The instance at a URL, as the load-aware router asks for it. -/
def byHostname (url : String) : Option InstanceId := controller.instanceAt (controller.hostname url)

/-- The instance at a URL, as the KV-aware router asks for it. -/
def byQueryIp (url : String) : Option InstanceId :=
  controller.instanceAt ((queryIp url).mapError Raised.error)

/-- `asyncio.gather` of one task for each endpoint: it returns when all of them have
returned, and raises when one of them has. -/
def gathers (endpoints : List EndpointInfo) (s : KvState) : Except Raised Unit → KvState → Prop
  | result, s' => ∃ pool, Pool.Reachable (fun endpoint => LoadAwareRouter.queryEndpoint endpoint ())
      controller.allowed s pool ∧ pool.inputs = endpoints ∧ pool.state = s' ∧
      match result with
      | .ok _ => ∀ call ∈ pool.calls, call.2 = .ret (.ok (), ())
      | .error e => ∃ call ∈ pool.calls, call.2 = .ret (.error e, ())

def awaited : (query : Query) → query.Answer → KvState → KvState → Prop
  | .gather endpoints, answer, s, s' => controller.gathers endpoints s answer s'
  | query, answer, s, s' => controller.allowed query answer ∧ s' = s

/-- One call, with the tasks that it gathers. -/
def env : Env (shared KvState routing) KvState
  | s, .get, answer, s' => answer = s ∧ s' = s
  | _, .put t, _, s' => s' = t
  | s, .ask query, answer, s' => controller.allowed query answer ∧ s' = s
  | s, .await query, answer, s' => controller.awaited query answer s s'

/-- The coroutine `p` returns, and leaves the state as `s'`. -/
def Completes (p : Co KvState Unit) (s s' : KvState) : Prop :=
  Prog.Reaches controller.env (p ()) s (.ret (.ok (), ())) s'

end Controller

/-- The coroutine `p` returns without an answer to anything. -/
def Silent (p : Co KvState Unit) (s : KvState) : Prop :=
  Finishes (fun _ => none) p s fun r s' => r = .ok () ∧ s' = s

/-- The writes for these endpoints, in this order. -/
def writesOf (idOf : String → Option InstanceId) (endpoints : List EndpointInfo) :
    List (InstanceId × String) :=
  endpoints.filterMap fun endpoint => (idOf endpoint.url).map fun id => (id, endpoint.url)

variable {endpoints : List EndpointInfo} {layout : Layout} {idOf : String → Option InstanceId}
  {id : InstanceId} {url : String} {table : Dict InstanceId String}

theorem mem_writesOf :
    (id, url) ∈ writesOf idOf endpoints ↔ url ∈ urlsOf endpoints ∧ idOf url = some id := by
  unfold writesOf urlsOf
  rw [List.mem_filterMap, List.mem_map]
  constructor
  · rintro ⟨endpoint, hendpoint, h⟩
    rw [Option.map_eq_some_iff] at h
    obtain ⟨id', hid, heq⟩ := h
    obtain ⟨rfl, rfl⟩ := Prod.mk.inj heq
    exact ⟨⟨endpoint, hendpoint, rfl⟩, hid⟩
  · rintro ⟨⟨endpoint, hendpoint, rfl⟩, hid⟩
    exact ⟨endpoint, hendpoint, by rw [hid]; rfl⟩

/-- What one answer does to the table. -/
def recorded (idOf : String → Option InstanceId) (endpoint : EndpointInfo) (s : KvState) : KvState :=
  match idOf endpoint.url with
  | none => s
  | some id => { s with instanceIdToIp := s.instanceIdToIp.set id endpoint.url }

theorem inOrder_recorded (idOf : String → Option InstanceId) (order : List EndpointInfo)
    (s : KvState) : inOrder (recorded idOf) order s =
      { s with instanceIdToIp := s.instanceIdToIp.assign (writesOf idOf order) } := by
  induction order generalizing s with
  | nil => rfl
  | cons endpoint rest ih =>
    change inOrder (recorded idOf) rest (recorded idOf endpoint s) = _
    rw [ih]
    unfold recorded writesOf
    cases hid : idOf endpoint.url with
    | none => rw [List.filterMap_cons_none (by rw [hid]; rfl)]
    | some id =>
      rw [List.filterMap_cons_some (by rw [hid]; rfl)]
      rfl

theorem mapIsStale_eq_false : mapIsStale table endpoints layout = false ↔
      (∀ url ∈ urlsOf endpoints, url ∈ table.values) ∧ ∀ holder ∈ layout.keys, holder ∈ table := by
  simp [mapIsStale, urlsOf]

/-- A table that is not stale is not asked about again. -/
theorem silent_refreshInstanceMap_iff {s : KvState} :
    Silent (LoadAwareRouter.refreshInstanceMap endpoints layout) s ↔
      mapIsStale s.instanceIdToIp endpoints layout = false := by
  have halone : alone (Q := routing) (fun _ => none)
      (LoadAwareRouter.refreshInstanceMap endpoints layout ()) s =
        if mapIsStale s.instanceIdToIp endpoints layout then none else some ((.ok (), ()), s) := by
    change alone _ ((if mapIsStale s.instanceIdToIp endpoints layout then _ else _ :
      Co KvState Unit) ()) s = _
    split <;> rfl
  unfold Silent Finishes Ends
  rw [halone]
  cases mapIsStale s.instanceIdToIp endpoints layout with
  | false => exact ⟨fun _ => rfl, fun _ => ⟨_, s, rfl, rfl, rfl⟩⟩
  | true => simp

namespace Controller

variable (controller : Controller)

/-! One task. -/

variable (endpoint : EndpointInfo)

/-- A task has no effect before it returns. -/
theorem queryEndpoint_unfinished (s : KvState)
    (p : Prog (shared KvState routing) (Except Raised Unit × Unit)) (s' : KvState)
    (hrun : RunsTo controller.allowed (LoadAwareRouter.queryEndpoint endpoint ()) s p s') :
    s' = s ∧ Unfinished controller.allowed (recorded controller.byHostname)
      (fun r => r.1.isOk) endpoint p := by
  cases hrun with
  | ask host hhost rest =>
    obtain rfl : host = controller.hostname endpoint.url := hhost
    cases hhost' : controller.hostname endpoint.url with
    | error e =>
      rw [hhost'] at rest
      cases rest
      exact ⟨rfl, rfl⟩
    | ok ip =>
      rw [hhost'] at rest
      cases rest
      refine ⟨rfl, ?_⟩
      intro answer t q t' hanswer hresume
      obtain rfl : answer = controller.queryInst ip := hanswer
      unfold recorded byHostname instanceAt
      rw [hhost']
      dsimp only
      cases hreply : controller.queryInst ip with
      | error e =>
        rw [hreply] at hresume
        cases hresume
        exact ⟨_, rfl, rfl⟩
      | ok reply =>
        rw [hreply] at hresume
        cases reply with
        | none =>
          cases hresume
          exact ⟨_, rfl, rfl⟩
        | some id =>
          cases hresume with
          | get hput =>
            cases hput with
            | put hret =>
              cases hret
              exact ⟨_, rfl, rfl⟩

/-- A task that succeeds was told an instance. -/
theorem queryEndpoint_cooperates (s : KvState) : Cooperates (fun _ => True) controller.allowed
      (fun r => r.1.isOk = true → controller.byHostname endpoint.url ≠ none)
      (LoadAwareRouter.queryEndpoint endpoint ()) s := by
  refine ⟨trivial, ?_⟩
  rintro host _ ⟨hhost, rfl⟩
  obtain rfl : host = controller.hostname endpoint.url := hhost
  unfold byHostname instanceAt
  cases controller.hostname endpoint.url with
  | error e => exact ⟨trivial, nofun⟩
  | ok ip =>
    refine ⟨trivial, ?_⟩
    rintro answer _ ⟨hanswer, -⟩
    obtain rfl : answer = controller.queryInst ip := hanswer
    dsimp only
    cases controller.queryInst ip with
    | error e => exact ⟨trivial, nofun⟩
    | ok reply =>
      cases reply with
      | none => exact ⟨trivial, nofun⟩
      | some id =>
        refine ⟨trivial, fun _ _ _ => ⟨trivial, fun _ _ _ => ⟨trivial, nofun⟩⟩⟩

theorem instanceAt_eq_some_iff {host : Except Raised String} :
    controller.instanceAt host = some id ↔
      ∃ ip, host = .ok ip ∧ controller.queryInst ip = .ok (some id) := by
  unfold instanceAt
  cases host with
  | error e => simp
  | ok ip =>
    cases hreply : controller.queryInst ip with
    | error e => simp [hreply]
    | ok reply => simp [hreply]

/-- A task that waits for the controller. -/
def waiting (endpoint : EndpointInfo) :
    Prog (shared KvState routing) (Except Raised Unit × Unit) :=
  match controller.hostname endpoint.url with
  | .error e => .ret (.error e, ())
  | .ok ip => .perform (.await (.queryInst ip)) fun answer =>
    (Py.ofExcept answer >>= recordInstance endpoint.url : Co KvState Unit) ()

theorem queryEndpoint_starts (s : KvState) :
    RunsTo controller.allowed (LoadAwareRouter.queryEndpoint endpoint ()) s
      (controller.waiting endpoint) s := by
  apply RunsTo.ask (controller.hostname endpoint.url) rfl
  unfold waiting
  cases controller.hostname endpoint.url with
  | error e => exact .ret _ s
  | ok ip => exact .await _ _ s

theorem waiting_resumes {endpoint : EndpointInfo} (h : controller.byHostname endpoint.url ≠ none) :
    Resumes controller.allowed (recorded controller.byHostname) (.ok (), ()) endpoint
      (controller.waiting endpoint) := by
  obtain ⟨id, hid⟩ := Option.ne_none_iff_exists'.mp h
  obtain ⟨ip, hhost, hreply⟩ := controller.instanceAt_eq_some_iff.mp hid
  unfold waiting
  rw [hhost]
  refine ⟨.queryInst ip, _, .ok (some id), rfl, hreply.symm, ?_⟩
  intro s
  unfold recorded
  rw [hid]
  exact .get (.put (.ret _ _))

/-! All of them. -/

variable {s s' : KvState}

/-- Gathering succeeds if every endpoint's instance is told, and then the answers are
written in some order; any is possible. -/
theorem gathers_ok_iff : controller.gathers endpoints s (.ok ()) s' ↔
      (∀ url ∈ urlsOf endpoints, controller.byHostname url ≠ none) ∧
      ∃ order : List EndpointInfo, order.Perm endpoints ∧ s' = { s with
          instanceIdToIp := s.instanceIdToIp.assign (writesOf controller.byHostname order) } := by
  constructor
  · rintro ⟨pool, hpool, rfl, rfl, hdone⟩
    have hfinished : ∀ call ∈ pool.calls, finished (fun r => r.1.isOk) call.2 = true := by
      intro call hcall
      rw [hdone call hcall]
      rfl
    obtain ⟨order, horder, hstate⟩ :=
      gathered_perm controller.queryEndpoint_unfinished hpool hfinished
    refine ⟨?_, order, horder, hstate.trans (inOrder_recorded _ order s)⟩
    intro url hurl
    obtain ⟨endpoint, hendpoint, rfl⟩ := List.mem_map.mp hurl
    obtain ⟨call, hcall, rfl⟩ := List.mem_map.mp hendpoint
    have hreturned : (call.1, .ret (.ok (), ())) ∈ pool.calls := by
      rw [← hdone call hcall]
      exact hcall
    exact pool_returned trivial
      (fun endpoint s _ => controller.queryEndpoint_cooperates endpoint s) hpool hreturned rfl
  · rintro ⟨htold, order, horder, rfl⟩
    have hpool : Pool.Reachable (fun endpoint => LoadAwareRouter.queryEndpoint endpoint ())
        controller.allowed s _ :=
      gathered_possible s horder (fun endpoint _ => controller.queryEndpoint_starts endpoint)
        (fun endpoint hendpoint =>
          controller.waiting_resumes (htold _ (List.mem_map_of_mem hendpoint)))
    refine ⟨_, hpool, ?_, inOrder_recorded _ order s, ?_⟩
    · simp [Pool.inputs, Function.comp_def]
    · intro call hcall
      obtain ⟨endpoint, -, rfl⟩ := List.mem_map.mp hcall
      rfl

theorem completes_get_iff {f : KvState → Co KvState Unit} :
    controller.Completes (get >>= f) s s' ↔ controller.Completes (f s) s s' := by
  constructor
  · intro h
    cases h with
    | step answer hanswer rest =>
      obtain ⟨rfl, rfl⟩ := hanswer
      exact rest
  · intro h
    exact .step s ⟨rfl, rfl⟩ h

theorem completes_pure_iff : controller.Completes (pure ()) s s' ↔ s' = s := by
  constructor
  · intro h
    cases h
    rfl
  · rintro rfl
    exact .refl _ _

theorem completes_refreshInstanceMap_iff :
    controller.Completes (LoadAwareRouter.refreshInstanceMap endpoints layout) s s' ↔
      if mapIsStale s.instanceIdToIp endpoints layout then
        controller.gathers endpoints s (.ok ()) s'
      else s' = s := by
  unfold LoadAwareRouter.refreshInstanceMap
  rw [completes_get_iff]
  split
  · constructor
    · intro h
      cases h with
      | step gathered hgathered rest =>
        cases gathered with
        | ok _ =>
          cases rest
          exact hgathered
        | error e => cases rest
    · intro h
      exact .step (.ok ()) h (.refl _ _)
  · exact controller.completes_pure_iff

end Controller

/-- What it takes for the answers to settle a stale table in whatever order they come:
a URL shares its instance with no other, unless another id that is not answered with
is mapped to it; and every holder is known or answered with. -/
structure Settles (idOf : String → Option InstanceId) (endpoints : List EndpointInfo)
    (layout : Layout) (table : Dict InstanceId String) : Prop where
  urls : ∀ url ∈ urlsOf endpoints,
    (∃ id, table.get? id = some url ∧ ∀ other ∈ urlsOf endpoints, idOf other ≠ some id) ∨
      ∀ other ∈ urlsOf endpoints, idOf other = idOf url → other = url
  holders : ∀ holder ∈ layout.keys,
    holder ∈ table ∨ ∃ url ∈ urlsOf endpoints, idOf url = some holder

section Settling

variable {order : List EndpointInfo}

theorem mem_urlsOf_perm (horder : order.Perm endpoints) :
    url ∈ urlsOf order ↔ url ∈ urlsOf endpoints :=
  (horder.map _).mem_iff

theorem mem_keys_writesOf :
    id ∈ (writesOf idOf endpoints).map Prod.fst ↔ ∃ url ∈ urlsOf endpoints, idOf url = some id := by
  simp [mem_writesOf]

/-- Two endpoints told the same instance: the one that is written last has it. -/
theorem latest_writesOf_last (front : List EndpointInfo) {last : EndpointInfo}
    (hid : idOf last.url = some id) :
    latest Prod.fst id (writesOf idOf (front ++ [last])) = some (id, last.url) := by
  unfold writesOf
  rw [List.filterMap_append, List.filterMap_cons_some (by rw [hid]; rfl), List.filterMap_nil,
    latest_append, if_pos rfl]

theorem fresh_assign_iff (htold : ∀ url ∈ urlsOf endpoints, idOf url ≠ none) :
    (∀ order : List EndpointInfo, order.Perm endpoints →
      mapIsStale (table.assign (writesOf idOf order)) endpoints layout = false) ↔
      Settles idOf endpoints layout table := by
  simp only [mapIsStale_eq_false, Dict.mem_values_assign, Dict.mem_assign]
  constructor
  · intro hfresh
    refine ⟨?_, ?_⟩
    · intro url hurl
      by_contra hunsettled
      push Not at hunsettled
      obtain ⟨hoverwritten, other, hother, hsame, hne⟩ := hunsettled
      obtain ⟨last, hlast, rfl⟩ := List.mem_map.mp hother
      obtain ⟨before, after, rfl⟩ := List.append_of_mem hlast
      obtain ⟨id, hid⟩ := Option.ne_none_iff_exists'.mp (htold _ hother)
      -- Let the other endpoint's answer come last.
      have horder : ((before ++ after) ++ [last]).Perm (before ++ last :: after) :=
        (List.perm_append_singleton _ _).trans List.perm_middle.symm
      rcases (hfresh _ horder).1 url hurl with ⟨id', hlatest⟩ | ⟨id', hkey, hget⟩
      · obtain ⟨-, hid'⟩ := mem_writesOf.mp (latest_mem hlatest).1
        obtain rfl : id' = id := Option.some.inj (hid'.symm.trans (hsame.symm.trans hid))
        rw [latest_writesOf_last _ hid] at hlatest
        exact hne (Prod.mk.inj (Option.some.inj hlatest)).2
      · obtain ⟨written, hwritten, hid'⟩ := hoverwritten id' hget
        exact hkey (mem_keys_writesOf.mpr ⟨written, (mem_urlsOf_perm horder).mpr hwritten, hid'⟩)
    · intro holder hholder
      rcases (hfresh endpoints (List.Perm.refl _)).2 holder hholder with hwritten | hknown
      · exact Or.inr (mem_keys_writesOf.mp hwritten)
      · exact Or.inl hknown
  · intro hsettles order horder
    refine ⟨?_, ?_⟩
    · intro url hurl
      rcases hsettles.urls url hurl with ⟨id, hget, hkept⟩ | halone
      · refine Or.inr ⟨id, ?_, hget⟩
        rw [mem_keys_writesOf]
        rintro ⟨other, hother, hid⟩
        exact hkept other ((mem_urlsOf_perm horder).mp hother) hid
      · obtain ⟨id, hid⟩ := Option.ne_none_iff_exists'.mp (htold url hurl)
        have hwrite : (id, url) ∈ writesOf idOf order :=
          mem_writesOf.mpr ⟨(mem_urlsOf_perm horder).mpr hurl, hid⟩
        have hsome : ∃ found, latest Prod.fst id (writesOf idOf order) = some found :=
          latest_isSome hwrite
        obtain ⟨⟨id', last⟩, hlatest⟩ := hsome
        obtain ⟨hmem, hkey⟩ := latest_mem hlatest
        obtain rfl : id' = id := hkey
        obtain ⟨hlast, hid'⟩ := mem_writesOf.mp hmem
        obtain rfl := halone last ((mem_urlsOf_perm horder).mp hlast) (hid'.trans hid.symm)
        exact Or.inl ⟨id', hlatest⟩
    · intro holder hholder
      rcases hsettles.holders holder hholder with hknown | ⟨url, hurl, hid⟩
      · exact Or.inr hknown
      · exact Or.inl (mem_keys_writesOf.mpr ⟨url, (mem_urlsOf_perm horder).mpr hurl, hid⟩)

/-- A refresh that completes has been told every instance. -/
theorem told_imp_iff {told : String → Option InstanceId} {Q R : KvState → Prop} {S : Prop}
    (h : (∀ url ∈ urlsOf endpoints, told url ≠ none) → ((∀ s', Q s' → R s') ↔ S)) :
    (∀ s', (∀ url ∈ urlsOf endpoints, told url ≠ none) ∧ Q s' → R s') ↔
      (∃ url ∈ urlsOf endpoints, told url = none) ∨ S := by
  by_cases htold : ∀ url ∈ urlsOf endpoints, told url ≠ none
  · have hnone : ¬ ∃ url ∈ urlsOf endpoints, told url = none := by
      rintro ⟨url, hurl, hnone⟩
      exact htold url hurl hnone
    rw [or_iff_right hnone, ← h htold]
    exact forall_congr' fun s' => imp_congr_left (and_iff_right htold)
  · refine iff_of_true (fun s' hs' => absurd hs'.1 htold) (Or.inl ?_)
    push Not at htold
    exact htold

end Settling

/-- With a controller that answers each host query the same way throughout: whenever
a refresh completes, the table is not stale for the same endpoints and layout, and
refreshing it again asks nothing, exactly if there was nothing to do, or an endpoint's
query fails and no refresh completes, or the answers settle the table. -/
theorem refreshInstanceMap_effective_iff (controller : Controller) (endpoints : List EndpointInfo)
    (layout : Layout) (s : KvState) :
    (∀ s', controller.Completes (LoadAwareRouter.refreshInstanceMap endpoints layout) s s' →
      mapIsStale s'.instanceIdToIp endpoints layout = false ∧
        Silent (LoadAwareRouter.refreshInstanceMap endpoints layout) s') ↔
    mapIsStale s.instanceIdToIp endpoints layout = false ∨
      (∃ url ∈ urlsOf endpoints, controller.byHostname url = none) ∨
      Settles controller.byHostname endpoints layout s.instanceIdToIp := by
  simp only [silent_refreshInstanceMap_iff, and_self, controller.completes_refreshInstanceMap_iff]
  cases hstale : mapIsStale s.instanceIdToIp endpoints layout with
  | false =>
    simp only [Bool.false_eq_true, if_false, true_or, iff_true]
    rintro s' rfl
    exact hstale
  | true =>
    simp only [if_true, controller.gathers_ok_iff, Bool.true_eq_false, false_or]
    apply told_imp_iff
    intro htold
    rw [← fresh_assign_iff htold]
    constructor
    · intro h order horder
      exact h _ ⟨order, horder, rfl⟩
    · rintro h s' ⟨order, horder, rfl⟩
      exact h order horder

/-- A controller of two engines, each on a host of its own. -/
def twoHosts : Controller where
  hostname url := .ok (if url = "http://a:8000" then "a" else "b")
  queryInst ip := .ok (some (some ip))

theorem twoHosts_settled :
    ∀ s', twoHosts.Completes (LoadAwareRouter.refreshInstanceMap
        [endpointAt "http://a:8000", endpointAt "http://b:8000"] (layoutOf (some "a")))
        KvState.init s' →
      mapIsStale s'.instanceIdToIp [endpointAt "http://a:8000", endpointAt "http://b:8000"]
        (layoutOf (some "a")) = false ∧
      Silent (LoadAwareRouter.refreshInstanceMap
        [endpointAt "http://a:8000", endpointAt "http://b:8000"] (layoutOf (some "a"))) s' := by
  refine (refreshInstanceMap_effective_iff twoHosts _ _ _).mpr (Or.inr (Or.inr ⟨?_, by decide⟩))
  intro url hurl
  refine Or.inr ?_
  revert url
  decide

/-- A controller of two engines on one host. -/
def oneHost : Controller where
  hostname _ := .ok "engine"
  queryInst _ := .ok (some (some "a"))

/-- They are told the same instance, so the table has room for one of them, and is
stale as soon as it is refreshed. -/
theorem oneHost_stays_stale :
    ∃ s', oneHost.Completes (LoadAwareRouter.refreshInstanceMap
        [endpointAt "http://engine:8000", endpointAt "http://engine:8001"] (layoutOf (some "a")))
        KvState.init s' ∧
      mapIsStale s'.instanceIdToIp
        [endpointAt "http://engine:8000", endpointAt "http://engine:8001"]
        (layoutOf (some "a")) = true := by
  refine ⟨⟨∅, Dict.empty.set (some "a") "http://engine:8001"⟩,
    oneHost.completes_refreshInstanceMap_iff.mpr ?_, by decide⟩
  exact oneHost.gathers_ok_iff.mpr ⟨by decide, _, List.Perm.refl _, rfl⟩

/-! The KV-aware router asks for one instance after the other. -/

namespace Controller

variable (controller : Controller) {s s' : KvState}

theorem completes_queryInstances_cons_iff {endpoint : EndpointInfo} {rest : List EndpointInfo} :
    controller.Completes (KvawareRouter.queryInstances (endpoint :: rest)) s s' ↔
      controller.byQueryIp endpoint.url ≠ none ∧
        controller.Completes (KvawareRouter.queryInstances rest)
          (recorded controller.byQueryIp endpoint s) s' := by
  constructor
  · intro h
    unfold KvawareRouter.queryInstances at h
    cases hip : queryIp endpoint.url with
    | error e =>
      rw [hip] at h
      cases h
    | ok ip =>
      rw [hip] at h
      cases h with
      | step answer hanswer h =>
        obtain ⟨hanswer, rfl⟩ := hanswer
        cases answer with
        | error e => cases h
        | ok reply =>
          cases reply with
          | none => cases h
          | some id =>
            have hid : controller.byQueryIp endpoint.url = some id :=
              controller.instanceAt_eq_some_iff.mpr ⟨ip, by rw [hip]; rfl, hanswer.symm⟩
            cases h with
            | step state hstate h =>
              obtain ⟨rfl, rfl⟩ := hstate
              cases h with
              | step _ hput h =>
                obtain rfl := hput
                refine ⟨by simp [hid], ?_⟩
                unfold recorded
                rw [hid]
                exact h
  · rintro ⟨htold, h⟩
    obtain ⟨id, hid⟩ := Option.ne_none_iff_exists'.mp htold
    obtain ⟨ip, hip, hreply⟩ := controller.instanceAt_eq_some_iff.mp hid
    unfold recorded at h
    rw [hid] at h
    unfold KvawareRouter.queryInstances evaluate
    rw [hip]
    exact .step (.ok (some id)) ⟨hreply.symm, rfl⟩ (.step s ⟨rfl, rfl⟩ (.step () rfl h))

theorem completes_queryInstances_iff :
    controller.Completes (KvawareRouter.queryInstances endpoints) s s' ↔
      (∀ url ∈ urlsOf endpoints, controller.byQueryIp url ≠ none) ∧ s' = { s with
          instanceIdToIp := s.instanceIdToIp.assign (writesOf controller.byQueryIp endpoints) } := by
  rw [← inOrder_recorded]
  induction endpoints generalizing s with
  | nil =>
    constructor
    · intro h
      cases h
      exact ⟨nofun, rfl⟩
    · rintro ⟨-, rfl⟩
      exact .refl _ _
  | cons endpoint rest ih =>
    rw [controller.completes_queryInstances_cons_iff, ih]
    simp only [urlsOf, List.map_cons, List.forall_mem_cons, and_assoc]
    rfl

theorem completes_refresh_iff (hlayout : layout.size ≠ 0) :
    controller.Completes (KvawareRouter.refresh endpoints (some layout)) s s' ↔
      if mapIsStale s.instanceIdToIp endpoints layout then
        controller.Completes (KvawareRouter.queryInstances endpoints) s s'
      else s' = s := by
  unfold KvawareRouter.refresh
  dsimp only
  rw [if_neg hlayout, completes_get_iff]
  split
  · exact Iff.rfl
  · exact controller.completes_pure_iff

end Controller

/-- The same of the KV-aware router, where the endpoints are asked about in turn and
the last one that is told an instance has it. -/
theorem kvaware_refresh_effective_iff (controller : Controller) (endpoints : List EndpointInfo)
    (hlayout : layout.size ≠ 0) (s : KvState) :
    (∀ s', controller.Completes (KvawareRouter.refresh endpoints (some layout)) s s' →
      mapIsStale s'.instanceIdToIp endpoints layout = false) ↔
    mapIsStale s.instanceIdToIp endpoints layout = false ∨
      (∃ url ∈ urlsOf endpoints, controller.byQueryIp url = none) ∨ ((∀ url ∈ urlsOf endpoints,
        (∃ id, latest Prod.fst id (writesOf controller.byQueryIp endpoints) = some (id, url)) ∨
          ∃ id, (∀ other ∈ urlsOf endpoints, controller.byQueryIp other ≠ some id) ∧
            s.instanceIdToIp.get? id = some url) ∧
      ∀ holder ∈ layout.keys, (∃ url ∈ urlsOf endpoints, controller.byQueryIp url = some holder) ∨
        holder ∈ s.instanceIdToIp) := by
  simp only [controller.completes_refresh_iff hlayout]
  cases hstale : mapIsStale s.instanceIdToIp endpoints layout with
  | false =>
    simp only [Bool.false_eq_true, if_false, true_or, iff_true]
    rintro s' rfl
    exact hstale
  | true =>
    simp only [if_true, controller.completes_queryInstances_iff, Bool.true_eq_false, false_or]
    have hfresh : mapIsStale
        (s.instanceIdToIp.assign (writesOf controller.byQueryIp endpoints)) endpoints layout = false ↔ _ :=
      mapIsStale_eq_false
    simp only [Dict.mem_values_assign, Dict.mem_assign, mem_keys_writesOf, not_exists,
      not_and] at hfresh
    rw [← hfresh]
    apply told_imp_iff
    intro _
    exact ⟨fun h => h _ rfl, fun h s' hs' => hs' ▸ h⟩

theorem oneHost_kvaware_refreshed : ∃ s', oneHost.Completes (KvawareRouter.refresh
      [endpointAt "http://a:8000"] (some (layoutOf (some "a")))) KvState.init s' ∧
    mapIsStale s'.instanceIdToIp [endpointAt "http://a:8000"] (layoutOf (some "a")) = false := by
  rw [exists_congr fun s' => and_iff_left_of_imp <|
    (kvaware_refresh_effective_iff oneHost _ (by decide) _).mpr (.inr (.inr ⟨fun url hurl =>
      .inl ⟨some "a", by obtain rfl := List.mem_singleton.mp hurl; decide⟩, by decide⟩)) s']
  exact ⟨_, (oneHost.completes_refresh_iff (by decide)).mpr
    (oneHost.completes_queryInstances_iff.mpr ⟨by decide, rfl⟩)⟩

end ProductionStack.Routing

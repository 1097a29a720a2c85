import ProductionStack.Lib.Ring
import ProductionStack.Routing.Membership

/-!
Session affinity. Before a router asks its hash ring it brings the nodes of the
ring in line with the endpoints of the call, so where a session goes depends on
the session and the URLs alone, whatever was routed before. What becomes of a
session when URLs go or come is then a matter of consistent hashing.
-/

namespace ProductionStack.Routing

open Lib Python Stats Request Py

/-- The ring of `uhashring`: the points of a node depend on the node only. What a
key hashes to, or what hashing it raises, depends on the key only. -/
structure HashRing (π : Type) extends Ring String π where
  keyHash : Json → Except Raised π

variable {nodes : Finset String} {key : Json} {args : RouteArgs}
  {url : Except Raised (Option String)} {made : RouteArgs → Prop}

variable {nodes' : Finset String}

namespace HashRing

variable {π : Type} [LinearOrder π] (ring : HashRing π)

/-- `hash_ring.get_node(key)`. A key is not hashed for a ring without points. -/
def GetNode (nodes : Finset String) (key : Json) : Except Raised (Option String) → Prop
  | .ok (some node) => ∃ k, ring.keyHash key = .ok k ∧ ring.Owns nodes k node
  | .ok none => ∀ node ∈ nodes, ring.points node = ∅
  | .error e => (∃ node ∈ nodes, (ring.points node).Nonempty) ∧ ring.keyHash key = .error e

/-- What a router is answered: by the ring as it is, by others as before. -/
def allowed : (query : Query) → query.Answer → Prop
  | .getNode nodes key, answer => ring.GetNode nodes key answer
  | query, answer => query.allowed answer

variable {ring} {node : String}

theorem Owns.not_empty {k : π} (h : ring.Owns nodes k node) :
    ¬ ∀ node ∈ nodes, ring.points node = ∅ := by
  intro hempty
  obtain ⟨hnode, p, hp, -⟩ := h
  rw [hempty node hnode] at hp
  exact Finset.notMem_empty p hp

variable {answer : Except Raised (Option String)}

/-- If a key has an owner, the answer is an owner too. -/
theorem GetNode.of_owns {k : π} (hkey : ring.keyHash key = .ok k) (h : ring.Owns nodes k node)
    (hanswer : ring.GetNode nodes key answer) :
    ∃ other, answer = .ok (some other) ∧ ring.Owns nodes k other := by
  match answer, hanswer with
  | .ok (some other), ⟨k', hkey', howns⟩ =>
    rw [hkey] at hkey'
    obtain rfl := Except.ok.inj hkey'
    exact ⟨other, rfl, howns⟩
  | .ok none, hempty => exact absurd hempty (Owns.not_empty h)
  | .error e, ⟨_, hkey'⟩ =>
    rw [hkey] at hkey'
    cases hkey'

/-- The ring has an answer for every key. -/
theorem exists_getNode (ring : HashRing π) (nodes : Finset String) (key : Json) :
    ∃ answer, ring.GetNode nodes key answer := by
  by_cases hpoint : ∃ node ∈ nodes, (ring.points node).Nonempty
  · cases hkey : ring.keyHash key with
    | error e => exact ⟨.error e, hpoint, hkey⟩
    | ok k =>
      obtain ⟨node, howns⟩ := ring.exists_owns k hpoint
      exact ⟨.ok (some node), k, hkey, howns⟩
  · refine ⟨.ok none, ?_⟩
    intro node hnode
    by_contra hne
    exact hpoint ⟨node, hnode, Finset.nonempty_iff_ne_empty.mpr hne⟩

/-- The ring gives a key one answer. -/
theorem GetNode.unique {answer' : Except Raised (Option String)} (h : ring.GetNode nodes key answer)
    (h' : ring.GetNode nodes key answer') : answer = answer' := by
  match answer, h with
  | .ok (some node), ⟨k, hkey, howns⟩ =>
    obtain ⟨other, rfl, hother⟩ := GetNode.of_owns hkey howns h'
    rw [howns.unique hother]
  | .ok none, hempty =>
    match answer', h' with
    | .ok (some node), ⟨k, hkey, howns⟩ => exact absurd hempty (Owns.not_empty howns)
    | .ok none, _ => rfl
    | .error e, ⟨⟨node, hnode, hpoints⟩, _⟩ =>
      rw [hempty node hnode] at hpoints
      exact absurd hpoints Finset.not_nonempty_empty
  | .error e, ⟨⟨node, hnode, hpoints⟩, hkey⟩ =>
    match answer', h' with
    | .ok (some node), ⟨k, hkey', howns⟩ =>
      rw [hkey] at hkey'
      cases hkey'
    | .ok none, hempty =>
      rw [hempty node hnode] at hpoints
      exact absurd hpoints Finset.not_nonempty_empty
    | .error e', ⟨_, hkey'⟩ =>
      rw [hkey] at hkey'
      rw [Except.error.inj hkey']

/-- A session stays where it is when other URLs go. -/
theorem GetNode.of_subset (h : ring.GetNode nodes key (.ok (some node))) (hsubset : nodes' ⊆ nodes)
    (hnode : node ∈ nodes') (h' : ring.GetNode nodes' key answer) : answer = .ok (some node) := by
  obtain ⟨k, hkey, howns⟩ := h
  have hstay : ring.GetNode nodes' key (.ok (some node)) :=
    ⟨k, hkey, howns.of_subset hsubset hnode⟩
  exact h'.unique hstay

/-- When URLs come, a session stays where it is or goes to one of them. -/
theorem GetNode.of_superset (h : ring.GetNode nodes key (.ok (some node)))
    (hsubset : nodes ⊆ nodes') (h' : ring.GetNode nodes' key answer) :
    answer = .ok (some node) ∨ ∃ other ∈ nodes', other ∉ nodes ∧ answer = .ok (some other) := by
  obtain ⟨k, hkey, howns⟩ := h
  have hmore : ¬ ∀ node ∈ nodes', ring.points node = ∅ := by
    intro hempty
    exact Owns.not_empty howns fun m hm => hempty m (hsubset hm)
  match answer, h' with
  | .ok (some other), ⟨k', hkey', howns'⟩ =>
    rw [hkey] at hkey'
    obtain rfl := Except.ok.inj hkey'
    rcases howns.of_superset hsubset howns' with rfl | ⟨hother, hnew⟩
    · exact Or.inl rfl
    · exact Or.inr ⟨other, hother, hnew, rfl⟩
  | .ok none, hempty => exact absurd hempty hmore
  | .error e, ⟨_, hkey'⟩ =>
    rw [hkey] at hkey'
    cases hkey'

end HashRing

/-! One call. -/

section Call

variable {π : Type} [LinearOrder π] {ring : HashRing π} {σ α : Type}

/-- The route by session, with the ring's answer if there is a session id. -/
def RoutedBy (ring : HashRing π) (sessionKey : Option String) (args : RouteArgs)
    (url : Except Raised (Option String)) : Prop :=
  match extractSessionId sessionKey args with
  | none => url = .ok (qpsRouting args.endpoints args.requestStats)
  | some key => ring.GetNode (urlSet args) key url

variable {sessionKey : Option String}

/-- What follows `sessionRoute` is given the URLs of the call for nodes. -/
theorem sessionRoute_runsTo {f : Except Raised (Option String) × Finset String → Co σ α} {s s' : σ}
    {p : Prog (shared σ routing) (Except Raised α × Unit)}
    (h : RunsTo ring.allowed ((sessionRoute sessionKey nodes args >>= f) ()) s p s') :
    ∃ url, RoutedBy ring sessionKey args url ∧ RunsTo ring.allowed (f (url, urlSet args) ()) s p s' := by
  unfold RoutedBy
  cases h with
  | ask removed hremoved h =>
    cases h with
    | ask added hadded h =>
      rw [urlSet, ← nodes_updated hremoved hadded]
      cases hkey : extractSessionId sessionKey args with
      | none =>
        simp only [hkey] at h
        exact ⟨_, rfl, h⟩
      | some key =>
        simp only [hkey] at h
        cases h with
        | ask url hurl h => exact ⟨url, hurl, h⟩

/-- What a call returns, given where the ring or the rates send it. -/
def replyOf (args : RouteArgs) (url : Except Raised (Option String)) :
    Except Raised (Option String × JsonObject) × Unit :=
  (url.map fun url => (url, args.requestJson), ())

theorem ofExcept_runsTo {s s' : σ}
    {p : Prog (shared σ routing) (Except Raised (Option String × JsonObject) × Unit)}
    (h : RunsTo ring.allowed ((Py.ofExcept url >>= fun url => pure (url, args.requestJson) :
        Co σ (Option String × JsonObject)) ()) s p s') : s' = s ∧ p = .ret (replyOf args url) := by
  cases url with
  | ok url | error e =>
    cases h
    exact ⟨rfl, rfl⟩

/-- `SessionRouter.route_request` leaves the ring with the URLs of the call. -/
theorem sessionRouteRequest_runsTo {sessionKey : String}
    {p : Prog (shared (Finset String) routing) (Except Raised (Option String × JsonObject) × Unit)}
    (h : RunsTo ring.allowed (sessionRouteRequest sessionKey args ()) nodes p nodes') :
    nodes' = urlSet args ∧ ∃ url, RoutedBy ring (some sessionKey) args url ∧
      p = .ret (replyOf args url) := by
  cases h with
  | get h =>
    obtain ⟨url, hurl, h⟩ := sessionRoute_runsTo h
    cases h with
    | put h =>
      obtain ⟨rfl, rfl⟩ := ofExcept_runsTo h
      exact ⟨rfl, url, hurl, rfl⟩

/-- So does the session fallback of the KV-aware routers, and leaves the rest of
the router as it is. -/
theorem fallbackUrl_runsTo {state state' : KvState}
    {p : Prog (shared KvState routing) (Except Raised (Option String × JsonObject) × Unit)}
    (h : RunsTo ring.allowed (fallbackUrl sessionKey args ()) state p state') :
    state' = { state with ring := urlSet args } ∧ ∃ url, RoutedBy ring sessionKey args url ∧
      p = .ret (replyOf args url) := by
  cases h with
  | get h =>
    obtain ⟨url, hurl, h⟩ := sessionRoute_runsTo h
    cases h with
    | put h =>
      obtain ⟨rfl, rfl⟩ := ofExcept_runsTo h
      exact ⟨rfl, url, hurl, rfl⟩

end Call

/-! Any history of calls. -/

section History

variable {π : Type} [LinearOrder π] {ring : HashRing π}

abbrev SessionPool := Pool (Finset String) RouteArgs
  (Except Raised (Option String × JsonObject) × Unit) routing

/-- The calls of one `SessionRouter`. -/
def SessionPool.Reachable (ring : HashRing π) (sessionKey : String) (pool : SessionPool) : Prop :=
  Pool.Reachable (fun args => sessionRouteRequest sessionKey args ()) ring.allowed ∅ pool

/-- The ring has the URLs of the last call, and every call was routed by its own. -/
theorem session_history {sessionKey : String} {pool : SessionPool}
    (hpool : pool.Reachable ring sessionKey) :
    (∀ args, pool.inputs.getLast? = some args → pool.state = urlSet args) ∧
    ∀ call ∈ pool.calls, ∃ url, RoutedBy ring (some sessionKey) call.1 url ∧
      call.2 = .ret (replyOf call.1 url) := by
  induction hpool with
  | refl =>
    refine ⟨?_, ?_⟩
    · intro args hlast
      cases hlast
    · intro call member
      cases member
  | tail _ hstep ih =>
    obtain ⟨-, hcalls⟩ := ih
    cases hstep with
    | start args hrun =>
      obtain ⟨rfl, url, hurl, rfl⟩ := sessionRouteRequest_runsTo hrun
      refine ⟨?_, ?_⟩
      · intro args' hlast
        have hlast : some args = some args' := by simpa [Pool.inputs] using hlast
        rw [Option.some.inj hlast]
      · intro call member
        rw [List.mem_append, List.mem_singleton] at member
        rcases member with member | rfl
        · exact hcalls call member
        · exact ⟨url, hurl, rfl⟩
    | resume answer hanswer hrun =>
      -- no call of this router ever awaits
      obtain ⟨url, -, hret⟩ := hcalls _ (List.mem_append_right _ List.mem_cons_self)
      cases hret

/-! The KV-aware routers. -/

/-- Nothing but the fallback of one of the calls that were made changes the ring. -/
def RingKept (made : RouteArgs → Prop) (state state' : KvState) : Prop :=
  state'.ring = state.ring ∨ ∃ args, made args ∧ state'.ring = urlSet args

theorem RingKept.refl (made : RouteArgs → Prop) (state : KvState) : RingKept made state state :=
  Or.inl rfl

theorem RingKept.trans (a b c : KvState) (hab : RingKept made a b)
    (hbc : RingKept made b c) : RingKept made a c := by
  rcases hbc with hbc | hbc
  · unfold RingKept
    rw [hbc]
    exact hab
  · exact Or.inr hbc

/-- A part of `route_request` that does not change the ring in any other way. -/
def KeepsRing {α : Type} (ring : HashRing π) (made : RouteArgs → Prop) (p : Co KvState α) : Prop :=
  ∀ state, Ensures (relyingOn (RingKept made) ring.allowed) (changing (RingKept made)) p () state
    fun _ _ _ => True

section Parts

variable {α β : Type}

theorem keepsRing_ofExcept (r : Except Raised α) : KeepsRing ring made (Py.ofExcept r) :=
  fun _ => trivial

variable {p : Co KvState α} (query : Query) (endpoints : List EndpointInfo)

theorem KeepsRing.bind {f : α → Co KvState β} (hp : KeepsRing ring made p)
    (hf : ∀ a, KeepsRing ring made (f a)) : KeepsRing ring made (p >>= f) :=
  fun state => ensures_seq (hp state) (fun a _ state _ => hf a state) fun _ _ _ _ => trivial

theorem keepsRing_ask : KeepsRing ring made (ask query : Co KvState _) :=
  fun _ => ⟨trivial, fun _ _ _ => trivial⟩

theorem keepsRing_await : KeepsRing ring made (await query : Co KvState _) :=
  fun _ => ⟨trivial, fun _ _ _ => trivial⟩

theorem keepsRing_get : KeepsRing ring made (get : Co KvState _) :=
  fun _ => ⟨trivial, fun _ _ _ => trivial⟩

theorem KeepsRing.tryExcept {handler : Raised → Co KvState α} (hp : KeepsRing ring made p)
    (hhandler : ∀ e, KeepsRing ring made (handler e)) :
    KeepsRing ring made (Py.tryExcept p handler) := by
  intro state
  apply Py.ensures_tryExcept.mpr
  refine Ensures.imp (hp state) ?_
  intro r _ state' _
  cases r with
  | ok a => exact trivial
  | error e => exact hhandler e state'

theorem keepsRing_pure (a : α) : KeepsRing ring made (pure a : Co KvState α) := fun _ => trivial

theorem keepsRing_raise (e : Raised) : KeepsRing ring made (Py.raise e : Co KvState α) :=
  fun _ => trivial

theorem firstModel_keepsRing : KeepsRing ring made (firstModel endpoints) := by
  cases endpoints with
  | nil => exact keepsRing_raise _
  | cons endpoint rest =>
    apply (keepsRing_pure endpoint).bind
    intro endpoint
    cases endpoint.modelNames with
    | nil => exact keepsRing_raise _
    | cons model rest => exact keepsRing_pure model

theorem tokenizePrompt_keepsRing {post : String → String → Json → Co KvState (Except Raised Json)}
    (hpost : ∀ url model prompt, KeepsRing ring made (post url model prompt)) (args : RouteArgs) :
    KeepsRing ring made (tokenizePrompt post args) := by
  apply KeepsRing.tryExcept
  · apply (firstModel_keepsRing args.endpoints).bind
    intro model
    apply (keepsRing_ask _).bind
    intro tokens
    exact keepsRing_ofExcept tokens
  · intro e
    cases e with
    | interrupt i => exact keepsRing_raise _
    | error e =>
      have hfirst : KeepsRing ring made (firstEndpoint args.endpoints) := by
        cases args.endpoints with
        | nil => exact keepsRing_raise _
        | cons endpoint rest => exact keepsRing_pure endpoint
      apply hfirst.bind
      intro endpoint
      apply (firstModel_keepsRing args.endpoints).bind
      intro model
      apply (hpost _ _ _).bind
      intro answer
      apply (keepsRing_ofExcept answer).bind
      intro body
      exact keepsRing_ofExcept _

/-- The table changes, the ring does not. -/
theorem recordInstance_keepsRing (url : String) (reply : Option InstanceId) :
    KeepsRing ring made (recordInstance url reply) := by
  intro state
  cases reply with
  | none => exact trivial
  | some id =>
    apply evolving_get
    exact ⟨Or.inl rfl, fun _ _ _ => trivial⟩

theorem fallbackUrl_keepsRing (sessionKey : Option String) (hmade : made args) :
    KeepsRing ring made (fallbackUrl sessionKey args) := by
  intro state
  apply evolving_get
  have hroute : Ensures (relyingOn (RingKept made) ring.allowed) (changing (RingKept made))
      (sessionRoute sessionKey state.ring args) () state fun r _ state' =>
        state' = state ∧ ∃ url, r = .ok (url, urlSet args) := by
    apply evolving_ask
    intro removed hremoved
    apply evolving_ask
    intro added hadded
    rw [urlSet, ← nodes_updated hremoved hadded]
    cases hkey : extractSessionId sessionKey args with
    | none => exact ⟨rfl, _, rfl⟩
    | some key =>
      apply evolving_ask
      intro url _
      exact ⟨rfl, url, rfl⟩
  apply ensures_seq hroute
  · rintro _ _ state ⟨rfl, url, ⟨⟩⟩
    have hkept : RingKept made state { state with ring := urlSet args } :=
      Or.inr ⟨args, hmade, rfl⟩
    apply evolving_put hkept
    exact (keepsRing_ofExcept url).bind (fun url => keepsRing_pure _) _
  · intro e _ state' _
    exact trivial

theorem queryInstances_keepsRing :
    KeepsRing ring made (KvawareRouter.queryInstances endpoints) := by
  induction endpoints with
  | nil => exact keepsRing_pure ()
  | cons endpoint rest ih =>
    apply (keepsRing_ofExcept _).bind
    intro ip
    apply (keepsRing_await _).bind
    intro answer
    apply (keepsRing_ofExcept answer).bind
    intro reply
    apply (recordInstance_keepsRing _ _).bind
    intro _
    exact ih

theorem kvaware_keepsRing (router : KvawareRouter) (hmade : made args) :
    KeepsRing ring made (router.routeRequest args) := by
  apply (tokenizePrompt_keepsRing (fun _ _ _ => keepsRing_ask _) args).bind
  intro tokenIds
  apply (keepsRing_await _).bind
  intro answer
  apply (keepsRing_ofExcept answer).bind
  intro reply
  cases reply with
  | none => exact keepsRing_raise _
  | some layoutInfo =>
    have hrefresh : KeepsRing ring made (KvawareRouter.refresh args.endpoints layoutInfo) := by
      cases layoutInfo with
      | none => exact keepsRing_pure ()
      | some layout =>
        dsimp only [KvawareRouter.refresh]
        split
        · exact keepsRing_pure ()
        · apply keepsRing_get.bind
          intro state
          split
          · exact queryInstances_keepsRing _
          · exact keepsRing_pure ()
    apply hrefresh.bind
    intro _
    cases layoutInfo with
    | none => exact keepsRing_raise _
    | some layout =>
      apply keepsRing_get.bind
      intro state
      split
      · exact fallbackUrl_keepsRing _ hmade
      · apply (keepsRing_ofExcept _).bind
        intro length
        split
        · exact fallbackUrl_keepsRing _ hmade
        · split
          · exact keepsRing_pure _
          · exact keepsRing_raise _

theorem loadaware_keepsRing (router : LoadAwareRouter) (hmade : made args) :
    KeepsRing ring made (router.routeRequest args) := by
  unfold LoadAwareRouter.routeRequest
  split
  · exact keepsRing_raise _
  · apply (tokenizePrompt_keepsRing (fun _ _ _ => keepsRing_await _) args).bind
    intro tokenIds
    apply (keepsRing_await _).bind
    intro answer
    apply (keepsRing_ofExcept answer).bind
    intro reply
    dsimp only
    split
    · exact fallbackUrl_keepsRing _ hmade
    · have hrefresh (layout : Layout) :
          KeepsRing ring made (LoadAwareRouter.refreshInstanceMap args.endpoints layout) := by
        apply keepsRing_get.bind
        intro state
        split
        · apply (keepsRing_await _).bind
          intro gathered
          exact keepsRing_ofExcept gathered
        · exact keepsRing_pure ()
      apply (hrefresh _).bind
      intro _
      apply keepsRing_get.bind
      intro state
      apply (keepsRing_ofExcept _).bind
      intro length
      apply (keepsRing_ofExcept _).bind
      intro url
      cases url with
      | none => exact fallbackUrl_keepsRing _ hmade
      | some url => exact keepsRing_pure _

theorem queryEndpoint_keepsRing (endpoint : EndpointInfo) :
    KeepsRing ring made (LoadAwareRouter.queryEndpoint endpoint) := by
  apply (keepsRing_ask _).bind
  intro host
  apply (keepsRing_ofExcept host).bind
  intro ip
  apply (keepsRing_await _).bind
  intro answer
  apply (keepsRing_ofExcept answer).bind
  intro reply
  exact recordInstance_keepsRing _ _

end Parts

/-- The coroutines of a KV-aware router: its calls, and the tasks that the
load-aware one gathers. -/
inductive KvRouter where
  | kvaware (router : KvawareRouter)
  | loadaware (router : LoadAwareRouter)

abbrev KvPool := Pool KvState Task (Except Raised (Option String × JsonObject) × Unit) routing

def KvRouter.program (router : KvRouter) :
    Task → Prog (shared KvState routing) (Except Raised (Option String × JsonObject) × Unit)
  | .route args =>
    match router with
    | .kvaware router => router.routeRequest args ()
    | .loadaware router => router.routeRequest args ()
  | .queryEndpoint endpoint => (do
      LoadAwareRouter.queryEndpoint endpoint
      pure (none, []) : Co KvState (Option String × JsonObject)) ()

/-- In every interleaving the ring is empty still, or has the URLs of a call. -/
theorem kv_ring {router : KvRouter} {pool : KvPool}
    (hpool : Pool.Reachable router.program ring.allowed .init pool) :
    pool.state.ring = ∅ ∨ ∃ args, .route args ∈ pool.inputs ∧ pool.state.ring = urlSet args := by
  have hprogram (task : Task) (htask : task ∈ pool.inputs) (state : KvState) :
      Evolves (RingKept fun args => .route args ∈ pool.inputs) ring.allowed (fun _ _ => True)
        (router.program task) state := by
    have hkeeps : ∃ p : Co KvState (Option String × JsonObject), router.program task = p () ∧
        KeepsRing ring (fun args => .route args ∈ pool.inputs) p := by
      cases task with
      | route args =>
        cases router with
        | kvaware router => exact ⟨_, rfl, kvaware_keepsRing router htask⟩
        | loadaware router => exact ⟨_, rfl, loadaware_keepsRing router htask⟩
      | queryEndpoint endpoint =>
        exact ⟨_, rfl, (queryEndpoint_keepsRing endpoint).bind fun _ => keepsRing_pure _⟩
    obtain ⟨p, hp, hkeeps⟩ := hkeeps
    rw [hp]
    exact Prog.Always.imp (hkeeps state) fun _ _ _ _ _ => trivial
  have hinv : ∀ state : KvState, (fun _ => True) state := fun _ => trivial
  have hnone : (⟨.init, []⟩ : KvPool).Awaits (RingKept fun args => .route args ∈ pool.inputs)
      ring.allowed [] := List.Forall₂.nil
  obtain ⟨-, -, hkept, -⟩ := pool_evolves (RingKept.refl _) RingKept.trans
    (fun _ state _ _ => hinv state) (fun task htask state _ => hprogram task htask state)
    (hinv .init) hnone hpool (fun _ h => h)
  exact hkept

/-- A router that was given these URLs sent a call of the session `key` to `url`, or
raised: a `SessionRouter` after any history, or a fallback from any state of a
KV-aware router. -/
inductive Sent (ring : HashRing π) (key : Json) : Finset String → Except Raised (Option String) → Prop
  | session {sessionKey : String} {pool : SessionPool} {args : RouteArgs}
      {reply : Except Raised (Option String × JsonObject)}
      (hpool : pool.Reachable ring sessionKey) (hcall : (args, .ret (reply, ())) ∈ pool.calls)
      (hkey : extractSessionId (some sessionKey) args = some key) :
      Sent ring key (urlSet args) (reply.map Prod.fst)
  | fallback {sessionKey : Option String} {args : RouteArgs} {state state' : KvState}
      {reply : Except Raised (Option String × JsonObject)}
      (hrun : RunsTo ring.allowed (fallbackUrl sessionKey args ()) state (.ret (reply, ())) state')
      (hkey : extractSessionId sessionKey args = some key) :
      Sent ring key (urlSet args) (reply.map Prod.fst)

theorem RoutedBy.getNode {sessionKey : Option String}
    {reply : Except Raised (Option String × JsonObject)} (h : RoutedBy ring sessionKey args url)
    (hkey : extractSessionId sessionKey args = some key) (hreply : (reply, ()) = replyOf args url) :
    ring.GetNode (urlSet args) key (reply.map Prod.fst) := by
  have hurl : reply.map Prod.fst = url := by
    rw [(Prod.mk.inj hreply).1]
    cases url with
    | ok url => rfl
    | error e => rfl
  rw [hurl]
  simpa only [RoutedBy, hkey] using h

/-- What happened before plays no part. -/
theorem Sent.getNode (h : Sent ring key nodes url) : ring.GetNode nodes key url := by
  cases h with
  | session hpool hcall hkey =>
    obtain ⟨url, hurl, hret⟩ := (session_history hpool).2 _ hcall
    exact hurl.getNode hkey (Prog.ret.inj hret)
  | fallback hrun hkey =>
    obtain ⟨-, url, hurl, hret⟩ := fallbackUrl_runsTo hrun
    exact hurl.getNode hkey (Prog.ret.inj hret)

/-- Session affinity of the session router and of the session fallback. -/
theorem session_affinity (ring : HashRing π) :
    (∀ sessionKey (pool : SessionPool), pool.Reachable ring sessionKey →
      ∀ args, pool.inputs.getLast? = some args → pool.state = urlSet args) ∧
    (∀ sessionKey args state state' p,
      RunsTo ring.allowed (fallbackUrl sessionKey args ()) state p state' →
        state'.ring = urlSet args) ∧
    (∀ (router : KvRouter) (pool : KvPool),
      Pool.Reachable router.program ring.allowed .init pool → pool.state.ring = ∅ ∨
        ∃ args, .route args ∈ pool.inputs ∧ pool.state.ring = urlSet args) ∧
    (∀ key nodes url url', Sent ring key nodes url → Sent ring key nodes url' → url = url') ∧
    (∀ key nodes nodes' node url, nodes' ⊆ nodes → node ∈ nodes' →
      Sent ring key nodes (.ok (some node)) → Sent ring key nodes' url →
        url = .ok (some node)) ∧
    (∀ key nodes nodes' node url, nodes ⊆ nodes' →
      Sent ring key nodes (.ok (some node)) → Sent ring key nodes' url →
        url = .ok (some node) ∨ ∃ other ∈ nodes', other ∉ nodes ∧ url = .ok (some other)) := by
  refine ⟨?_, ?_, ?_, ?_, ?_, ?_⟩
  · intro sessionKey pool hpool
    exact (session_history hpool).1
  · intro sessionKey args state state' p hrun
    rw [(fallbackUrl_runsTo hrun).1]
  · intro router pool hpool
    exact kv_ring hpool
  · intro key nodes url url' hsent hsent'
    exact hsent.getNode.unique hsent'.getNode
  · intro key nodes nodes' node url hsubset hnode hsent hsent'
    exact hsent.getNode.of_subset hsubset hnode hsent'.getNode
  · intro key nodes nodes' node url hsubset hsent hsent'
    exact hsent.getNode.of_superset hsubset hsent'.getNode

end History

/-- A ring with one point a node, at its own name. -/
def namedRing : HashRing String where
  points node := {node}
  disjoint := by
    intro m n p hm hn
    rw [Finset.mem_singleton] at hm hn
    rw [← hm, ← hn]
  keyHash
    | .str key => .ok key
    | _ => .error (.error (.new .attributeError "encode"))

def sessionCall : RouteArgs where
  endpoints := [⟨"http://a", ["m"], "1", none, false⟩, ⟨"http://b", ["m"], "2", none, false⟩]
  requestStats := .empty
  headers := [("X-User", "alice")]
  requestJson := []

/-- One call of one router. -/
theorem session_affinity_one_call : ∃ pool : SessionPool, ∃ url,
    pool.Reachable namedRing "x-user" ∧ pool.state = {"http://a", "http://b"} ∧
    Sent namedRing (.str "alice") {"http://a", "http://b"} url ∧
    ∀ url', Sent namedRing (.str "alice") {"http://a", "http://b"} url' → url = url' := by
  have hurls : urlSet sessionCall = {"http://a", "http://b"} := by decide
  have hkey : extractSessionId (some "x-user") sessionCall = some (.str "alice") := rfl
  have hremoved : ∀ node, node ∈ [] ↔ node ∈ ∅ \ urlSet sessionCall := by simp
  have hadded : ∀ node, node ∈ ["http://a", "http://b"] ↔ node ∈ urlSet sessionCall \ ∅ := by
    simp [hurls]
  obtain ⟨url, hurl⟩ := namedRing.exists_getNode (urlSet sessionCall) (.str "alice")
  have hrun : RunsTo namedRing.allowed (sessionRouteRequest "x-user" sessionCall ()) ∅
      (.ret (replyOf sessionCall url)) (urlSet sessionCall) := by
    rw [← nodes_updated hremoved hadded] at hurl ⊢
    apply RunsTo.get
    apply RunsTo.ask ([] : List String) hremoved
    apply RunsTo.ask ["http://a", "http://b"] hadded
    apply RunsTo.ask url hurl
    apply RunsTo.put
    cases url with
    | ok url => exact .ret _ _
    | error e => exact .ret _ _
  have hpool : SessionPool.Reachable namedRing "x-user"
      ⟨urlSet sessionCall, [(sessionCall, .ret (replyOf sessionCall url))]⟩ :=
    .single (.start sessionCall hrun)
  obtain ⟨hstate, -, -, hunique, -, -⟩ := session_affinity namedRing
  have hsent := Sent.session hpool List.mem_cons_self hkey
  exact ⟨_, _, hpool, (hstate _ _ hpool sessionCall rfl).trans hurls, hsent,
    fun url' => hunique _ _ _ url' hsent⟩

end ProductionStack.Routing

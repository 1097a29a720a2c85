import ProductionStack.Request.World
import ProductionStack.Routing.Immediate
import ProductionStack.Routing.PrefixAware

/-!
Six routers, one property: in every interleaving of `route_request` calls, a call
returns the URL of an endpoint it was given itself. What the request service
takes for granted of its router follows.
-/

namespace ProductionStack.Routing

open Lib Python Stats Request Py

inductive Router where
  | roundRobin
  | session (sessionKey : String)
  | kvaware (router : KvawareRouter)
  | loadaware (router : LoadAwareRouter)
  | prefixaware (router : PrefixAwareRouter)
  | priority (router : PriorityRouter)

namespace Router

def kind : Router → RouterKind
  | .roundRobin => .roundRobin
  | .session _ => .session
  | .kvaware _ => .kvaware
  | .loadaware _ => .loadaware
  | .prefixaware _ => .prefixaware
  | .priority router => .priority router.priorityField

/-- What the router object keeps from one call to the next. -/
def State : Router → Type
  | .roundRobin => RoundRobinRouter
  | .session _ => Finset String
  | .kvaware _ => KvState
  | .loadaware _ => KvState
  | .prefixaware _ => HashTrie
  | .priority _ => Dict (List String) Nat

def initial : (router : Router) → router.State
  | .roundRobin => RoundRobinRouter.init
  | .session _ => (∅ : Finset String)
  | .kvaware _ => KvState.init
  | .loadaware _ => KvState.init
  | .prefixaware _ => HashTrie.init
  | .priority _ => (Dict.empty : Dict (List String) Nat)

def routeRequest : (router : Router) → RouteArgs → Co router.State (Option String × JsonObject)
  | .roundRobin => RoundRobinRouter.routeRequest
  | .session sessionKey => sessionRouteRequest sessionKey
  | .kvaware router => router.routeRequest
  | .loadaware router => router.routeRequest
  | .prefixaware router => router.routeRequest
  | .priority router => router.routeRequest

end Router

/-- The coroutines of a router: its calls, and the tasks that the load-aware
router gathers. -/
inductive Task where
  | route (args : RouteArgs)
  | queryEndpoint (endpoint : EndpointInfo)

/-- A coroutine as the event loop sees it. -/
def run {σ α : Type} (p : Co σ α) : Prog (shared σ routing) (Except Raised α) :=
  (p ()).bind fun (r, _) => .ret r

def gathered : (router : Router) → EndpointInfo → Co router.State (Option String × JsonObject)
  | .loadaware _, endpoint => do
      LoadAwareRouter.queryEndpoint endpoint
      pure (none, [])
  | _, _ => pure (none, [])

def Router.program (router : Router) :
    Task → Prog (shared router.State routing) (Except Raised (Option String × JsonObject))
  | .route args => run (router.routeRequest args)
  | .queryEndpoint endpoint => run (gathered router endpoint)

/-- Only the round-robin router relies on what it has kept. -/
def Router.Inv : (router : Router) → router.State → Prop
  | .roundRobin => RoundRobinRouter.Sorted
  | _ => fun _ => True

theorem Router.inv_initial (router : Router) : router.Inv router.initial := by
  cases router with
  | roundRobin => exact RoundRobinRouter.sorted_init
  | _ => exact trivial

/-- What is asked of a finished coroutine. -/
def Answers (kind : RouterKind) : Task → Except Raised (Option String × JsonObject) → Prop
  | .route args, result => args.endpoints ≠ [] → Routed kind args result
  | .queryEndpoint _, _ => True

theorem Yields.cooperates {σ α : Type} {inv : σ → Prop} {p : Co σ α} {s : σ}
    {post : Except Raised α → Prop} (h : Yields inv p s fun r s' => inv s' ∧ post r) :
    Cooperates inv Query.allowed post (run p) s := by
  unfold Cooperates run
  rw [Prog.always_bind]
  exact h

variable {args : RouteArgs} {router : Router} {pool : Pool router.State Task (Except Raised
  (Option String × JsonObject)) routing} {url : Option String} {json : JsonObject}

/-- A call of a router that has no invariant. -/
theorem route_cooperates {σ : Type} {kind : RouterKind} {p : Co σ (Option String × JsonObject)}
    {s : σ}
    (h : args.endpoints ≠ [] → Yields (fun _ => True) p s fun r _ => True ∧ Routed kind args r) :
    Cooperates (fun _ => True) Query.allowed (Answers kind (.route args)) (run p) s := by
  apply Yields.cooperates
  cases hendpoints : args.endpoints with
  | nil =>
    refine (yields_any p s).mono ?_
    intro r _ _
    exact ⟨trivial, fun hne => absurd hendpoints hne⟩
  | cons first rest =>
    have hne : args.endpoints ≠ [] := by
      rw [hendpoints]
      exact List.cons_ne_nil _ _
    refine (h hne).mono ?_
    intro r _ hr
    exact ⟨trivial, fun _ => hr.2⟩

theorem Router.program_cooperates (router : Router) (task : Task) (s : router.State)
    (hs : router.Inv s) :
    Cooperates router.Inv Query.allowed (Answers router.kind task) (router.program task) s := by
  cases task with
  | route args =>
    cases router with
    | roundRobin =>
      apply Yields.cooperates
      refine (RoundRobinRouter.routeRequest_spec hs).mono ?_
      intro r _ hr
      exact ⟨hr.1, fun _ => hr.2⟩
    | session sessionKey => exact route_cooperates (sessionRouteRequest_spec sessionKey s)
    | kvaware router | loadaware router =>
      exact route_cooperates fun hne => router.routeRequest_spec hne s
    | prefixaware router => exact route_cooperates fun hne => router.routeRequest_spec hne s
    | priority router => exact route_cooperates (router.routeRequest_spec s)
  | queryEndpoint endpoint =>
    apply Yields.cooperates
    cases router with
    | loadaware router =>
      refine (yields_any _ s).mono ?_
      intro r _ _
      exact ⟨trivial, trivial⟩
    | _ => exact ⟨hs, trivial⟩

/-- A call that has returned in some run. -/
theorem routed_of_reachable
    (hpool : Pool.Reachable router.program Query.allowed router.initial pool)
    (hne : args.endpoints ≠ []) (hcall : (.route args, .ret (.ok (url, json))) ∈ pool.calls) :
    ∃ u ∈ urlsOf args.endpoints, url = some u ∧ router.kind.Updates args.requestJson json := by
  have hrouted : Routed router.kind args (.ok (url, json)) :=
    pool_returned router.inv_initial router.program_cooperates hpool hcall hne
  obtain ⟨⟨u, hu, rfl⟩, hupdates⟩ := hrouted
  exact ⟨u, hu, rfl, hupdates⟩

/-- So a router answers the request service as it expects. -/
theorem route_request_answerable
    (hpool : Pool.Reachable router.program Query.allowed router.initial pool)
    (hne : args.endpoints ≠ []) (hcall : (.route args, .ret (.ok (url, json))) ∈ pool.calls) :
    ∃ u, url = some u ∧
      answerable (.routeRequest router.kind args.endpoints args.requestJson) (.ok (u, json)) := by
  obtain ⟨u, hu, rfl, hupdates⟩ := routed_of_reachable hpool hne hcall
  exact ⟨u, rfl, hu, hupdates⟩

/-- In every run of a router, with calls that start and go on in any order, any
endpoint lists, any finite stats and any answers of the cache controller, a call
that returns has returned the URL of an endpoint of its own list. -/
theorem route_request_within (router : Router)
    (pool : Pool router.State Task (Except Raised (Option String × JsonObject)) routing)
    (hpool : Pool.Reachable router.program Query.allowed router.initial pool)
    (args : RouteArgs) (hne : args.endpoints ≠ []) (url : Option String) (json : JsonObject)
    (hcall : (.route args, .ret (.ok (url, json))) ∈ pool.calls) :
    ∃ endpoint ∈ args.endpoints, url = some endpoint.url := by
  obtain ⟨u, hu, rfl, -⟩ := routed_of_reachable hpool hne hcall
  obtain ⟨endpoint, hendpoint, rfl⟩ := List.mem_map.mp hu
  exact ⟨endpoint, hendpoint, rfl⟩

/-- A request of one session, with one replica to choose from. -/
def sessionArgs (url : String) : RouteArgs where
  endpoints := [⟨url, ["m"], url, none, false⟩]
  requestStats := .empty
  headers := []
  requestJson := [("session", .str "s")]

/-- Whatever is on the ring, such a request is routed to that replica. -/
theorem session_runsTo (nodes : Finset String) (url : String) : ∃ nodes' : Finset String,
    RunsTo Query.allowed ((Router.session "session").program (.route (sessionArgs url))) nodes
      (.ret (.ok (some url, (sessionArgs url).requestJson))) nodes' := by
  let newNodes := (urlsOf (sessionArgs url).endpoints).toFinset
  refine ⟨_, .get (.ask (nodes \ newNodes).toList ?_ (.ask (newNodes \ nodes).toList ?_
    (.ask (Except.ok (some url)) ?_ (.put (.ret _ _)))))⟩
  · exact fun node => Finset.mem_toList
  · exact fun node => Finset.mem_toList
  · intro _
    refine ⟨url, ?_, rfl⟩
    rw [mem_foldl_insert, mem_foldl_erase, Finset.mem_toList, Finset.mem_toList,
      Finset.mem_sdiff, Finset.mem_sdiff]
    tauto

/-- The first replica is replaced between two requests of a session. -/
theorem route_request_within_replaced : ∃ pool,
    Pool.Reachable (Router.session "session").program Query.allowed
      (Router.session "session").initial pool ∧
    pool.calls.map Prod.fst = [.route (sessionArgs "http://a"), .route (sessionArgs "http://b")] ∧
    ∃ endpoint ∈ (sessionArgs "http://b").endpoints, some "http://b" = some endpoint.url := by
  obtain ⟨nodes, hfirst⟩ := session_runsTo ∅ "http://a"
  obtain ⟨nodes', hsecond⟩ := session_runsTo nodes "http://b"
  have hreachable : Pool.Reachable (Router.session "session").program Query.allowed
      (Router.session "session").initial ⟨nodes', [_, _]⟩ :=
    (Relation.ReflTransGen.single (Pool.Step.start _ hfirst)).tail (Pool.Step.start _ hsecond)
  refine ⟨_, hreachable, rfl, ?_⟩
  exact route_request_within (.session "session") _ hreachable (sessionArgs "http://b")
    (List.cons_ne_nil _ _) _ _ (List.mem_cons_of_mem _ List.mem_cons_self)

theorem route_request_answerable_alone :
    let args := sessionArgs "http://a"
    ∃ u, some "http://a" = some u ∧ answerable (.routeRequest (Router.session "session").kind
      args.endpoints args.requestJson) (.ok (u, args.requestJson)) := by
  obtain ⟨nodes, hruns⟩ := session_runsTo ∅ "http://a"
  exact route_request_answerable (.single (Pool.Step.start _ hruns)) (List.cons_ne_nil _ _)
    List.mem_cons_self

end ProductionStack.Routing

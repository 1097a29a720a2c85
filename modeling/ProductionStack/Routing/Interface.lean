import Mathlib.Data.Finset.Dedup
import Mathlib.Data.Finset.Erase
import Mathlib.Data.Finset.SDiff
import ProductionStack.Lib.Pool
import ProductionStack.Request.Events

/-!
What the routers share. A router is one object, and its `route_request` calls
are coroutines on the state of that object. The hash ring of `uhashring` is the
set of its nodes; which node it picks for a key is left to the library.
-/

namespace ProductionStack.Routing

open Lib Python Stats Request Py

/-- Instance ids of the cache controller. An id may be missing. -/
abbrev InstanceId := Option String

/-- What the controller reports: the tokens matched by each holder. -/
abbrev Layout := Dict InstanceId Int

/-- What a router asks of others. -/
inductive Query where
  | iterate (nodes : Finset String)
  | getNode (nodes : Finset String) (key : Json)
  | localTokens (model : String) (prompt : Json)
  | remoteTokens (url model : String) (prompt : Json)
  | hostname (url : String)
  | lookup (tokens : Json)
  | queryInst (ip : String)
  | gather (endpoints : List EndpointInfo)
  | lock (node : Nat)
  | choice (options : Finset String)

abbrev Query.Answer : Query → Type
  | .iterate _ => List String
  | .getNode _ _ => Except Raised (Option String)
  | .localTokens _ _ => Except Raised Json
  | .remoteTokens _ _ _ => Except Raised Json
  | .hostname _ => Except Raised String
  | .lookup _ => Except Raised (Option (Option Layout))
  | .queryInst _ => Except Raised (Option InstanceId)
  | .gather _ => Except Raised Unit
  | .lock _ => Except Raised Unit
  | .choice _ => String

abbrev routing : Signature := ⟨Query, Query.Answer⟩

/-- A set is iterated in some order, `get_node` returns a node of the ring, and
`random.choice` one of its options. Everything else may be answered in any way. -/
def Query.allowed : (query : Query) → query.Answer → Prop
  | .iterate nodes, order => ∀ node, node ∈ order ↔ node ∈ nodes
  | .getNode nodes _, .ok node => nodes.Nonempty → ∃ n ∈ nodes, node = some n
  | .choice options, option => options.Nonempty → option ∈ options
  | _, _ => True

structure RouteArgs where
  endpoints : List EndpointInfo
  requestStats : Dict String RequestStats
  headers : Headers
  requestJson : JsonObject

def urlsOf (endpoints : List EndpointInfo) : List String := endpoints.map (·.url)

def urlSet (args : RouteArgs) : Finset String := (urlsOf args.endpoints).toFinset

variable {σ α : Type} {query : Query} (better : α → α → Bool) {l : List α}

section Coroutines

abbrev Co (σ α : Type) := Py (shared σ routing) Unit α

def get : Co σ σ := Py.perform (S := shared σ routing) .get

def put (s : σ) : Co σ Unit := Py.perform (S := shared σ routing) (.put s)

def ask (query : Query) : Co σ query.Answer := Py.perform (S := shared σ routing) (.ask query)

def await (query : Query) : Co σ query.Answer :=
  Py.perform (S := shared σ routing) (.await query)

def raiseExc (cls : ExcClass) (message : String) : Co σ α := Py.raise (.error (.new cls message))

/-- `IndexError`. -/
def indexError : ExcClass := .derived "IndexError" .exception

end Coroutines

/-! What holds for a coroutine among others. -/

section Rules

variable {β : Type} {inv : σ → Prop}

/-- The coroutine `p`, run from `s`, keeps `inv` at its awaits; what it returns
and the state it returns in meet `post`. -/
def Yields (inv : σ → Prop) (p : Co σ α) (s : σ) (post : Except Raised α → σ → Prop) : Prop :=
  Ensures (relying inv Query.allowed) (guaranteed inv) p () s fun r _ s => post r s

variable {s : σ} {post : Except Raised α → σ → Prop}

theorem yields_pure {a : α} (h : post (.ok a) s) : Yields inv (pure a) s post := h

theorem yields_raise {cls : ExcClass} {message : String}
    (h : post (.error (.error (.new cls message))) s) :
    Yields inv (raiseExc cls message) s post := h

variable {p : Co σ α} {f : query.Answer → Co σ α}

/-- Sequencing with a specification of the first part. -/
theorem Yields.seq {f : α → Co σ β} {mid : Except Raised α → σ → Prop}
    {post : Except Raised β → σ → Prop} (hp : Yields inv p s mid)
    (hok : ∀ a s, mid (.ok a) s → Yields inv (f a) s post)
    (herror : ∀ e s, mid (.error e) s → post (.error e) s) : Yields inv (p >>= f) s post :=
  ensures_seq hp (fun a _ => hok a) fun e _ => herror e

theorem Yields.mono {post' : Except Raised α → σ → Prop} (h : Yields inv p s post)
    (hpost : ∀ r s, post r s → post' r s) : Yields inv p s post' :=
  Ensures.imp h fun r _ s => hpost r s

theorem yields_get {f : σ → Co σ α} (h : Yields inv (f s) s post) :
    Yields inv (get >>= f) s post := by
  refine ⟨trivial, ?_⟩
  rintro answer s' ⟨rfl, rfl⟩
  exact h

theorem yields_put {t : σ} {f : Unit → Co σ α} (h : Yields inv (f ()) t post) :
    Yields inv (put t >>= f) s post := by
  refine ⟨trivial, ?_⟩
  intro answer s' hs'
  obtain rfl : s' = t := hs'
  exact h

theorem yields_ask (h : ∀ answer, query.allowed answer → Yields inv (f answer) s post) :
    Yields inv (ask query >>= f) s post := by
  refine ⟨trivial, ?_⟩
  rintro answer s' ⟨hanswer, rfl⟩
  exact h answer hanswer

/-- After an await nothing is left of the state but the invariant. -/
theorem yields_await (hinv : inv s)
    (h : ∀ answer s', query.allowed answer → inv s' → Yields inv (f answer) s' post) :
    Yields inv (await query >>= f) s post := by
  refine ⟨hinv, ?_⟩
  rintro answer s' ⟨hanswer, hs'⟩
  exact h answer s' hanswer hs'

theorem yields_ofExcept_bind {r : Except Raised α} {f : α → Co σ β}
    {post : Except Raised β → σ → Prop} (hok : ∀ a, r = .ok a → Yields inv (f a) s post)
    (herror : ∀ e, post (.error e) s) : Yields inv (Py.ofExcept r >>= f) s post := by
  cases r with
  | ok a => exact hok a rfl
  | error e => exact herror e

/-- Where there is no invariant, any coroutine will do. -/
theorem yields_any (p : Co σ α) (s : σ) : Yields (fun _ => True) p s fun _ _ => True := by
  have hprog (q : Prog (shared σ routing) (Except Raised α × Unit)) (s : σ) :
      Prog.Always (relying (fun _ => True) Query.allowed) (guaranteed fun _ => True)
        (fun _ _ => True) q s := by
    induction q generalizing s with
    | ret a => exact trivial
    | perform act next ih =>
      refine ⟨?_, fun answer s' _ => ih answer s'⟩
      cases act <;> exact trivial
  exact hprog (p ()) s

end Rules

/-! What holds for a coroutine that relies on how the others change the state. -/

section Evolution

variable {β : Type} {R : σ → σ → Prop} {s : σ} {post : Except Raised α → σ → Prop}

section Rules

variable {allowed : (query : Query) → query.Answer → Prop}
  {post : Except Raised α → Unit → σ → Prop}

theorem evolving_get {f : σ → Co σ α}
    (h : Ensures (relyingOn R allowed) (changing R) (f s) () s post) :
    Ensures (relyingOn R allowed) (changing R) (get >>= f) () s post := by
  refine ⟨trivial, ?_⟩
  rintro answer s' ⟨rfl, rfl⟩
  exact h

theorem evolving_put {t : σ} {f : Unit → Co σ α} (hchange : R s t)
    (h : Ensures (relyingOn R allowed) (changing R) (f ()) () t post) :
    Ensures (relyingOn R allowed) (changing R) (put t >>= f) () s post := by
  refine ⟨hchange, ?_⟩
  intro answer s' hs'
  obtain rfl : s' = t := hs'
  exact h

theorem evolving_ask {f : query.Answer → Co σ α} (h : ∀ answer, allowed query answer →
      Ensures (relyingOn R allowed) (changing R) (f answer) () s post) :
    Ensures (relyingOn R allowed) (changing R) (ask query >>= f) () s post := by
  refine ⟨trivial, ?_⟩
  rintro answer s' ⟨hanswer, rfl⟩
  exact h answer hanswer

theorem evolving_await {f : query.Answer → Co σ α} (h : ∀ answer s', allowed query answer → R s s' →
      Ensures (relyingOn R allowed) (changing R) (f answer) () s' post) :
    Ensures (relyingOn R allowed) (changing R) (await query >>= f) () s post := by
  refine ⟨trivial, ?_⟩
  rintro answer s' ⟨hanswer, hs'⟩
  exact h answer s' hanswer hs'

end Rules

/-- The coroutine `p`, run from `s`, changes the state within `R` only, and relies
on the others to do the same; what it returns and the state it returns in meet
`post`. -/
def Moves (R : σ → σ → Prop) (p : Co σ α) (s : σ) (post : Except Raised α → σ → Prop) : Prop :=
  Ensures (relyingOn R Query.allowed) (changing R) p () s fun r _ s => post r s

theorem moves_pure {a : α} (h : post (.ok a) s) : Moves R (pure a) s post := h

variable {p : Co σ α} {f : α → Co σ β}

theorem Moves.seq {mid : Except Raised α → σ → Prop} {post : Except Raised β → σ → Prop}
    (hp : Moves R p s mid) (hok : ∀ a s, mid (.ok a) s → Moves R (f a) s post)
    (herror : ∀ e s, mid (.error e) s → post (.error e) s) : Moves R (p >>= f) s post :=
  ensures_seq hp (fun a _ s h => hok a s h) fun e _ s h => herror e s h

theorem Moves.mono {post' : Except Raised α → σ → Prop} (h : Moves R p s post)
    (hpost : ∀ r s, post r s → post' r s) : Moves R p s post' :=
  Ensures.imp h fun r _ s => hpost r s

theorem moves_get {f : σ → Co σ α} (h : Moves R (f s) s post) : Moves R (get >>= f) s post :=
  evolving_get h

theorem moves_put {t : σ} {f : Unit → Co σ α} (hchange : R s t) (h : Moves R (f ()) t post) :
    Moves R (put t >>= f) s post :=
  evolving_put hchange h

theorem moves_await {f : query.Answer → Co σ α}
    (h : ∀ answer s', query.allowed answer → R s s' → Moves R (f answer) s' post) :
    Moves R (await query >>= f) s post :=
  evolving_await h

theorem moves_ofExcept_bind {r : Except Raised α} {post : Except Raised β → σ → Prop}
    (hok : ∀ a, r = .ok a → Moves R (f a) s post) (herror : ∀ e, post (.error e) s) :
    Moves R (Py.ofExcept r >>= f) s post := by
  cases r with
  | ok a => exact hok a rfl
  | error e => exact herror e

end Evolution

/-- `min` and `max` with a key: the first element that no other is better than. -/
def firstBest {α : Type} (better : α → α → Bool) : List α → Option α
  | [] => none
  | first :: rest => some (rest.foldl (fun best x => if better x best then x else best) first)

theorem firstBest_mem {x : α}
    (h : firstBest better l = some x) : x ∈ l := by
  have hfold (rest : List α) (first : α) :
      rest.foldl (fun best x => if better x best then x else best) first ∈ first :: rest := by
    induction rest generalizing first with
    | nil => exact List.mem_cons_self
    | cons next rest ih =>
      rw [List.foldl_cons]
      split
      · exact List.mem_cons_of_mem _ (ih next)
      · have hmem := ih first
        rw [List.mem_cons] at hmem ⊢
        rcases hmem with hmem | hmem
        · exact Or.inl hmem
        · exact Or.inr (List.mem_cons_of_mem _ hmem)
  cases l with
  | nil => cases h
  | cons first rest =>
    obtain rfl := Option.some.inj h
    exact hfold rest first

theorem firstBest_eq_none
    (h : firstBest better l = none) : l = [] := by
  cases l with
  | nil => rfl
  | cons first rest => cases h

/-! `RoutingInterface`. -/

/-- The loop of `_qps_routing`; no bound is infinity. -/
def qpsLoop (requestStats : Dict String RequestStats) :
    List EndpointInfo → Option ℚ → Option String → Option String
  | [], _, ret => ret
  | info :: rest, lowestQps, ret =>
    match requestStats.get? info.url with
    | none => some info.url
    | some stat =>
      if lowestQps.all (stat.qps < ·) then
        qpsLoop requestStats rest (some stat.qps) (some info.url)
      else qpsLoop requestStats rest lowestQps ret

def qpsRouting (endpoints : List EndpointInfo) (requestStats : Dict String RequestStats) :
    Option String :=
  qpsLoop requestStats endpoints none none

/-- In-flight requests of an engine; one that is not known has none. -/
def inFlight (requestStats : Dict String RequestStats) (url : String) : Int :=
  match requestStats.get? url with
  | none => 0
  | some stat => stat.inPrefillRequests + stat.inDecodingRequests

/-- The nodes of the hash ring after it was updated to the endpoints. -/
def updateHashRing {σ : Type} (currentNodes : Finset String) (endpoints : List EndpointInfo) :
    Co σ (Finset String) := do
  let newNodes := (urlsOf endpoints).toFinset
  let removed ← ask (.iterate (currentNodes \ newNodes))
  let added ← ask (.iterate (newNodes \ currentNodes))
  pure (added.foldl (fun nodes node => insert node nodes)
    (removed.foldl (fun nodes node => nodes.erase node) currentNodes))

/-- `None`, the header, or the body field of the session key. -/
def extractSessionId (sessionKey : Option String) (args : RouteArgs) : Option Json :=
  match sessionKey with
  | none => none
  | some key =>
    match args.headers.find? (fun entry => lower entry.1 = lower key) with
    | some entry => some (.str entry.2)
    | none =>
      match args.requestJson.lookup key with
      | none => none
      | some .null => none
      | some value => some value

/-- The route by session id if there is one and by the lowest QPS otherwise, and
the nodes of the ring after it. -/
def sessionRoute {σ : Type} (sessionKey : Option String) (nodes : Finset String)
    (args : RouteArgs) : Co σ (Except Raised (Option String) × Finset String) := do
  let nodes ← updateHashRing nodes args.endpoints
  match extractSessionId sessionKey args with
  | none => pure (.ok (qpsRouting args.endpoints args.requestStats), nodes)
  | some sessionId => do
      let url ← ask (.getNode nodes sessionId)
      pure (url, nodes)

/-- A URL of the endpoints this call was given. -/
def Within (args : RouteArgs) : Except Raised (Option String) → Prop
  | .ok url => ∃ u ∈ urlsOf args.endpoints, url = some u
  | .error _ => True

/-- A call returns a URL of its own endpoints, and leaves the body as it was but
for the priority. -/
def Routed (kind : RouterKind) (args : RouteArgs) :
    Except Raised (Option String × JsonObject) → Prop
  | .ok (url, json) => Within args (.ok url) ∧ kind.Updates args.requestJson json
  | .error _ => True

theorem qpsLoop_mem (requestStats : Dict String RequestStats) (endpoints : List EndpointInfo)
    (lowestQps : Option ℚ) (ret : Option String)
    (h : endpoints ≠ [] ∧ lowestQps = none ∨ ∃ u, ret = some u) :
    ∃ u, qpsLoop requestStats endpoints lowestQps ret = some u ∧
      (u ∈ urlsOf endpoints ∨ ret = some u) := by
  induction endpoints generalizing lowestQps ret with
  | nil =>
    rcases h with ⟨hne, -⟩ | ⟨u, rfl⟩
    · exact absurd rfl hne
    · exact ⟨u, rfl, Or.inr rfl⟩
  | cons info rest ih =>
    unfold qpsLoop
    cases requestStats.get? info.url with
    | none => exact ⟨info.url, rfl, Or.inl List.mem_cons_self⟩
    | some stat =>
      dsimp only
      split
      · obtain ⟨u, hu, hmem⟩ := ih (some stat.qps) (some info.url) (Or.inr ⟨_, rfl⟩)
        refine ⟨u, hu, Or.inl ?_⟩
        rcases hmem with hmem | hret
        · exact List.mem_cons_of_mem _ hmem
        · obtain rfl := Option.some.inj hret
          exact List.mem_cons_self
      · next hlowest =>
          have hret : ∃ u, ret = some u := by
            rcases h with ⟨-, rfl⟩ | hret
            · simp at hlowest
            · exact hret
          obtain ⟨u, hu, hmem⟩ := ih lowestQps ret (Or.inr hret)
          exact ⟨u, hu, hmem.imp (List.mem_cons_of_mem _) id⟩

/-- With finite rates some endpoint always has the lowest one. -/
theorem qpsRouting_mem {endpoints : List EndpointInfo} (hne : endpoints ≠ [])
    (requestStats : Dict String RequestStats) :
    ∃ u ∈ urlsOf endpoints, qpsRouting endpoints requestStats = some u := by
  obtain ⟨u, hu, hmem⟩ := qpsLoop_mem requestStats endpoints none none (Or.inl ⟨hne, rfl⟩)
  refine ⟨u, ?_, hu⟩
  rcases hmem with hmem | hnone
  · exact hmem
  · cases hnone

theorem mem_foldl_erase (removed : List String) (nodes : Finset String) (node : String) :
    node ∈ removed.foldl (fun nodes node => nodes.erase node) nodes ↔
      node ∈ nodes ∧ node ∉ removed := by
  induction removed generalizing nodes with
  | nil => simp
  | cons first rest ih =>
    rw [List.foldl_cons, ih, Finset.mem_erase, List.mem_cons]
    tauto

theorem mem_foldl_insert (added : List String) (nodes : Finset String) (node : String) :
    node ∈ added.foldl (fun nodes node => insert node nodes) nodes ↔
      node ∈ nodes ∨ node ∈ added := by
  induction added generalizing nodes with
  | nil => simp
  | cons first rest ih =>
    rw [List.foldl_cons, ih, Finset.mem_insert, List.mem_cons]
    tauto

section Ring

variable {inv : σ → Prop} {s : σ}

/-- In whatever order nodes are removed and added, the ring ends up with the new ones. -/
theorem nodes_updated {currentNodes newNodes : Finset String} {removed added : List String}
    (hremoved : ∀ node, node ∈ removed ↔ node ∈ currentNodes \ newNodes)
    (hadded : ∀ node, node ∈ added ↔ node ∈ newNodes \ currentNodes) :
    added.foldl (fun nodes node => insert node nodes)
      (removed.foldl (fun nodes node => nodes.erase node) currentNodes) = newNodes := by
  ext node
  rw [mem_foldl_insert, mem_foldl_erase, hremoved, hadded, Finset.mem_sdiff, Finset.mem_sdiff]
  tauto

theorem updateHashRing_spec (currentNodes : Finset String) (endpoints : List EndpointInfo) :
    Yields inv (updateHashRing currentNodes endpoints) s fun r s' => s' = s ∧
      r = .ok (urlsOf endpoints).toFinset := by
  apply yields_ask
  intro removed hremoved
  apply yields_ask
  intro added hadded
  exact ⟨rfl, congrArg Except.ok (nodes_updated hremoved hadded)⟩

theorem sessionRoute_spec (sessionKey : Option String) (nodes : Finset String)
    {args : RouteArgs} (hne : args.endpoints ≠ []) :
    Yields inv (sessionRoute sessionKey nodes args) s fun r s' => s' = s ∧
      ∃ url nodes', r = .ok (url, nodes') ∧ Within args url := by
  apply Yields.seq (updateHashRing_spec nodes args.endpoints)
  · rintro _ _ ⟨rfl, ⟨⟩⟩
    split
    · apply yields_pure
      exact ⟨rfl, _, _, rfl, qpsRouting_mem hne args.requestStats |>.imp fun _ h => h⟩
    · next sessionId _ =>
        apply yields_ask
        intro answer hanswer
        refine ⟨rfl, answer, _, rfl, ?_⟩
        cases answer with
        | error e => exact trivial
        | ok node =>
          obtain ⟨n, hn, rfl⟩ := hanswer (by simpa [urlsOf] using hne)
          exact ⟨n, List.mem_toFinset.mp hn, rfl⟩
  · rintro e s' ⟨-, h⟩
    cases h

end Ring

end ProductionStack.Routing

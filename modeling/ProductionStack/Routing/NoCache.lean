import ProductionStack.Routing.Sequential
import ProductionStack.Routing.SessionAffinity

/-!
What the two routers that look for a cache do when the controller names no holder.
Both should route by the session id, or else by the lowest rate. A call is followed
from its lookup on, where the others may have changed the router in any way.
-/

namespace ProductionStack.Routing

open Lib Python Request Py

variable {π : Type} {args : RouteArgs} {url : Option String} {tokens : Json}
  {reply : Option (Option Layout)} {result : Except Raised (Option String × JsonObject)}

section Ring

variable [LinearOrder π] {ring : HashRing π} {sessionKey : Option String}

/-- What is taken for granted of `uhashring`: any key can be hashed, and any node has
points. -/
structure HashRing.Total (ring : HashRing π) : Prop where
  hashes : ∀ key, ∃ k, ring.keyHash key = .ok k
  points : ∀ node, (ring.points node).Nonempty

/-- Then the route by session or rate is one of the URLs. -/
theorem HashRing.Total.routed (hring : ring.Total) (sessionKey : Option String)
    (hne : args.endpoints ≠ []) :
    ∃ url ∈ urlsOf args.endpoints, RoutedBy ring sessionKey args (.ok (some url)) := by
  unfold RoutedBy
  cases extractSessionId sessionKey args with
  | none =>
    obtain ⟨url, hurl, hqps⟩ := qpsRouting_mem hne args.requestStats
    exact ⟨url, hurl, congrArg Except.ok hqps.symm⟩
  | some key =>
    obtain ⟨k, hk⟩ := hring.hashes key
    have hsome : ∃ node ∈ urlSet args, (ring.points node).Nonempty := by
      obtain ⟨endpoint, hendpoint⟩ := List.exists_mem_of_ne_nil _ hne
      exact ⟨endpoint.url, List.mem_toFinset.mpr (List.mem_map_of_mem hendpoint), hring.points _⟩
    obtain ⟨url, howns⟩ := ring.exists_owns k hsome
    exact ⟨url, List.mem_toFinset.mp howns.1, k, hk, howns⟩

theorem RoutedBy.unique {url url' : Except Raised (Option String)}
    (h : RoutedBy ring sessionKey args url) (h' : RoutedBy ring sessionKey args url') :
    url = url' := by
  unfold RoutedBy at h h'
  cases hkey : extractSessionId sessionKey args with
  | none =>
    rw [hkey] at h h'
    exact h.trans h'.symm
  | some key =>
    rw [hkey] at h h'
    exact HashRing.GetNode.unique h h'

/-- The fallback always has a way to go on. -/
theorem fallbackUrl_runs (ring : HashRing π) (sessionKey : Option String) (args : RouteArgs)
    (s : KvState) : ∃ p s', RunsTo ring.allowed (fallbackUrl sessionKey args ()) s p s' := by
  have hreturn (url : Except Raised (Option String)) (nodes : Finset String) :
      ∃ p s', RunsTo ring.allowed
        ((put { s with ring := nodes } >>= fun _ => Py.ofExcept url >>= fun url =>
          pure (url, args.requestJson) : Co KvState (Option String × JsonObject)) ()) s p s' := by
    cases url with
    | ok url | error e => exact ⟨_, _, .put (.ret _ _)⟩
  unfold fallbackUrl sessionRoute
  cases extractSessionId sessionKey args with
  | none =>
    obtain ⟨p, s', h⟩ := hreturn (.ok (qpsRouting args.endpoints args.requestStats)) _
    exact ⟨p, s', .get (.ask (Finset.toList _) (fun _ => Finset.mem_toList)
      (.ask (Finset.toList _) (fun _ => Finset.mem_toList) h))⟩
  | some key =>
    obtain ⟨url, hurl⟩ := ring.exists_getNode _ key
    obtain ⟨p, s', h⟩ := hreturn url _
    exact ⟨p, s', .get (.ask (Finset.toList _) (fun _ => Finset.mem_toList)
      (.ask (Finset.toList _) (fun _ => Finset.mem_toList) (.ask url hurl h)))⟩

end Ring

/-! A call at its lookup. -/

def isLookup : Act KvState routing → Bool
  | .await (.lookup _) => true
  | _ => false

/-- The first endpoint has a model to tokenize with. -/
def Tokenizable (args : RouteArgs) : Prop :=
  ∃ endpoint rest model models, args.endpoints = endpoint :: rest ∧
    endpoint.modelNames = model :: models

section Lookup

variable [LinearOrder π] {ring : HashRing π}
  {post : String → String → Json → Co KvState (Except Raised Json)}
  {after : Json → Except Raised (Option (Option Layout)) → Co KvState (Option String × JsonObject)}

/-- A call that was started in the state `s` awaits its first lookup. -/
def AtLookup (ring : HashRing π) (call : Co KvState (Option String × JsonObject)) (s : KvState)
    (tokens : Json)
    (next : Except Raised (Option (Option Layout)) → Prog (shared KvState routing) RouteReply)
    (s' : KvState) : Prop :=
  Prog.Reaches ((relying (fun _ => True) ring.allowed).before isLookup) (call ()) s
    (.perform (.await (.lookup tokens)) next) s'

/-- Whenever a call is answered `reply` by the lookup it goes on to return `result`,
without another await, whatever the others have made of the state. -/
def ReturnsOn (ring : HashRing π) (call : Co KvState (Option String × JsonObject))
    (reply : Option (Option Layout)) (result : Except Raised (Option String × JsonObject)) : Prop :=
  ∀ s tokens next s', AtLookup ring call s tokens next s' → ∀ t,
    (∃ p t', RunsTo ring.allowed (next (.ok reply)) t p t') ∧
      ∀ p t', RunsTo ring.allowed (next (.ok reply)) t p t' → p = .ret (result, ())

/-- What both routers do: tokenize, look up, and decide. -/
def lookingUp (post : String → String → Json → Co KvState (Except Raised Json)) (args : RouteArgs)
    (after : Json → Except Raised (Option (Option Layout)) →
      Co KvState (Option String × JsonObject)) : Co KvState (Option String × JsonObject) :=
  tokenizePrompt post args >>= fun tokenIds => await (.lookup tokenIds) >>= after tokenIds

theorem tokenizePrompt_performs {E : Act KvState routing → Prop}
    (hlocal : ∀ model prompt, E (.ask (.localTokens model prompt)))
    (hpost : ∀ url model prompt, Performs E (post url model prompt)) (args : RouteArgs) :
    Performs E (tokenizePrompt post args) := by
  have hendpoint : Performs E (firstEndpoint args.endpoints : Co KvState EndpointInfo) := by
    cases args.endpoints with
    | nil => exact performs_ofExcept _
    | cons endpoint rest => exact performs_ofExcept (.ok endpoint)
  have hmodel : Performs E (firstModel args.endpoints : Co KvState String) := by
    apply hendpoint.bind
    intro endpoint
    cases endpoint.modelNames with
    | nil => exact performs_ofExcept _
    | cons model models => exact performs_ofExcept (.ok model)
  apply Performs.tryExcept
  · apply hmodel.bind
    intro model
    apply (performs_perform (hlocal _ _)).bind
    intro tokens
    exact performs_ofExcept tokens
  · intro raised
    cases raised with
    | interrupt i => exact performs_ofExcept _
    | error e =>
      apply hendpoint.bind
      intro endpoint
      apply hmodel.bind
      intro model
      apply (hpost _ _ _).bind
      intro answer
      apply (performs_ofExcept answer).bind
      intro body
      exact performs_ofExcept _

variable {env : Env (shared KvState routing) KvState} {s s' : KvState}

/-- Without a model nothing is tokenized. -/
theorem tokenizable_of_tokenizePrompt {l : Unit}
    (h : Prog.Reaches env (tokenizePrompt post args ()) s (.ret (.ok tokens, l)) s') :
    Tokenizable args := by
  unfold tokenizePrompt at h
  cases hendpoints : args.endpoints with
  | nil =>
    rw [hendpoints] at h
    cases h
  | cons endpoint rest =>
    rw [hendpoints] at h
    obtain ⟨url, modelNames, id, label, sleep⟩ := endpoint
    cases modelNames with
    | nil => cases h
    | cons model models => exact ⟨_, rest, model, models, hendpoints, rfl⟩

/-- With a model, the prompt may be tokenized in any way. -/
theorem tokenizePrompt_reaches (hargs : Tokenizable args) (s : KvState) (tokens : Json)
    (henv : ∀ model prompt, env s (.ask (.localTokens model prompt)) (.ok tokens) s) :
    Prog.Reaches env (tokenizePrompt post args ()) s (.ret (.ok tokens, ())) s := by
  obtain ⟨endpoint, rest, model, models, hendpoints, hmodels⟩ := hargs
  obtain ⟨url, modelNames, id, label, sleep⟩ := endpoint
  obtain rfl : modelNames = model :: models := hmodels
  unfold tokenizePrompt
  rw [hendpoints]
  exact .step (.ok tokens) (henv model _) (.refl _ _)

/-- What is left of a call at its lookup. -/
theorem AtLookup.next_eq
    (hpost : ∀ url model prompt, Performs (fun e => isLookup e = false) (post url model prompt))
    {next : Except Raised (Option (Option Layout)) → Prog (shared KvState routing) RouteReply}
    (h : AtLookup ring (lookingUp post args after) s tokens next s') :
    Tokenizable args ∧ next = fun answer => after tokens answer () := by
  obtain ⟨⟨r, l⟩, s₁, htokens, h⟩ := Prog.Reaches.past
    ((tokenizePrompt_performs (fun _ _ => rfl) hpost args).run ()) (by simp [isLookup]) h
  cases r with
  | error e => cases h
  | ok tokenIds =>
    refine ⟨tokenizable_of_tokenizePrompt htokens, ?_⟩
    cases h with
    | refl => rfl
    | step answer hanswer rest => cases hanswer.1

theorem atLookup_of_tokenizable (ring : HashRing π) (hargs : Tokenizable args) (s : KvState)
    (tokens : Json) :
    AtLookup ring (lookingUp post args after) s tokens (fun answer => after tokens answer ()) s :=
  (tokenizePrompt_reaches hargs s tokens fun _ _ => ⟨rfl, trivial, rfl⟩).bind (.refl _ _)

/-- What a call returns once it is answered, if it gets to ask. -/
theorem returnsOn_lookingUp_iff (hpost : ∀ url model prompt, Performs (fun e => isLookup e = false)
      (post url model prompt))
    : ReturnsOn ring (lookingUp post args after) reply result ↔
      (Tokenizable args → ∀ tokens t, (∃ p t', RunsTo ring.allowed (after tokens (.ok reply) ()) t p t') ∧
        ∀ p t', RunsTo ring.allowed (after tokens (.ok reply) ()) t p t' → p = .ret (result, ())) := by
  constructor
  · intro h hargs tokens t
    exact h t tokens _ t (atLookup_of_tokenizable ring hargs t tokens) t
  · intro h s tokens next s' hlookup t
    obtain ⟨hargs, rfl⟩ := hlookup.next_eq hpost
    exact h hargs tokens t

end Lookup

/-! What follows the lookup. -/

/-- The controller's answer names no holder: it is `None`, has no layout, or an empty one. -/
def NamesNoHolder : Option (Option Layout) → Prop
  | none => True
  | some none => True
  | some (some layout) => layout.size = 0

theorem eq_empty_of_size {layout : Layout} (h : layout.size = 0) : layout = .empty := by
  obtain ⟨entries, hnodup⟩ := layout
  obtain rfl : entries = [] := List.length_eq_zero_iff.mp h
  rfl

section Decision

variable [LinearOrder π] {ring : HashRing π}

/-- The fallback returns what the session or the rates say. -/
theorem fallbackUrl_returns (sessionKey : Option String) {url : Except Raised (Option String)}
    (hurl : RoutedBy ring sessionKey args url) (t : KvState) :
    (∃ p t', RunsTo ring.allowed (fallbackUrl sessionKey args ()) t p t') ∧
      ∀ p t', RunsTo ring.allowed (fallbackUrl sessionKey args ()) t p t' →
        p = .ret (replyOf args url) := by
  refine ⟨fallbackUrl_runs ring sessionKey args t, ?_⟩
  intro p t' hrun
  obtain ⟨-, url', hurl', rfl⟩ := fallbackUrl_runsTo hrun
  rw [hurl.unique hurl']

end Decision

namespace KvawareRouter

variable (router : KvawareRouter)

def afterLookup (args : RouteArgs) (tokenIds : Json)
    (answer : Except Raised (Option (Option Layout))) : Co KvState (Option String × JsonObject) := do
  let reply ← Py.ofExcept answer
  match reply with
  | none => raiseExc .attributeError "'NoneType' object has no attribute 'layout_info'"
  | some layoutInfo => do
      refresh args.endpoints layoutInfo
      router.place args tokenIds layoutInfo

theorem routeRequest_eq (args : RouteArgs) : router.routeRequest args =
      lookingUp (fun url model prompt => ask (.remoteTokens url model prompt)) args
        (router.afterLookup args) := rfl

section Answered

variable [LinearOrder π] {ring : HashRing π}

theorem returnsOn_iff : ReturnsOn ring (router.routeRequest args) reply result ↔
      (Tokenizable args → ∀ tokens t,
        (∃ p t', RunsTo ring.allowed (router.afterLookup args tokens (.ok reply) ()) t p t') ∧
          ∀ p t', RunsTo ring.allowed (router.afterLookup args tokens (.ok reply) ()) t p t' →
            p = .ret (result, ())) := by
  apply returnsOn_lookingUp_iff
  intro url model prompt
  exact performs_perform rfl

/-- A call that raises at once returns what it raises. -/
theorem returnsOn_raised_iff (hargs : Tokenizable args) {e : Raised}
    (hafter : ∀ tokens, router.afterLookup args tokens (.ok reply) () = .ret (.error e, ())) :
    ReturnsOn ring (router.routeRequest args) reply result ↔ result = .error e := by
  rw [returnsOn_iff, forall_prop_of_true hargs]
  simp only [hafter]
  constructor
  · intro h
    obtain ⟨rfl, -⟩ := Prod.mk.inj (Prog.ret.inj ((h .null KvState.init).2 _ _ (.ret _ _)))
    rfl
  · rintro rfl tokens t
    refine ⟨⟨_, t, .ret _ t⟩, ?_⟩
    intro p t' hrun
    cases hrun
    rfl

/-- The layout is read off the answer before the answer is looked at. -/
theorem returnsOn_none_iff (hargs : Tokenizable args) :
    ReturnsOn ring (router.routeRequest args) none result ↔
      result = .error (.error (.new .attributeError
        "'NoneType' object has no attribute 'layout_info'")) :=
  router.returnsOn_raised_iff hargs fun _ => rfl

/-- The length of the layout is taken before it is known to be there. -/
theorem returnsOn_no_layout_iff (hargs : Tokenizable args) :
    ReturnsOn ring (router.routeRequest args) (some none) result ↔
      result = .error (.error (.new .typeError "object of type 'NoneType' has no len()")) :=
  router.returnsOn_raised_iff hargs fun _ => rfl

theorem afterLookup_empty_runsTo {t t' : KvState} {p : Prog (shared KvState routing) RouteReply} :
    RunsTo ring.allowed (router.afterLookup args tokens (.ok (some (some .empty))) ()) t p t' ↔
      RunsTo ring.allowed (fallbackUrl router.sessionKey args ()) t p t' := by
  constructor
  · intro h
    cases h with
    | get h => exact h
  · intro h
    exact .get h

/-- Answered with an empty layout it falls back, answered without one it raises. -/
theorem returnsOn_noHolder_iff (hargs : Tokenizable args) (hreply : NamesNoHolder reply)
    (hurl : RoutedBy ring router.sessionKey args (.ok url)) :
    ReturnsOn ring (router.routeRequest args) reply (.ok (url, args.requestJson)) ↔
      reply = some (some .empty) := by
  constructor
  · intro h
    cases reply with
    | none => cases (router.returnsOn_none_iff hargs).mp h
    | some layoutInfo =>
      cases layoutInfo with
      | none => cases (router.returnsOn_no_layout_iff hargs).mp h
      | some layout => rw [eq_empty_of_size hreply]
  · rintro rfl
    rw [returnsOn_iff]
    intro _ tokens t
    simp only [afterLookup_empty_runsTo]
    exact fallbackUrl_returns router.sessionKey hurl t

end Answered

end KvawareRouter

namespace LoadAwareRouter

variable (router : LoadAwareRouter)

def afterLookup (args : RouteArgs) (tokenIds : Json)
    (answer : Except Raised (Option (Option Layout))) : Co KvState (Option String × JsonObject) := do
  let reply ← Py.ofExcept answer
  let layout := (reply.getD none).getD .empty
  if layout.size = 0 then fallbackUrl router.sessionKey args
  else do
    refreshInstanceMap args.endpoints layout
    router.place args tokenIds layout

theorem routeRequest_eq (hne : args.endpoints ≠ []) : router.routeRequest args =
      lookingUp (fun url model prompt => await (.remoteTokens url model prompt)) args
        (router.afterLookup args) := by
  have hempty : ¬ args.endpoints.isEmpty = true := by simpa using hne
  unfold routeRequest
  rw [if_neg hempty]
  rfl

/-- However the answer names no holder, it falls back. -/
theorem returnsOn_noHolder [LinearOrder π] {ring : HashRing π} (hne : args.endpoints ≠ [])
    (hreply : NamesNoHolder reply) (hurl : RoutedBy ring router.sessionKey args (.ok url)) :
    ReturnsOn ring (router.routeRequest args) reply (.ok (url, args.requestJson)) := by
  rw [router.routeRequest_eq hne]
  have hpost (url model : String) (prompt : Json) : Performs (fun e => isLookup e = false)
      (await (.remoteTokens url model prompt)) := performs_perform rfl
  rw [returnsOn_lookingUp_iff hpost]
  intro _ tokens t
  have hlayout : ((reply.getD none).getD .empty).size = 0 := by
    cases reply with
    | none => rfl
    | some layoutInfo =>
      cases layoutInfo with
      | none => rfl
      | some layout => exact hreply
  have hafter : router.afterLookup args tokens (.ok reply) () =
      fallbackUrl router.sessionKey args () := by
    change (if ((reply.getD none).getD .empty).size = 0 then fallbackUrl router.sessionKey args
      else _ : Co KvState (Option String × JsonObject)) () = _
    rw [if_pos hlayout]
  rw [hafter]
  exact fallbackUrl_returns router.sessionKey hurl t

end LoadAwareRouter

/-- When the controller names no holder, a KV-aware and a load-aware router with one
session key both return, without raising, the URL that the session or the rates say,
exactly if the answer is an empty layout, or there is no model to tokenize with and
the controller is not asked. -/
theorem no_cache_fallback_iff {π : Type} [LinearOrder π] (ring : HashRing π) (hring : ring.Total)
    (kvaware : KvawareRouter) (loadaware : LoadAwareRouter)
    (hkey : loadaware.sessionKey = kvaware.sessionKey) {args : RouteArgs}
    (hne : args.endpoints ≠ []) {reply : Option (Option Layout)} (hreply : NamesNoHolder reply) :
    (∃ url ∈ urlsOf args.endpoints, RoutedBy ring kvaware.sessionKey args (.ok (some url)) ∧
      ReturnsOn ring (kvaware.routeRequest args) reply (.ok (some url, args.requestJson)) ∧
      ReturnsOn ring (loadaware.routeRequest args) reply (.ok (some url, args.requestJson))) ↔
    reply = some (some .empty) ∨ ¬ Tokenizable args := by
  obtain ⟨url, hurl, hrouted⟩ := hring.routed kvaware.sessionKey hne
  have hloadaware : ReturnsOn ring (loadaware.routeRequest args) reply
      (.ok (some url, args.requestJson)) :=
    loadaware.returnsOn_noHolder hne hreply (hkey ▸ hrouted)
  by_cases hargs : Tokenizable args
  · rw [or_iff_left (not_not.mpr hargs)]
    constructor
    · rintro ⟨other, -, hother, hkvaware, -⟩
      exact (kvaware.returnsOn_noHolder_iff hargs hreply hother).mp hkvaware
    · intro hempty
      exact ⟨url, hurl, hrouted,
        (kvaware.returnsOn_noHolder_iff hargs hreply hrouted).mpr hempty, hloadaware⟩
  · refine iff_of_true ⟨url, hurl, hrouted, ?_, hloadaware⟩ (Or.inr hargs)
    rw [KvawareRouter.returnsOn_iff]
    intro htokenizable
    exact absurd htokenizable hargs

/-- A ring that hashes every key alike. -/
def constantRing : HashRing String where
  points node := {node}
  disjoint := namedRing.disjoint
  keyHash _ := .ok ""

theorem constantRing_total : constantRing.Total :=
  ⟨fun _ => ⟨"", rfl⟩, fun node => Finset.singleton_nonempty node⟩

theorem sessionCall_tokenizable : Tokenizable sessionCall := ⟨_, _, _, _, rfl, rfl⟩

theorem no_cache_fallback_empty_layout :
    ∃ url ∈ urlsOf sessionCall.endpoints,
      RoutedBy constantRing (some "x-user") sessionCall (.ok (some url)) ∧
      ReturnsOn constantRing ((⟨some "x-user", 0⟩ : KvawareRouter).routeRequest sessionCall)
        (some (some .empty)) (.ok (some url, [])) ∧
      ReturnsOn constantRing ((⟨some "x-user", .finite 1⟩ : LoadAwareRouter).routeRequest sessionCall)
        (some (some .empty)) (.ok (some url, [])) :=
  have hempty : NamesNoHolder (some (some .empty)) := rfl
  (no_cache_fallback_iff constantRing constantRing_total ⟨some "x-user", 0⟩
    ⟨some "x-user", .finite 1⟩ rfl (List.cons_ne_nil _ _) hempty).mpr (Or.inl rfl)

/-- Answered with `None`, the KV-aware router raises where the other one falls back. -/
theorem kvaware_raises_without_answer :
    ReturnsOn constantRing ((⟨some "x-user", 0⟩ : KvawareRouter).routeRequest sessionCall) none
      (.error (.error (.new .attributeError
        "'NoneType' object has no attribute 'layout_info'"))) ∧
    ¬ ∃ url, ReturnsOn constantRing
      ((⟨some "x-user", 0⟩ : KvawareRouter).routeRequest sessionCall) none (.ok (some url, [])) := by
  refine ⟨(KvawareRouter.returnsOn_none_iff _ sessionCall_tokenizable).mpr rfl, ?_⟩
  rintro ⟨url, h⟩
  cases (KvawareRouter.returnsOn_none_iff _ sessionCall_tokenizable).mp h

end ProductionStack.Routing

import Mathlib.Data.Finset.Sort
import Mathlib.Data.List.Sort
import Mathlib.Data.String.Basic
import ProductionStack.Python.Unicode
import ProductionStack.Routing.Interface

/-!
The routers that never await: round robin, session and priority.
-/

namespace ProductionStack.Routing

open Lib Python Stats Request

/-! `RoundRobinRouter`. -/

structure RoundRobinRouter where
  nextIndex : Dict (List String) Nat
  sortedCache : Dict (Finset String) (List String)

variable {args : RouteArgs}

namespace RoundRobinRouter

def init : RoundRobinRouter := ⟨.empty, .empty⟩

def maxCacheSize : Nat := 1024

/-- The sorted URLs of the endpoint set, cached after the first sort. -/
def endpointKey (router : RoundRobinRouter) (urls : Finset String) :
    List String × RoundRobinRouter :=
  match router.sortedCache.get? urls with
  | some key => (key, router)
  | none =>
    let cache := if maxCacheSize ≤ router.sortedCache.size then .empty else router.sortedCache
    let key := urls.sort
    (key, { router with sortedCache := cache.set urls key })

def advance (router : RoundRobinRouter) (endpointUrls : List String) : Nat × RoundRobinRouter :=
  let idx := router.nextIndex.getD endpointUrls 0
  let nextIndex :=
    if maxCacheSize ≤ router.nextIndex.size ∧ endpointUrls ∉ router.nextIndex then .empty
    else router.nextIndex
  (idx, { router with nextIndex := nextIndex.set endpointUrls (idx + 1) })

def routeRequest (args : RouteArgs) : Co RoundRobinRouter (Option String × JsonObject) :=
  if args.endpoints.isEmpty then
    raiseExc .valueError "RoundRobinRouter requires at least one endpoint"
  else do
    let router ← get
    let (endpointUrls, router) := router.endpointKey (urlsOf args.endpoints).toFinset
    let (idx, router) := router.advance endpointUrls
    put router
    match endpointUrls[idx % endpointUrls.length]? with
    | some url => pure (some url, args.requestJson)
    | none => raiseExc (.derived "ZeroDivisionError" .exception) "integer modulo by zero"

/-- Every cached key is the sorted set it is cached for. -/
def Sorted (router : RoundRobinRouter) : Prop :=
  ∀ urls key, router.sortedCache.get? urls = some key → key = urls.sort

theorem sorted_init : Sorted init := nofun

variable {router : RoundRobinRouter}

theorem endpointKey_spec (h : Sorted router) (urls : Finset String) :
    (router.endpointKey urls).1 = urls.sort ∧ Sorted (router.endpointKey urls).2 := by
  unfold endpointKey
  cases hcached : router.sortedCache.get? urls with
  | some key => exact ⟨h urls key hcached, h⟩
  | none =>
    refine ⟨rfl, ?_⟩
    intro urls' key hkey
    rw [Dict.get?_set] at hkey
    split at hkey
    · next heq =>
        obtain rfl := Option.some.inj hkey
        rw [heq]
    · split at hkey
      · cases hkey
      · exact h urls' key hkey

theorem routeRequest_spec (h : Sorted router) :
    Yields Sorted (routeRequest args) router fun r router' =>
      Sorted router' ∧ Routed .roundRobin args r := by
  unfold routeRequest
  split
  · exact yields_raise ⟨h, trivial⟩
  · obtain ⟨hkey, hsorted⟩ := endpointKey_spec h (urlsOf args.endpoints).toFinset
    apply yields_get
    apply yields_put
    split
    · next url hurl =>
        refine yields_pure ⟨hsorted, ⟨url, ?_, rfl⟩, rfl⟩
        have hmem : url ∈ (router.endpointKey (urlsOf args.endpoints).toFinset).1 :=
          List.mem_of_getElem? hurl
        rw [hkey, Finset.mem_sort, List.mem_toFinset] at hmem
        exact hmem
    · exact yields_raise ⟨hsorted, trivial⟩

end RoundRobinRouter

/-! `SessionRouter`. -/

/-- The state of a session router is its ring. -/
def sessionRouteRequest (sessionKey : String) (args : RouteArgs) :
    Co (Finset String) (Option String × JsonObject) := do
  let nodes ← get
  let (url, nodes) ← sessionRoute (some sessionKey) nodes args
  put nodes
  let url ← Py.ofExcept url
  pure (url, args.requestJson)

theorem sessionRouteRequest_spec (sessionKey : String) (nodes : Finset String)
    (hne : args.endpoints ≠ []) :
    Yields (fun _ => True) (sessionRouteRequest sessionKey args) nodes fun r _ =>
      True ∧ Routed .session args r := by
  apply yields_get
  apply Yields.seq (sessionRoute_spec (some sessionKey) nodes hne)
  · rintro _ _ ⟨rfl, url, nodes', ⟨⟩, hwithin⟩
    apply yields_put
    apply yields_ofExcept_bind
    · rintro url rfl
      exact yields_pure ⟨trivial, hwithin, rfl⟩
    · intro e
      exact ⟨trivial, trivial⟩
  · rintro e s ⟨-, url, nodes', h, -⟩
    cases h

/-! `PriorityRouter`. -/

/-- The digits of a decimal literal, with single underscores between them. -/
def decimalDigits : List Char → Option (List Nat)
  | [] => none
  | [c] => (decimalValue c).map ([·])
  | c :: '_' :: rest => (decimalValue c).bind fun d => (d :: ·) <$> decimalDigits rest
  | c :: rest => (decimalValue c).bind fun d => (d :: ·) <$> decimalDigits rest

/-- What `int` leaves out around a literal: all white space but four of the ASCII
separators. -/
def isIntSpace (c : Char) : Bool := isSpace c && !(0x1C ≤ c.toNat && c.toNat ≤ 0x1F)

/-- The digits of an integer literal, and its value: a sign and decimal digits, with
white space around them. -/
def literal (s : String) : Option (List Nat × Int) :=
  let digits (cs : List Char) : Option (List Nat × Int) :=
    (decimalDigits cs).map fun ds => (ds, Int.ofNat (ds.foldl (fun n d => n * 10 + d) 0))
  match ((s.toList.dropWhile isIntSpace).reverse.dropWhile isIntSpace).reverse with
  | '-' :: cs => (digits cs).map (Prod.map id Neg.neg)
  | '+' :: cs => digits cs
  | cs => digits cs

/-- `int(s)`, which takes a literal unless it is too long. -/
def intOfString (s : String) : Option Int :=
  (literal s).bind fun read => if maxIntDigits < read.1.length then none else some read.2

/-- `int(v)`. -/
def intOf : Json → Except PyExc Int
  | .int n => .ok n
  | .bool b => .ok (if b then 1 else 0)
  | .float (.finite q) => .ok (q.num.tdiv q.den)
  | .float .nan => .error (.new .valueError "cannot convert float NaN to integer")
  | .float .inf | .float .negInf =>
    .error (.new .overflowError "cannot convert float infinity to integer")
  | .str s =>
    match intOfString s with
    | some n => .ok n
    | none => .error (.new .valueError "invalid literal for int() with base 10")
  | .null | .arr _ | .obj _ => .error (.new .typeError "int() argument must be a string")

structure PriorityRouter where
  priorityHeader : String
  priorityField : String
  priorityDefault : Int
  priorityThreshold : Int

namespace PriorityRouter

/-- The default settings. -/
def standard : PriorityRouter := ⟨"x-request-priority", "priority", 0, 0⟩

variable (router : PriorityRouter)

/-- A value that is missing or malformed falls through to the next source. -/
def resolve (value : Option Json) (otherwise : Except PyExc Int) : Except PyExc Int :=
  match value with
  | none => otherwise
  | some .null => otherwise
  | some v =>
    match intOf v with
    | .ok n => .ok n
    | .error e => if e.isInstance [.typeError, .valueError] then otherwise else .error e

/-- Header, then body field, then default. -/
def extractPriority (args : RouteArgs) : Except PyExc Int :=
  let fromHeader := (args.headers.find? fun entry => lower entry.1 = lower router.priorityHeader).map
    fun entry => Json.str entry.2
  resolve fromHeader
    (resolve (args.requestJson.lookup router.priorityField) (.ok router.priorityDefault))

def engineLoad (requestStats : Dict String RequestStats) (url : String) : Int :=
  inFlight requestStats url

/-- The state is the `_next_index` table. -/
def routeRequest (args : RouteArgs) :
    Co (Dict (List String) Nat) (Option String × JsonObject) :=
  if args.endpoints.isEmpty then
    raiseExc .valueError "PriorityRouter requires at least one endpoint"
  else do
    let priority ← Py.ofExcept ((router.extractPriority args).mapError Raised.error)
    let json := upsert router.priorityField (.int priority) args.requestJson
    let endpointUrls := (urlsOf args.endpoints).insertionSort (· ≤ ·)
    if priority < router.priorityThreshold then
      let load := engineLoad args.requestStats
      pure (firstBest (fun url best => load url < load best) endpointUrls, json)
    else do
      let nextIndex ← get
      let idx := nextIndex.getD endpointUrls 0
      put (nextIndex.set endpointUrls (idx + 1))
      match endpointUrls[idx % endpointUrls.length]? with
      | some url => pure (some url, json)
      | none => raiseExc (.derived "ZeroDivisionError" .exception) "integer modulo by zero"

theorem routeRequest_spec (nextIndex : Dict (List String) Nat) (hne : args.endpoints ≠ []) :
    Yields (fun _ => True) (router.routeRequest args) nextIndex fun r _ =>
      True ∧ Routed (.priority router.priorityField) args r := by
  have hsorted (url : String) (h : url ∈ (urlsOf args.endpoints).insertionSort (· ≤ ·)) :
      url ∈ urlsOf args.endpoints := (List.mem_insertionSort _).mp h
  unfold routeRequest
  split
  · exact yields_raise ⟨trivial, trivial⟩
  · apply yields_ofExcept_bind
    · intro priority _
      split
      · apply yields_pure
        cases hbest : firstBest (fun url best =>
            decide (engineLoad args.requestStats url < engineLoad args.requestStats best))
            ((urlsOf args.endpoints).insertionSort (· ≤ ·)) with
        | none =>
          have hlength := congrArg List.length (firstBest_eq_none _ hbest)
          rw [List.length_insertionSort, urlsOf, List.length_map] at hlength
          exact absurd (List.length_eq_zero_iff.mp hlength) hne
        | some url =>
          exact ⟨trivial, ⟨url, hsorted url (firstBest_mem _ hbest), rfl⟩, priority, rfl⟩
      · apply yields_get
        apply yields_put
        split
        · next url hurl =>
            have hmem := hsorted url (List.mem_of_getElem? hurl)
            exact yields_pure ⟨trivial, ⟨url, hmem, rfl⟩, priority, rfl⟩
        · exact yields_raise ⟨trivial, trivial⟩
    · intro e
      exact ⟨trivial, trivial⟩

end PriorityRouter

end ProductionStack.Routing

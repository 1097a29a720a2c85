import ProductionStack.Lib.Argmax
import ProductionStack.Lib.Rotation
import ProductionStack.Routing.Immediate
import ProductionStack.Routing.Sequential

/-!
The routers that take turns, over whole runs. The round-robin router counts the
calls with each set of URLs; as long as no more sets occur than its tables hold
it never forgets a count, and the URLs of a set are returned in turn. The priority
router counts by the sorted list of URLs, with repetitions: on lists without them
its calls of lower priority are those of a round-robin router, and the others
leave no trace.
-/

namespace ProductionStack.Routing

open Lib Python Stats Request

/-- The calls ask for nothing. -/
def unasked : (query : Query) → Option query.Answer := fun _ => none

/-- The URL of a reply, if it has one. -/
def urlOf (reply : RouteReply) : Option String :=
  match reply.1 with
  | .ok (url, _) => url
  | .error _ => none

/-- How many of the calls had these URLs. -/
def callsWith (history : List (RouteArgs × RouteReply)) (urls : Finset String) : Nat :=
  history.countP fun call => urlSet call.1 = urls

/-- How many of the calls with these URLs returned this one. -/
def returned (history : List (RouteArgs × RouteReply)) (urls : Finset String) (url : String) :
    Nat :=
  history.countP fun call => urlSet call.1 = urls ∧ urlOf call.2 = some url

/-- The sets of URLs that occur in the calls. -/
def urlSets (calls : List RouteArgs) : Finset (Finset String) := (calls.map urlSet).toFinset

variable (history : List (RouteArgs × RouteReply))

theorem callsWith_concat (args : RouteArgs) (reply : RouteReply) (urls : Finset String) :
    callsWith (history ++ [(args, reply)]) urls =
      callsWith history urls + if urlSet args = urls then 1 else 0 := by
  simp [callsWith, List.countP_append, List.countP_cons]

theorem returned_concat (args : RouteArgs)
    (reply : RouteReply) (urls : Finset String) (url : String) :
    returned (history ++ [(args, reply)]) urls url = returned history urls url +
      if urlSet args = urls ∧ urlOf reply = some url then 1 else 0 := by
  simp [returned, List.countP_append, List.countP_cons]

/-! `RoundRobinRouter`. -/

variable {args : RouteArgs} {calls : List RouteArgs} {reply : RouteReply} {url : String}

namespace RoundRobinRouter

def program (args : RouteArgs) : Prog (shared RoundRobinRouter routing) RouteReply :=
  routeRequest args ()

/-- Both tables are within their limit. -/
structure Bounded (router : RoundRobinRouter) : Prop where
  nextIndex : router.nextIndex.size ≤ maxCacheSize
  sortedCache : router.sortedCache.size ≤ maxCacheSize

theorem endpointKey_nextIndex (router : RoundRobinRouter) (urls : Finset String) :
    (router.endpointKey urls).2.nextIndex = router.nextIndex := by
  unfold endpointKey
  split
  · rfl
  · rfl

variable {router : RoundRobinRouter}

theorem Bounded.endpointKey (h : router.Bounded) (urls : Finset String) :
    (router.endpointKey urls).2.Bounded := by
  unfold RoundRobinRouter.endpointKey
  cases hcached : router.sortedCache.get? urls with
  | some key => exact h
  | none =>
    refine ⟨h.nextIndex, Dict.size_set_cleared (by decide) h.sortedCache _ _ ?_⟩
    intro hroom
    exact Or.inr (Nat.lt_of_not_le hroom)

theorem Bounded.advance (h : router.Bounded) (key : List String) :
    (router.advance key).2.Bounded := by
  refine ⟨Dict.size_set_cleared (by decide) h.nextIndex _ _ ?_, h.sortedCache⟩
  intro hroom
  by_cases hkey : key ∈ router.nextIndex
  · exact Or.inl hkey
  · exact Or.inr (Nat.lt_of_not_le fun hfull => hroom ⟨hfull, hkey⟩)

theorem bounded_init : init.Bounded := ⟨Nat.zero_le _, Nat.zero_le _⟩

/-- The router after a call with these URLs. -/
def served (router : RoundRobinRouter) (urls : Finset String) : RoundRobinRouter :=
  ((router.endpointKey urls).2.advance (router.endpointKey urls).1).2

/-- A call without endpoints leaves the router as it is. -/
theorem routeRequest_empty (hnil : args.endpoints = []) (router : RoundRobinRouter) :
    Ends unasked (program args) router fun reply router' =>
      router' = router ∧ urlOf reply = none := by
  unfold program routeRequest
  rw [hnil]
  exact ⟨_, router, rfl, rfl, rfl⟩

/-- A call returns the URL whose turn it is by the index of its set. -/
theorem routeRequest_turn (h : Sorted router) (hne : args.endpoints ≠ []) :
    Ends unasked (program args) router fun reply router' =>
      router' = router.served (urlSet args) ∧ ∃ url, urlOf reply = some url ∧
        turn (urlSet args).sort (router.nextIndex.getD (urlSet args).sort 0) = some url := by
  obtain ⟨hkey, -⟩ := endpointKey_spec h (urlSet args)
  have hsort : (urlSet args).sort ≠ [] := by
    obtain ⟨endpoint, hendpoint⟩ := List.exists_mem_of_ne_nil _ hne
    have hmem : endpoint.url ∈ (urlSet args).sort := by
      rw [Finset.mem_sort, urlSet, List.mem_toFinset]
      exact List.mem_map_of_mem hendpoint
    exact List.ne_nil_of_mem hmem
  obtain ⟨url, -, hturn⟩ := exists_turn hsort (router.nextIndex.getD (urlSet args).sort 0)
  have hurl : (router.endpointKey (urlSet args)).1[
      ((router.endpointKey (urlSet args)).2.advance (router.endpointKey (urlSet args)).1).1 %
        (router.endpointKey (urlSet args)).1.length]? = some url := by
    rw [hkey]
    simp only [advance, endpointKey_nextIndex]
    exact hturn
  have hcall : Finishes unasked (routeRequest args) router fun r router' =>
      router' = router.served (urlSet args) ∧ r = .ok (some url, args.requestJson) := by
    unfold routeRequest
    rw [if_neg (by simpa using hne)]
    apply finishes_get
    apply finishes_put
    split
    · next url' hurl' =>
        obtain rfl := Option.some.inj (hurl.symm.trans hurl')
        exact finishes_pure ⟨rfl, rfl⟩
    · next hnone => exact absurd (hurl.symm.trans hnone) (by simp)
  apply Ends.mono hcall
  intro reply router' hend
  obtain ⟨hrouter, hreply⟩ := hend
  refine ⟨hrouter, url, ?_, hturn⟩
  rw [urlOf, hreply]

theorem sort_inj {a b : Finset String} (h : a.sort = b.sort) : a = b := by
  have hset := congrArg List.toFinset h
  simpa using hset

/-- The index of a set is kept, unless there is a new key for a full table. -/
theorem served_nextIndex (h : Sorted router) {urls : Finset String}
    (hroom : urls.sort ∈ router.nextIndex ∨ router.nextIndex.size < maxCacheSize) :
    (router.served urls).nextIndex =
      router.nextIndex.set urls.sort (router.nextIndex.getD urls.sort 0 + 1) := by
  have hkept : ¬ (maxCacheSize ≤ router.nextIndex.size ∧ urls.sort ∉ router.nextIndex) := by
    rintro ⟨hfull, hnew⟩
    rcases hroom with hold | hlt
    · exact hnew hold
    · omega
  simp only [served, advance, endpointKey_nextIndex, (endpointKey_spec h urls).1, if_neg hkept]

/-- What holds after the calls of a run in which few sets of URLs occur: the index of a set
is the number of its calls, and its URLs have taken turns. -/
structure Rotates (calls : List RouteArgs) (history : List (RouteArgs × RouteReply))
    (router : RoundRobinRouter) : Prop where
  known : ∀ key ∈ router.nextIndex, ∃ args ∈ calls, key = (urlSet args).sort
  counted : ∀ urls : Finset String, urls.Nonempty →
    router.nextIndex.getD urls.sort 0 = callsWith history urls
  returned : ∀ (urls : Finset String) (url : String), urls.Nonempty →
    returned history urls url = turns urls.sort url (callsWith history urls)

theorem rotates_init (calls : List RouteArgs) : Rotates calls [] init where
  known _ hkey := absurd hkey List.not_mem_nil
  counted _ _ := rfl
  returned _ _ _ := rfl

variable {history : List (RouteArgs × RouteReply)}

/-- There is room for the sets that occur. -/
theorem Rotates.room (hfew : (urlSets calls).card ≤ maxCacheSize) (h : Rotates calls history router)
    (hargs : args ∈ calls) :
    (urlSet args).sort ∈ router.nextIndex ∨ router.nextIndex.size < maxCacheSize := by
  by_cases hkey : (urlSet args).sort ∈ router.nextIndex
  · exact Or.inl hkey
  · have hmem (args : RouteArgs) (hargs : args ∈ calls) :
        (urlSet args).sort ∈ (urlSets calls).image (Finset.sort ·) :=
      Finset.mem_image_of_mem _ (List.mem_toFinset.mpr (List.mem_map_of_mem hargs))
    have hsubset : insert (urlSet args).sort router.nextIndex.keys.toFinset ⊆
        (urlSets calls).image (Finset.sort ·) := by
      intro key member
      rcases Finset.mem_insert.mp member with rfl | member
      · exact hmem args hargs
      · obtain ⟨args', hargs', rfl⟩ := h.known key (List.mem_toFinset.mp member)
        exact hmem args' hargs'
    have hnew : (urlSet args).sort ∉ router.nextIndex.keys.toFinset := by
      rw [List.mem_toFinset]
      exact hkey
    have hcard := (Finset.card_le_card hsubset).trans Finset.card_image_le
    have hsize : router.nextIndex.keys.toFinset.card = router.nextIndex.size := by
      have hnodup : router.nextIndex.keys.Nodup := router.nextIndex.nodupKeys
      rw [List.toFinset_card_of_nodup hnodup]
      simp [Dict.keys, Dict.size]
    rw [Finset.card_insert_of_notMem hnew, hsize] at hcard
    exact Or.inr (by omega)

/-- A call without endpoints does not count. -/
theorem Rotates.empty (h : Rotates calls history router) (hnil : args.endpoints = [])
    (reply : RouteReply) : Rotates calls (history ++ [(args, reply)]) router := by
  have hurls : urlSet args = ∅ := by simp [urlSet, urlsOf, hnil]
  have hne (urls : Finset String) (hnonempty : urls.Nonempty) : ¬ urlSet args = urls := by
    rw [hurls]
    exact hnonempty.ne_empty.symm
  refine ⟨h.known, ?_, ?_⟩
  · intro urls hnonempty
    rw [callsWith_concat, if_neg (hne urls hnonempty)]
    exact h.counted urls hnonempty
  · intro urls url hnonempty
    rw [callsWith_concat, returned_concat, if_neg (hne urls hnonempty),
      if_neg fun hboth => hne urls hnonempty hboth.1]
    exact h.returned urls url hnonempty

theorem Rotates.turn (hfew : (urlSets calls).card ≤ maxCacheSize) (h : Rotates calls history router)
    (hsorted : Sorted router) (hargs : args ∈ calls) (hreply : urlOf reply = some url)
    (hturn : turn (urlSet args).sort (router.nextIndex.getD (urlSet args).sort 0) = some url) :
    Rotates calls (history ++ [(args, reply)]) (router.served (urlSet args)) := by
  have hnext := served_nextIndex hsorted (h.room hfew hargs)
  refine ⟨?_, ?_, ?_⟩
  · intro key hkey
    rw [hnext, Dict.mem_set] at hkey
    rcases hkey with rfl | hkey
    · exact ⟨args, hargs, rfl⟩
    · exact h.known key hkey
  · intro urls hnonempty
    rw [hnext, Dict.getD_set, callsWith_concat, ← h.counted urls hnonempty]
    by_cases hsame : urlSet args = urls
    · subst hsame
      rw [if_pos rfl, if_pos rfl]
    · rw [if_neg fun hsort => hsame (sort_inj hsort.symm), if_neg hsame, Nat.add_zero]
  · intro urls url' hnonempty
    rw [callsWith_concat, returned_concat, h.returned urls url' hnonempty]
    by_cases hsame : urlSet args = urls
    · subst hsame
      rw [if_pos rfl, turns_succ, ← h.counted _ hnonempty, hturn, hreply]
      simp
    · rw [if_neg hsame, if_neg fun hboth => hsame hboth.1, Nat.add_zero, Nat.add_zero]

/-- What holds after the calls of any run. -/
structure Kept (calls : List RouteArgs) (history : List (RouteArgs × RouteReply))
    (router : RoundRobinRouter) : Prop where
  sorted : Sorted router
  bounded : router.Bounded
  rotates : (urlSets calls).card ≤ maxCacheSize → Rotates calls history router

theorem kept_init (calls : List RouteArgs) : Kept calls [] init :=
  ⟨sorted_init, bounded_init, fun _ => rotates_init calls⟩

section Call

theorem Kept.empty (h : Kept calls history router) (hnil : args.endpoints = []) (reply : RouteReply)
    : Kept calls (history ++ [(args, reply)]) router :=
  ⟨h.sorted, h.bounded, fun hfew => (h.rotates hfew).empty hnil reply⟩

theorem Kept.turn (h : Kept calls history router) (hargs : args ∈ calls)
    (hreply : urlOf reply = some url)
    (hturn : turn (urlSet args).sort (router.nextIndex.getD (urlSet args).sort 0) = some url) :
    Kept calls (history ++ [(args, reply)]) (router.served (urlSet args)) where
  sorted := (endpointKey_spec h.sorted (urlSet args)).2
  bounded := (h.bounded.endpointKey (urlSet args)).advance _
  rotates hfew := (h.rotates hfew).turn hfew h.sorted hargs hreply hturn

theorem Kept.call (h : Kept calls history router) (hargs : args ∈ calls) :
    Ends unasked (program args) router fun reply router' =>
      Kept calls (history ++ [(args, reply)]) router' := by
  by_cases hnil : args.endpoints = []
  · apply (routeRequest_empty hnil router).mono
    intro reply router' hend
    obtain ⟨hrouter, _⟩ := hend
    rw [hrouter]
    exact h.empty hnil reply
  · apply (routeRequest_turn h.sorted hnil).mono
    intro reply router' hend
    obtain ⟨hrouter, url, hreply, hturn⟩ := hend
    rw [hrouter]
    exact h.turn hargs hreply hturn

end Call

/-- In every run the tables stay within 1024 keys. If no more sets of URLs occur, then for each
of them its URLs have been returned equally often up to one, by the calls with that set. -/
theorem round_robin_fair (calls : List RouteArgs) :
    ∃ history router, inTurn (fun _ => unasked) program init calls = some (history, router) ∧
      history.map Prod.fst = calls ∧
      router.nextIndex.size ≤ 1024 ∧ router.sortedCache.size ≤ 1024 ∧
      ((urlSets calls).card ≤ 1024 → ∀ urls : Finset String, ∀ a ∈ urls, ∀ b ∈ urls,
        returned history urls a ≤ returned history urls b + 1) := by
  have hcall : ∀ history router, Kept calls history router → ∀ args ∈ calls,
      Ends unasked (program args) router fun reply router' =>
        Kept calls (history ++ [(args, reply)]) router' :=
    fun history router h args hargs => h.call hargs
  obtain ⟨history, router, hrun, hcalls, hkept⟩ := inTurn_ends (kept_init calls) hcall
  refine ⟨history, router, hrun, hcalls, hkept.bounded.nextIndex, hkept.bounded.sortedCache, ?_⟩
  intro hfew urls a ha b hb
  have hrotates := hkept.rotates hfew
  rw [hrotates.returned urls a ⟨a, ha⟩, hrotates.returned urls b ⟨a, ha⟩]
  exact turns_fair (Finset.sort_nodup urls _) ((Finset.mem_sort _).mpr ha)
    ((Finset.mem_sort _).mpr hb) _

/-- Endpoints with these URLs. -/
def argsWith (urls : List String) : RouteArgs where
  endpoints := urls.map fun url => ⟨url, ["m"], url, none, false⟩
  requestStats := .empty
  headers := []
  requestJson := []

/-- Two sets with a URL in common, in several orders and with a repetition. -/
theorem round_robin_fair_overlap : ∃ history router,
    inTurn (fun _ => unasked) program init [argsWith ["a", "b"], argsWith ["b", "c"],
      argsWith ["b", "a", "b"], argsWith ["a", "b"]] = some (history, router) ∧
    returned history {"a", "b"} "a" ≤ returned history {"a", "b"} "b" + 1 := by
  obtain ⟨history, router, hrun, -, -, -, hfair⟩ := round_robin_fair
    [argsWith ["a", "b"], argsWith ["b", "c"], argsWith ["b", "a", "b"], argsWith ["a", "b"]]
  have hfew : (urlSets [argsWith ["a", "b"], argsWith ["b", "c"], argsWith ["b", "a", "b"],
      argsWith ["a", "b"]]).card ≤ 1024 := by
    decide
  exact ⟨history, router, hrun, hfair hfew _ "a" (by decide) "b" (by decide)⟩

end RoundRobinRouter

/-! `PriorityRouter`. -/

/-- `min` with a key over a sorted list is the best by the lowest key. -/
theorem firstBest_isBest (load : String → Int) {urls : List String}
    (hsorted : urls.Pairwise (· ≤ ·)) (hne : urls ≠ []) :
    ∃ url, firstBest (fun url best => decide (load url < load best)) urls = some url ∧
      IsBest {u | u ∈ urls} (fun u => -load u) url := by
  cases urls with
  | nil => exact absurd rfl hne
  | cons first rest =>
    have hbest := IsBest.of_sorted (fun u => -load u) hsorted
    refine ⟨_, rfl, ?_⟩
    simpa using hbest

namespace PriorityRouter

variable (router : PriorityRouter)

def program (args : RouteArgs) : Prog (shared (Dict (List String) Nat) routing) RouteReply :=
  router.routeRequest args ()

/-- The priority is below the threshold. -/
def urgent (args : RouteArgs) : Bool :=
  match router.extractPriority args with
  | .ok priority => priority < router.priorityThreshold
  | .error _ => false

/-- The other calls that have a priority take turns. -/
def rotates (args : RouteArgs) : Bool :=
  match router.extractPriority args with
  | .ok priority => router.priorityThreshold ≤ priority
  | .error _ => false

def sortedUrls (args : RouteArgs) : List String := (urlsOf args.endpoints).insertionSort (· ≤ ·)

/-- The lexicographically first of the least-loaded URLs. -/
def LeastLoaded (args : RouteArgs) (url : String) : Prop :=
  IsBest {u | u ∈ urlsOf args.endpoints} (fun u => -engineLoad args.requestStats u) url

variable {router}

theorem sortedUrls_ne_nil (hne : args.endpoints ≠ []) : sortedUrls args ≠ [] := by
  intro hnil
  have hlength := congrArg List.length hnil
  rw [sortedUrls, List.length_insertionSort, urlsOf, List.length_map] at hlength
  exact hne (List.length_eq_zero_iff.mp hlength)

theorem routeRequest_empty (hnil : args.endpoints = []) (table : Dict (List String) Nat) :
    Ends unasked (router.program args) table fun reply table' =>
      table' = table ∧ urlOf reply = none := by
  unfold program routeRequest
  rw [hnil]
  exact ⟨_, table, rfl, rfl, rfl⟩

/-- A call whose priority is below the threshold. -/
theorem routeRequest_urgent (hurgent : router.urgent args = true) (hne : args.endpoints ≠ [])
    (table : Dict (List String) Nat) : Ends unasked (router.program args) table fun reply table' =>
      table' = table ∧ ∃ url, urlOf reply = some url ∧ LeastLoaded args url := by
  obtain ⟨url, hfirst, hbest⟩ := firstBest_isBest (engineLoad args.requestStats)
    (List.pairwise_insertionSort (· ≤ ·) (urlsOf args.endpoints)) (sortedUrls_ne_nil hne)
  have hset : {u | u ∈ sortedUrls args} = {u | u ∈ urlsOf args.endpoints} := by
    ext u
    simp [sortedUrls]
  have hleast : LeastLoaded args url := by
    unfold LeastLoaded
    rw [← hset]
    exact hbest
  unfold urgent at hurgent
  cases hpriority : router.extractPriority args with
  | error e => simp [hpriority] at hurgent
  | ok priority =>
    have hbelow : priority < router.priorityThreshold := by simpa [hpriority] using hurgent
    have hcall : Finishes unasked (router.routeRequest args) table fun r table' =>
        table' = table ∧ ∃ url json, r = .ok (some url, json) ∧ LeastLoaded args url := by
      unfold routeRequest
      rw [if_neg (by simpa using hne), hpriority]
      apply finishes_ofExcept_bind
      · intro priority' hok
        obtain rfl : priority = priority' := Except.ok.inj hok
        rw [if_pos hbelow]
        exact finishes_pure ⟨rfl, url, _, congrArg (fun u => Except.ok (u, _)) hfirst, hleast⟩
      · intro e herror
        cases herror
    apply Ends.mono hcall
    intro reply table' hend
    obtain ⟨htable, url, json, hreply, hleast⟩ := hend
    refine ⟨htable, url, ?_, hleast⟩
    rw [urlOf, hreply]

/-- A call whose priority cannot be resolved raises. -/
theorem routeRequest_unresolved {e : PyExc} (hpriority : router.extractPriority args = .error e)
    (table : Dict (List String) Nat) :
    Ends unasked (router.program args) table fun _ table' => table' = table := by
  unfold program routeRequest
  split
  · exact ⟨_, table, rfl, rfl⟩
  · rw [hpriority]
    exact ⟨_, table, rfl, rfl⟩

theorem routeRequest_rotates (hrotates : router.rotates args = true) (hne : args.endpoints ≠ [])
    (table : Dict (List String) Nat) : Ends unasked (router.program args) table fun reply table' =>
      table' = table.set (sortedUrls args) (table.getD (sortedUrls args) 0 + 1) ∧
      urlOf reply = turn (sortedUrls args) (table.getD (sortedUrls args) 0) := by
  obtain ⟨url, -, hturn⟩ :=
    exists_turn (sortedUrls_ne_nil hne) (table.getD (sortedUrls args) 0)
  unfold rotates at hrotates
  cases hpriority : router.extractPriority args with
  | error e => simp [hpriority] at hrotates
  | ok priority =>
    have habove : ¬ priority < router.priorityThreshold := by simpa [hpriority] using hrotates
    have hcall : Finishes unasked (router.routeRequest args) table fun r table' =>
        table' = table.set (sortedUrls args) (table.getD (sortedUrls args) 0 + 1) ∧
        ∃ json, r = .ok (some url, json) := by
      unfold routeRequest
      rw [if_neg (by simpa using hne), hpriority]
      apply finishes_ofExcept_bind
      · intro priority' hok
        obtain rfl : priority = priority' := Except.ok.inj hok
        rw [if_neg habove]
        apply finishes_get
        apply finishes_put
        split
        · next url' hurl' =>
            obtain rfl := Option.some.inj (hturn.symm.trans hurl')
            exact finishes_pure ⟨rfl, _, rfl⟩
        · next hnone => exact absurd (hturn.symm.trans hnone) (by simp)
      · intro e herror
        cases herror
    apply Ends.mono hcall
    intro reply table' hend
    obtain ⟨htable, json, hreply⟩ := hend
    refine ⟨htable, ?_⟩
    rw [hturn, urlOf, hreply]

/-- Without repetitions the key is that of the round-robin router. -/
theorem sortedUrls_eq (hnodup : (urlsOf args.endpoints).Nodup) :
    sortedUrls args = (urlSet args).sort := by
  have hperm := List.perm_insertionSort (· ≤ ·) (urlsOf args.endpoints)
  have hset : (sortedUrls args).toFinset = urlSet args := List.toFinset_eq_of_perm _ _ hperm
  have hsorted : (sortedUrls args).toFinset.sort (· ≤ ·) = sortedUrls args :=
    (List.toFinset_sort (· ≤ ·) (hperm.nodup_iff.mpr hnodup)).mpr
      (List.pairwise_insertionSort (· ≤ ·) _)
  rw [← hset, hsorted]

theorem not_urgent_of_rotates (h : router.rotates args = true) : router.urgent args = false := by
  unfold rotates at h
  unfold urgent
  cases hpriority : router.extractPriority args with
  | error e => rfl
  | ok priority =>
    rw [hpriority] at h
    simpa using h

/-- A call that does not take turns leaves the table as it is. -/
theorem routeRequest_aside (haside : router.rotates args = false) (table : Dict (List String) Nat) :
    Ends unasked (router.program args) table fun reply table' => table' = table ∧
      (router.urgent args = true → args.endpoints ≠ [] →
        ∃ url, urlOf reply = some url ∧ LeastLoaded args url) := by
  by_cases hnil : args.endpoints = []
  · apply (routeRequest_empty hnil table).mono
    intro reply table' hend
    obtain ⟨htable, _⟩ := hend
    exact ⟨htable, fun _ hne => absurd hnil hne⟩
  · cases hpriority : router.extractPriority args with
    | error e =>
      have hcalm : router.urgent args = false := by simp [urgent, hpriority]
      apply (routeRequest_unresolved hpriority table).mono
      intro reply table' htable
      exact ⟨htable, by simp [hcalm]⟩
    | ok priority =>
      have hurgent : router.urgent args = true := by
        simpa [urgent, rotates, hpriority] using haside
      apply (routeRequest_urgent hurgent hnil table).mono
      intro reply table' hend
      obtain ⟨htable, hleast⟩ := hend
      exact ⟨htable, fun _ _ => hleast⟩

/-- The calls of a history that take turns. -/
def rotating (router : PriorityRouter) (history : List (RouteArgs × RouteReply)) :
    List (RouteArgs × RouteReply) :=
  history.filter fun call => router.rotates call.1

section Concat

variable (reply : RouteReply)

theorem inputs_aside (h : router.rotates args = false) :
    ((history ++ [(args, reply)]).map Prod.fst).filter router.rotates =
      (history.map Prod.fst).filter router.rotates := by
  simp [h]

theorem rotating_aside (h : router.rotates args = false) :
    router.rotating (history ++ [(args, reply)]) = router.rotating history := by
  simp [rotating, h]

theorem inputs_rotates (h : router.rotates args = true) :
    ((history ++ [(args, reply)]).map Prod.fst).filter router.rotates =
      (history.map Prod.fst).filter router.rotates ++ [args] := by
  simp [h]

theorem rotating_rotates (h : router.rotates args = true) :
    router.rotating (history ++ [(args, reply)]) = router.rotating history ++ [(args, reply)] := by
  simp [rotating, h]

end Concat

/-- What holds after the calls of any run: those whose priority is below the threshold went to
the least-loaded URL, and without them the router would have done the same. -/
structure Undisturbed (router : PriorityRouter) (history : List (RouteArgs × RouteReply))
    (table : Dict (List String) Nat) : Prop where
  least : ∀ args reply, (args, reply) ∈ history → router.urgent args = true →
    args.endpoints ≠ [] → ∃ url, urlOf reply = some url ∧ LeastLoaded args url
  run : inTurn (fun _ => unasked) router.program .empty
    ((history.map Prod.fst).filter router.rotates) = some (router.rotating history, table)

theorem undisturbed_init : Undisturbed router [] .empty := ⟨by simp, rfl⟩

/-- A round-robin router that is given the calls that take turns has returned the same URLs
and has the same table. -/
structure Simulates (router : PriorityRouter) (calls : List RouteArgs)
    (history : List (RouteArgs × RouteReply)) (table : Dict (List String) Nat)
    (turned : List (RouteArgs × RouteReply)) (roundRobin : RoundRobinRouter) : Prop where
  run : inTurn (fun _ => unasked) RoundRobinRouter.program .init
    ((history.map Prod.fst).filter router.rotates) = some (turned, roundRobin)
  kept : RoundRobinRouter.Kept calls turned roundRobin
  same : table = roundRobin.nextIndex
  urls : (router.rotating history).map (fun call => urlOf call.2) =
    turned.map fun call => urlOf call.2

theorem simulates_init (calls : List RouteArgs) : Simulates router calls [] .empty [] .init :=
  ⟨rfl, RoundRobinRouter.kept_init calls, rfl, rfl⟩

section Simulation

variable {history turned : List (RouteArgs × RouteReply)} {table table' : Dict (List String) Nat}
  {roundRobin roundRobin' : RoundRobinRouter} {reply' : RouteReply}

theorem Undisturbed.aside (h : Undisturbed router history table)
    (haside : router.rotates args = false)
    (hlast : router.urgent args = true → args.endpoints ≠ [] →
      ∃ url, urlOf reply = some url ∧ LeastLoaded args url) :
    Undisturbed router (history ++ [(args, reply)]) table := by
  refine ⟨forall_mem_concat h.least hlast, ?_⟩
  rw [inputs_aside history reply haside, rotating_aside history reply haside]
  exact h.run

theorem Undisturbed.rotates (h : Undisturbed router history table)
    (hrotates : router.rotates args = true)
    (halone : alone unasked (router.program args) table = some (reply, table')) :
    Undisturbed router (history ++ [(args, reply)]) table' := by
  have hcalm := not_urgent_of_rotates hrotates
  refine ⟨forall_mem_concat h.least (by simp [hcalm]), ?_⟩
  rw [inputs_rotates history reply hrotates, rotating_rotates history reply hrotates,
    inTurn_concat, h.run]
  simp [serve, halone]

section Step

variable (h : Simulates router calls history table turned roundRobin)

include h

theorem Simulates.aside (haside : router.rotates args = false) (reply : RouteReply) :
    Simulates router calls (history ++ [(args, reply)]) table turned roundRobin := by
  refine ⟨?_, h.kept, h.same, ?_⟩
  · rw [inputs_aside history reply haside]
    exact h.run
  · rw [rotating_aside history reply haside]
    exact h.urls

/-- A call that takes its turn, in both routers. -/
theorem Simulates.both (hrotates : router.rotates args = true)
    (halone : alone unasked (RoundRobinRouter.program args) roundRobin = some (reply', roundRobin'))
    (hkept : RoundRobinRouter.Kept calls (turned ++ [(args, reply')]) roundRobin')
    (hsame : table' = roundRobin'.nextIndex) (hurl : urlOf reply = urlOf reply') :
    Simulates router calls (history ++ [(args, reply)]) table' (turned ++ [(args, reply')])
      roundRobin' := by
  refine ⟨?_, hkept, hsame, ?_⟩
  · rw [inputs_rotates history reply hrotates, inTurn_concat, h.run]
    simp [serve, halone]
  · rw [rotating_rotates history reply hrotates, List.map_append, List.map_append, h.urls]
    simp [hurl]

theorem Simulates.empty (hrotates : router.rotates args = true) (hnil : args.endpoints = [])
    (hnone : urlOf reply = none) : ∃ turned' roundRobin',
      Simulates router calls (history ++ [(args, reply)]) table turned' roundRobin' := by
  obtain ⟨reply', roundRobin', halone, rfl, hnone'⟩ :=
    RoundRobinRouter.routeRequest_empty hnil roundRobin
  exact ⟨_, _, h.both hrotates halone (h.kept.empty hnil reply') h.same (hnone.trans hnone'.symm)⟩

theorem Simulates.turn (hfew : (urlSets calls).card ≤ RoundRobinRouter.maxCacheSize)
    (hargs : args ∈ calls)
    (hdistinct : (urlsOf args.endpoints).Nodup) (hrotates : router.rotates args = true)
    (hne : args.endpoints ≠ [])
    (hturn : urlOf reply = turn (sortedUrls args) (table.getD (sortedUrls args) 0)) :
    ∃ turned' roundRobin', Simulates router calls (history ++ [(args, reply)])
      (table.set (sortedUrls args) (table.getD (sortedUrls args) 0 + 1)) turned' roundRobin' := by
  obtain ⟨reply', roundRobin', halone, rfl, url, hurl, hturn'⟩ :=
    RoundRobinRouter.routeRequest_turn h.kept.sorted hne
  have hroom := (h.kept.rotates hfew).room hfew hargs
  have hkey := sortedUrls_eq hdistinct
  rw [hkey, h.same] at hturn
  refine ⟨_, _, h.both hrotates halone (h.kept.turn hargs hurl hturn') ?_ ?_⟩
  · rw [RoundRobinRouter.served_nextIndex h.kept.sorted hroom, hkey, h.same]
  · rw [hturn, hturn', hurl]

end Step

end Simulation

/-- Few sets of URLs, and no repetitions in the lists of the calls that take turns. -/
structure Distinct (router : PriorityRouter) (calls : List RouteArgs) : Prop where
  few : (urlSets calls).card ≤ 1024
  nodup : ∀ args ∈ calls, router.rotates args = true → (urlsOf args.endpoints).Nodup

structure Kept (router : PriorityRouter) (calls : List RouteArgs)
    (history : List (RouteArgs × RouteReply)) (table : Dict (List String) Nat) : Prop where
  undisturbed : Undisturbed router history table
  simulates : Distinct router calls → ∃ turned roundRobin,
    Simulates router calls history table turned roundRobin

theorem Kept.call {history : List (RouteArgs × RouteReply)}
    {table : Dict (List String) Nat} (h : Kept router calls history table) (hargs : args ∈ calls) :
    Ends unasked (router.program args) table fun reply table' =>
      Kept router calls (history ++ [(args, reply)]) table' := by
  cases hrotates : router.rotates args with
  | false =>
    apply (routeRequest_aside hrotates table).mono
    intro reply table' hend
    obtain ⟨htable, hleast⟩ := hend
    rw [htable]
    refine ⟨h.undisturbed.aside hrotates hleast, ?_⟩
    intro hdistinct
    obtain ⟨turned, roundRobin, hsimulates⟩ := h.simulates hdistinct
    exact ⟨turned, roundRobin, hsimulates.aside hrotates reply⟩
  | true =>
    by_cases hnil : args.endpoints = []
    · obtain ⟨reply, table', halone, rfl, hnone⟩ : Ends unasked (router.program args) table
          fun reply table' => table' = table ∧ urlOf reply = none :=
        routeRequest_empty hnil table
      refine ⟨reply, table', halone, h.undisturbed.rotates hrotates halone, ?_⟩
      intro hdistinct
      obtain ⟨turned, roundRobin, hsimulates⟩ := h.simulates hdistinct
      exact hsimulates.empty hrotates hnil hnone
    · obtain ⟨reply, table', halone, rfl, hturn⟩ := routeRequest_rotates hrotates hnil table
      refine ⟨reply, _, halone, h.undisturbed.rotates hrotates halone, ?_⟩
      intro hdistinct
      obtain ⟨turned, roundRobin, hsimulates⟩ := h.simulates hdistinct
      exact hsimulates.turn hdistinct.few hargs (hdistinct.nodup args hargs hrotates) hrotates
        hnil hturn

/-- In every run a call whose priority is below the threshold goes to the first of the
least-loaded URLs, and the run without these calls returns the same to the others. If the lists
of the others have no repetitions, and at most 1024 sets of URLs occur, they get the URLs that a
new round-robin router returns for them. -/
theorem priority_refines_round_robin (router : PriorityRouter) (calls : List RouteArgs) :
    ∃ history table, inTurn (fun _ => unasked) router.program .empty calls =
        some (history, table) ∧
      history.map Prod.fst = calls ∧
      (∀ args reply, (args, reply) ∈ history → router.urgent args = true →
        args.endpoints ≠ [] → ∃ url, urlOf reply = some url ∧ LeastLoaded args url) ∧
      inTurn (fun _ => unasked) router.program .empty (calls.filter router.rotates) =
        some (router.rotating history, table) ∧
      (Distinct router calls → ∃ turned roundRobin,
        inTurn (fun _ => unasked) RoundRobinRouter.program .init (calls.filter router.rotates) =
          some (turned, roundRobin) ∧
        (router.rotating history).map (fun call => urlOf call.2) =
          turned.map fun call => urlOf call.2) := by
  have hinit : Kept router calls [] .empty :=
    ⟨undisturbed_init, fun _ => ⟨[], .init, simulates_init calls⟩⟩
  have hcall : ∀ history table, Kept router calls history table → ∀ args ∈ calls,
      Ends unasked (router.program args) table fun reply table' =>
        Kept router calls (history ++ [(args, reply)]) table' :=
    fun history table h args hargs => h.call hargs
  obtain ⟨history, table, hrun, hcalls, hkept⟩ := inTurn_ends hinit hcall
  have hundisturbed := hkept.undisturbed.run
  rw [hcalls] at hundisturbed
  refine ⟨history, table, hrun, hcalls, hkept.undisturbed.least, hundisturbed, ?_⟩
  intro hdistinct
  obtain ⟨turned, roundRobin, hsimulates⟩ := hkept.simulates hdistinct
  have hturned := hsimulates.run
  rw [hcalls] at hturned
  exact ⟨turned, roundRobin, hturned, hsimulates.urls⟩

def urgentArgs (urls : List String) : RouteArgs :=
  { RoundRobinRouter.argsWith urls with requestJson := [("priority", .int (-1))] }

/-- A call of high priority, with a repetition, between two that take turns. -/
theorem priority_refines_mixed : ∃ history table,
    inTurn (fun _ => unasked) standard.program .empty [RoundRobinRouter.argsWith ["a", "b"],
      urgentArgs ["b", "b", "a"], RoundRobinRouter.argsWith ["b", "a"]] = some (history, table) ∧
    ∃ turned roundRobin, inTurn (fun _ => unasked) RoundRobinRouter.program .init
        [RoundRobinRouter.argsWith ["a", "b"], RoundRobinRouter.argsWith ["b", "a"]] =
          some (turned, roundRobin) ∧
      (standard.rotating history).map (fun call => urlOf call.2) =
        turned.map fun call => urlOf call.2 := by
  obtain ⟨history, table, hrun, -, -, -, hrefines⟩ := priority_refines_round_robin standard
    [RoundRobinRouter.argsWith ["a", "b"], urgentArgs ["b", "b", "a"],
      RoundRobinRouter.argsWith ["b", "a"]]
  have hdistinct : Distinct standard [RoundRobinRouter.argsWith ["a", "b"],
      urgentArgs ["b", "b", "a"], RoundRobinRouter.argsWith ["b", "a"]] := by
    constructor
    · decide
    · decide
  exact ⟨history, table, hrun, hrefines hdistinct⟩

/-- A list with a repetition, twice, and the round-robin router. -/
theorem round_robin_repeats : (inTurn (fun _ => unasked) RoundRobinRouter.program .init
      [RoundRobinRouter.argsWith ["a", "a", "b"], RoundRobinRouter.argsWith ["a", "a", "b"]]).map
        (fun run => run.1.map fun call => urlOf call.2) = some [some "a", some "b"] := by
  let args := RoundRobinRouter.argsWith ["a", "a", "b"]
  have hne : args.endpoints ≠ [] := List.cons_ne_nil _ _
  have hset : urlSet args = ["a", "b"].toFinset := by decide
  have hsort : (urlSet args).sort = ["a", "b"] := by
    rw [hset]
    exact (List.toFinset_sort (· ≤ ·) (by decide)).mpr (by decide)
  have hkept := RoundRobinRouter.kept_init [args]
  obtain ⟨reply, router, hfirst, hrouter, url, hurl, hturn⟩ :=
    RoundRobinRouter.routeRequest_turn hkept.sorted hne
  have hkept' := hkept.turn List.mem_cons_self hurl hturn
  obtain ⟨reply', router', hsecond, -, url', hurl', hturn'⟩ :=
    RoundRobinRouter.routeRequest_turn hkept'.sorted hne
  have hroom : (urlSet args).sort ∈ RoundRobinRouter.init.nextIndex ∨
      RoundRobinRouter.init.nextIndex.size < RoundRobinRouter.maxCacheSize := Or.inr (by decide)
  rw [RoundRobinRouter.served_nextIndex hkept.sorted hroom, hsort] at hturn'
  rw [hsort] at hturn
  have hurl : urlOf reply = some "a" := hurl.trans hturn.symm
  have hurl' : urlOf reply' = some "b" := hurl'.trans hturn'.symm
  rw [hrouter] at hfirst
  have hone : inTurn (fun _ => unasked) RoundRobinRouter.program .init [args] =
      some ([(args, reply)], RoundRobinRouter.served .init (urlSet args)) := by
    simp [inTurn, serve, hfirst]
  show (inTurn (fun _ => unasked) RoundRobinRouter.program .init ([args] ++ [args])).map _ = _
  rw [inTurn_concat, hone, Option.bind_some, serve, hsecond]
  simp [hurl, hurl']

/-- A URL that is listed twice gets two turns in a row from the priority router. -/
theorem priority_repeats_url :
    (inTurn (fun _ => unasked) standard.program .empty
      [RoundRobinRouter.argsWith ["a", "a", "b"], RoundRobinRouter.argsWith ["a", "a", "b"]]).map
        (fun run => run.1.map fun call => urlOf call.2) = some [some "a", some "a"] ∧
    (inTurn (fun _ => unasked) RoundRobinRouter.program .init
      [RoundRobinRouter.argsWith ["a", "a", "b"], RoundRobinRouter.argsWith ["a", "a", "b"]]).map
        (fun run => run.1.map fun call => urlOf call.2) = some [some "a", some "b"] := by
  constructor
  · decide +kernel
  · exact round_robin_repeats

end PriorityRouter

end ProductionStack.Routing

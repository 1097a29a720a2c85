import Mathlib.Data.Finset.Sort
import ProductionStack.Routing.TrieSequential

/-!
The prefix-aware router over its calls. A prompt that was sent to an endpoint is
recorded, and so a later call with that prompt is sent where a request with this
prefix was sent before, as long as the endpoint is still available. What a call
needs is a prompt it can read: which bodies have one is said by `HasPrompt`.
-/

namespace ProductionStack.Routing

open Lib Python Stats Request HashTrie

/-- One call of `route_request`, and what `random.choice` picks in it. -/
structure PrefixCall where
  args : RouteArgs
  pick : Finset String → String
  picks : ∀ options : Finset String, options.Nonempty → pick options ∈ options

namespace PrefixCall

variable (call : PrefixCall)

def answers : (query : Query) → Option query.Answer
  | .lock _ => some (.ok ())
  | .choice options => some (call.pick options)
  | _ => none

theorem answers_lock (i : Nat) : call.answers (.lock i) = some (.ok ()) := rfl

theorem answers_allowed (query : Query) (answer : query.Answer)
    (h : call.answers query = some answer) : query.allowed answer := by
  cases query with
  | lock node => exact trivial
  | choice options =>
    obtain rfl := Option.some.inj h
    exact call.picks options
  | _ => cases h

def prompt : Except PyExc Json := requestPrompt call.args.requestJson

theorem requestPrompt_eq : requestPrompt call.args.requestJson = call.prompt := rfl

def available : Finset String := urlSet call.args

end PrefixCall

variable {chunks : List Nat} {prompt : Json} {hash : String → Nat} {reply : RouteReply}
  {fields : List (String × Json)}

namespace PrefixAwareRouter

variable (router : PrefixAwareRouter)

def program (call : PrefixCall) : Prog (shared HashTrie routing) RouteReply :=
  router.routeRequest call.args ()

/-- The hashes under which the prompt of a call is recorded. -/
def promptHashes (call : PrefixCall) : Except PyExc (List Nat) := do
  let prompt ← call.prompt
  chunkAndHash router.hash prompt

/-! One call. -/

section Call

variable {router} {call : PrefixCall} {inserted : List Nat → String → Prop}

theorem longestPrefixMatch_finishes (hhashed : chunkAndHash router.hash prompt = .ok chunks)
    (available : Finset String) (trie : HashTrie) :
    Finishes call.answers (longestPrefixMatch router.hash prompt available) trie fun r trie' =>
      trie' = trie ∧ ∃ more selected, r = .ok (0 + chunkSize * more.length, selected) ∧
        Deepest trie chunks 0 available more selected := by
  unfold longestPrefixMatch
  rw [hhashed]
  show Finishes call.answers (matchChunks chunks 0 0 available) trie _
  rw [matchChunks_eq]
  exact matchChunksBy_finishes call.answers_lock chunkSize chunks 0 0 available trie

/-- The selected endpoint is recorded with the prompt and returned. -/
theorem select_finishes (hhashed : chunkAndHash router.hash prompt = .ok chunks)
    (url : String) (trie : HashTrie) :
    Finishes call.answers (router.select call.args prompt url) trie fun r trie' =>
      r = .ok (some url, call.args.requestJson) ∧ ∀ inserted, Records inserted trie →
        Records (alsoInserted inserted chunks url) trie' := by
  have hinsert : Finishes call.answers (insertPrompt router.hash prompt url) trie fun r trie' =>
      r = .ok () ∧ ∀ inserted, Records inserted trie →
        Records (alsoInserted inserted chunks url) trie' := by
    obtain ⟨r, trie', halone, hr⟩ := insertion_finishes call.answers_lock url hhashed trie
    refine ⟨r, trie', halone, hr, ?_⟩
    intro inserted hrecords
    -- the run is the one that the rule for a recorded trie speaks of
    obtain ⟨r', trie'', halone', -, hrecords'⟩ :=
      Records.insertion call.answers_lock call.answers_allowed hrecords url hhashed
    have hsame := Option.some.inj (halone.symm.trans halone')
    rw [(Prod.mk.inj hsame).2]
    exact hrecords'
  apply hinsert.seq
  · intro _ trie' hend
    obtain ⟨_, hrecords⟩ := hend
    exact finishes_pure ⟨rfl, hrecords⟩
  · intro e trie' hend
    obtain ⟨hr, _⟩ := hend
    cases hr

/-- How a call that can read its prompt decides: `more` of its chunks are found, and from the
minimal length on it goes to one of the endpoints that are found with them. -/
structure Decides (router : PrefixAwareRouter) (call : PrefixCall) (chunks : List Nat)
    (trie : HashTrie) (url : String) (more : List Nat) (selected : Finset String) : Prop where
  deepest : Deepest trie chunks 0 call.available more selected
  listed : url ∈ urlsOf call.args.endpoints
  matched : router.prefixMinMatchLength ≤ chunkSize * more.length → url ∈ selected

theorem promptHashes_ok (h : router.promptHashes call = .ok chunks) :
    ∃ prompt, call.prompt = .ok prompt ∧ chunkAndHash router.hash prompt = .ok chunks := by
  unfold promptHashes at h
  cases hprompt : call.prompt with
  | error e =>
    rw [hprompt] at h
    cases h
  | ok prompt =>
    rw [hprompt] at h
    exact ⟨prompt, rfl, h⟩

/-- With a prompt and endpoints. -/
theorem routeRequest_decides (hchunks : router.promptHashes call = .ok chunks)
    (hne : call.args.endpoints ≠ []) (trie : HashTrie) :
    Ends call.answers (router.program call) trie fun reply trie' => ∃ url,
      reply.1 = .ok (some url, call.args.requestJson) ∧
      (∃ more selected, Decides router call chunks trie url more selected) ∧
      ∀ inserted, Records inserted trie → Records (alsoInserted inserted chunks url) trie' := by
  obtain ⟨prompt, hprompt, hhashed⟩ := promptHashes_ok hchunks
  have havailable : call.available.Nonempty := by
    simpa [PrefixCall.available, urlSet, urlsOf] using hne
  have hcall : Finishes call.answers (router.routeRequest call.args) trie fun r trie' => ∃ url,
      r = .ok (some url, call.args.requestJson) ∧
      (∃ more selected, Decides router call chunks trie url more selected) ∧
      ∀ inserted, Records inserted trie → Records (alsoInserted inserted chunks url) trie' := by
    unfold routeRequest
    rw [call.requestPrompt_eq, hprompt]
    apply (longestPrefixMatch_finishes hhashed call.available trie).seq
    · rintro ⟨matchLength, matched⟩ _ ⟨rfl, more, selected, hresult, hdeepest⟩
      obtain ⟨rfl, rfl⟩ := Prod.mk.inj (Except.ok.inj hresult)
      dsimp only
      split
      · next hless =>
          obtain ⟨url, hlisted, hqps⟩ := qpsRouting_mem hne call.args.requestStats
          rw [hqps]
          apply (select_finishes hhashed url _).mono
          intro r trie' hend
          obtain ⟨hr, hrecords⟩ := hend
          refine ⟨url, hr, ⟨more, _, hdeepest, hlisted, ?_⟩, hrecords⟩
          intro hle
          push_cast at hless
          omega
      · have hnonempty : matched.Nonempty := by
          by_cases hnil : more = []
          · obtain ⟨e, he⟩ := havailable
            rw [hnil] at hdeepest
            exact ⟨e, (hdeepest.mem e).mpr ⟨he, trivial⟩⟩
          · exact hdeepest.nonempty hnil
        rw [if_neg hnonempty.ne_empty]
        have hanswer : call.answers (.choice matched) = some (call.pick matched) := rfl
        apply finishes_ask hanswer
        apply (select_finishes hhashed _ _).mono
        intro r trie' hend
        obtain ⟨hr, hrecords⟩ := hend
        have hpick := call.picks matched hnonempty
        have hlisted := List.mem_toFinset.mp ((hdeepest.mem _).mp hpick).1
        exact ⟨_, hr, ⟨more, _, hdeepest, hlisted, fun _ => hpick⟩, hrecords⟩
    · rintro e trie' ⟨-, more, selected, hr, -⟩
      cases hr
  exact hcall

/-- A prompt that cannot be read is raised about before the trie is changed. -/
theorem routeRequest_unreadable {e : PyExc} (h : router.promptHashes call = .error e)
    (trie : HashTrie) : Ends call.answers (router.program call) trie fun reply trie' =>
      trie' = trie ∧ reply.1 = .error (.error e) := by
  have hcall : Finishes call.answers (router.routeRequest call.args) trie fun r trie' =>
      trie' = trie ∧ r = .error (.error e) := by
    unfold promptHashes at h
    unfold routeRequest
    cases hprompt : call.prompt with
    | error e' =>
      rw [hprompt] at h
      rw [call.requestPrompt_eq, hprompt]
      exact ⟨_, trie, rfl, rfl, congrArg (Except.error ∘ Raised.error) (Except.error.inj h)⟩
    | ok prompt =>
      rw [hprompt] at h
      have hhashed : chunkAndHash router.hash prompt = .error e := h
      have hmatch : Finishes call.answers
          (longestPrefixMatch router.hash prompt call.available) trie fun r trie' =>
            trie' = trie ∧ r = .error (.error e) := by
        unfold longestPrefixMatch
        rw [hhashed]
        exact ⟨_, trie, rfl, rfl, rfl⟩
      rw [call.requestPrompt_eq, hprompt]
      apply hmatch.seq
      · intro result trie' hend
        obtain ⟨_, hr⟩ := hend
        cases hr
      · intro e' trie' hend
        obtain ⟨htrie, hr⟩ := hend
        exact ⟨htrie, congrArg Except.error (Except.error.inj hr)⟩
  exact hcall

/-- Without endpoints nothing is selected. -/
theorem routeRequest_unavailable (hnil : call.args.endpoints = []) (trie : HashTrie) :
    Ends call.answers (router.program call) trie fun reply trie' =>
      trie' = trie ∧ ∀ url json, reply.1 ≠ .ok (some url, json) := by
  cases hchunks : router.promptHashes call with
  | error e =>
    apply (routeRequest_unreadable hchunks trie).mono
    intro reply trie' hend
    obtain ⟨htrie, hreply⟩ := hend
    rw [hreply]
    exact ⟨htrie, by simp⟩
  | ok chunks =>
    obtain ⟨prompt, hprompt, hhashed⟩ := promptHashes_ok hchunks
    have hcall : Finishes call.answers (router.routeRequest call.args) trie fun r trie' =>
        trie' = trie ∧ ∀ url json, r ≠ .ok (some url, json) := by
      unfold routeRequest
      rw [call.requestPrompt_eq, hprompt]
      apply (longestPrefixMatch_finishes hhashed call.available trie).seq
      · rintro ⟨matchLength, matched⟩ _ ⟨rfl, more, selected, hresult, hdeepest⟩
        obtain ⟨-, rfl⟩ := Prod.mk.inj (Except.ok.inj hresult)
        have hempty : matched = ∅ := by
          ext e
          rw [hdeepest.mem e]
          simp [PrefixCall.available, urlSet, hnil, urlsOf]
        dsimp only
        split
        · rw [hnil]
          exact finishes_pure ⟨rfl, by simp⟩
        · exact finishes_raise ⟨rfl, by simp⟩
      · rintro e trie' ⟨-, more, selected, hr, -⟩
        cases hr
    exact hcall

end Call

/-! The calls of a run. -/

/-- The endpoint was returned by one of the calls, for a prompt with these hashes. -/
def routedWith (history : List (PrefixCall × RouteReply)) (chunks : List Nat) (url : String) :
    Prop :=
  ∃ call reply, (call, reply) ∈ history ∧ (∃ json, reply.1 = .ok (some url, json)) ∧
    router.promptHashes call = .ok chunks

/-- The prompt was routed to the endpoint in one of the calls. -/
def RoutedTo (history : List (PrefixCall × RouteReply)) (request url : String) : Prop :=
  ∃ call reply, (call, reply) ∈ history ∧ (∃ json, reply.1 = .ok (some url, json)) ∧
    call.prompt = .ok (.str request)

/-- A call after those of `before`, with a prompt that was routed to one of its endpoints,
is routed to an endpoint that a prompt with this prefix was routed to. -/
def Affine (before : List (PrefixCall × RouteReply)) (call : PrefixCall) (reply : RouteReply) :
    Prop :=
  ∀ request e, call.prompt = .ok (.str request) → request ≠ "" →
    RoutedTo before request e → e ∈ urlsOf call.args.endpoints →
    router.prefixMinMatchLength ≤ chunkSize * (request.toList.toChunks chunkSize).length →
    ∃ url ∈ urlsOf call.args.endpoints, reply.1 = .ok (some url, call.args.requestJson) ∧
      ∃ request', RoutedTo before request' url ∧ request.toList <+: request'.toList

/-- The chunks of the prompts of the calls. -/
def promptChunks (calls : List PrefixCall) : Set String :=
  {chunk | ∃ call ∈ calls, ∃ request, call.prompt = .ok (.str request) ∧
    chunk ∈ chunksOf chunkSize request}

/-- What holds after the calls of a run. -/
structure Kept (calls : List PrefixCall) (history : List (PrefixCall × RouteReply))
    (trie : HashTrie) : Prop where
  made : ∀ call reply, (call, reply) ∈ history → call ∈ calls
  records : Records (router.routedWith history) trie
  affine : ∀ before call reply after, history = before ++ (call, reply) :: after →
    router.Affine before call reply

section Run

variable {router}

theorem kept_init (calls : List PrefixCall) : router.Kept calls [] .init where
  made := by simp
  records := records_init.congr fun chunks url => by simp [routedWith]
  affine := by simp

theorem routedWith_concat (history : List (PrefixCall × RouteReply)) (call : PrefixCall)
    (reply : RouteReply) (chunks : List Nat) (url : String) :
    router.routedWith (history ++ [(call, reply)]) chunks url ↔
      router.routedWith history chunks url ∨
        (∃ json, reply.1 = .ok (some url, json)) ∧ router.promptHashes call = .ok chunks := by
  simp only [routedWith, List.mem_append, List.mem_singleton, Prod.mk.injEq]
  constructor
  · rintro ⟨call', reply', hmem | ⟨rfl, rfl⟩, hrouted⟩
    · exact Or.inl ⟨call', reply', hmem, hrouted⟩
    · exact Or.inr hrouted
  · rintro (⟨call', reply', hmem, hrouted⟩ | hrouted)
    · exact ⟨call', reply', Or.inl hmem, hrouted⟩
    · exact ⟨call, reply, Or.inr ⟨rfl, rfl⟩, hrouted⟩

/-- Only a string has chunks. -/
theorem chunkAndHash_ok (h : chunkAndHash hash prompt = .ok chunks) (hne : chunks ≠ []) :
    ∃ request, prompt = .str request ∧ chunks = chunkHashes chunkSize hash request := by
  cases prompt with
  | str request => exact ⟨request, rfl, (Except.ok.inj h).symm⟩
  | arr items =>
    cases items with
    | nil => exact absurd (Except.ok.inj h).symm hne
    | cons item items => cases h
  | obj fields =>
    cases fields with
    | nil => exact absurd (Except.ok.inj h).symm hne
    | cons field fields => cases h
  | null => cases h
  | bool value => cases h
  | int value => cases h
  | float value => cases h

theorem promptHashes_str {call : PrefixCall} {request : String}
    (hprompt : call.prompt = .ok (.str request)) :
    router.promptHashes call = .ok (chunkHashes chunkSize router.hash request) := by
  unfold promptHashes
  rw [hprompt]
  rfl

/-- A prompt whose hashes begin with those of another begins with that other. -/
theorem prefix_of_chunkHashes {request request' : String}
    (hinjective : ∀ chunk ∈ chunksOf chunkSize request, ∀ chunk' ∈ chunksOf chunkSize request',
      hash chunk = hash chunk' → chunk = chunk')
    (h : chunkHashes chunkSize hash request <+: chunkHashes chunkSize hash request') :
    request.toList <+: request'.toList := by
  have hpos : 0 < chunkSize := by decide
  have hleading : (chunkHashes chunkSize hash request).length ≤
      leading (chunkHashes chunkSize hash request) (chunkHashes chunkSize hash request') := by
    rw [le_leading_iff, List.take_length]
    exact ⟨Nat.le_refl _, h⟩
  obtain ⟨-, htake⟩ := (le_leading_chunkHashes_iff hpos hinjective _).mp hleading
  obtain ⟨hlower, -⟩ := length_toChunks_bounds hpos request.toList
  rw [length_chunkHashes, List.take_of_length_le hlower] at htake
  rw [← htake]
  exact List.take_prefix _ _

variable {calls : List PrefixCall} {history : List (PrefixCall × RouteReply)} {trie : HashTrie}

/-- The step: the prompt is found as a whole, with the endpoints it was routed to. -/
theorem affine_of_decides (hinjective : Set.InjOn router.hash (promptChunks calls))
    (h : router.Kept calls history trie) {call : PrefixCall} (hcall : call ∈ calls)
    {more : List Nat} (hchunks : router.promptHashes call = .ok chunks) {url : String}
    {selected : Finset String} (hdecides : Decides router call chunks trie url more selected)
    (hreply : reply.1 = .ok (some url, call.args.requestJson)) :
    router.Affine history call reply := by
  intro request e hprompt hne hrouted he hmin
  have hhashes : router.promptHashes call = .ok (chunkHashes chunkSize router.hash request) :=
    promptHashes_str hprompt
  obtain rfl : chunks = chunkHashes chunkSize router.hash request :=
    Except.ok.inj (hchunks.symm.trans hhashes)
  -- the whole prompt is found, since `e` is recorded with it
  have hrecorded : router.routedWith history (chunkHashes chunkSize router.hash request) e := by
    obtain ⟨call', reply', hmem, hjson, hprompt'⟩ := hrouted
    exact ⟨call', reply', hmem, hjson, promptHashes_str hprompt'⟩
  have hlongest := hdecides.deepest.longest e (List.mem_toFinset.mpr he) _ List.prefix_rfl
    (h.records.covered _ e hrecorded)
  have hmore : more = chunkHashes chunkSize router.hash request :=
    hdecides.deepest.taken.eq_of_length_le hlongest
  rw [← length_chunkHashes chunkSize router.hash, ← hmore] at hmin
  have hselected := hdecides.matched hmin
  -- and `url` with a prompt that begins with it
  have hcovered := ((hdecides.deepest.mem url).mp hselected).2
  have hnonempty : more ≠ [] := by
    have hlist : request.toList ≠ [] := by simpa using hne
    rw [hmore, chunkHashes, toChunks_of_ne_nil (by decide) hlist]
    simp
  obtain ⟨chunks', ⟨call', reply', hmem, hjson, hhashes'⟩, hbegins⟩ :=
    (h.records.covered_iff url hnonempty).mp hcovered
  obtain ⟨prompt', hprompt', hhashed'⟩ := promptHashes_ok hhashes'
  have hnonempty' : chunks' ≠ [] := by
    rintro rfl
    exact hnonempty (List.prefix_nil.mp hbegins)
  obtain ⟨request', rfl, rfl⟩ := chunkAndHash_ok hhashed' hnonempty'
  refine ⟨url, hdecides.listed, hreply, request', ⟨call', reply', hmem, hjson, hprompt'⟩, ?_⟩
  rw [hmore] at hbegins
  apply prefix_of_chunkHashes _ hbegins
  intro chunk hchunk chunk' hchunk'
  exact hinjective ⟨call, hcall, request, hprompt, hchunk⟩
    ⟨call', h.made call' reply' hmem, request', hprompt', hchunk'⟩

/-- A call that returns no endpoint leaves the trie as it is. -/
theorem Kept.unrouted (h : router.Kept calls history trie) {call : PrefixCall}
    (hcall : call ∈ calls) (hreply : ∀ url json, reply.1 ≠ .ok (some url, json))
    (haffine : router.Affine history call reply) :
    router.Kept calls (history ++ [(call, reply)]) trie where
  made := forall_mem_concat h.made hcall
  records := by
    apply h.records.congr
    intro chunks url
    rw [routedWith_concat]
    simp [hreply]
  affine := forall_split_concat h.affine haffine

theorem Kept.call (hinjective : Set.InjOn router.hash (promptChunks calls))
    (h : router.Kept calls history trie) {call : PrefixCall} (hcall : call ∈ calls) :
    Ends call.answers (router.program call) trie fun reply trie' =>
      router.Kept calls (history ++ [(call, reply)]) trie' := by
  by_cases hnil : call.args.endpoints = []
  · apply (routeRequest_unavailable hnil trie).mono
    intro reply trie' hend
    obtain ⟨htrie, hreply⟩ := hend
    rw [htrie]
    apply h.unrouted hcall hreply
    intro request e _ _ _ he
    simp [hnil, urlsOf] at he
  · cases hchunks : router.promptHashes call with
    | error e =>
      apply (routeRequest_unreadable hchunks trie).mono
      intro reply trie' hend
      obtain ⟨htrie, hreply⟩ := hend
      rw [htrie]
      apply h.unrouted hcall
      · intro url json
        rw [hreply]
        simp
      · intro request e' hprompt
        rw [promptHashes_str hprompt] at hchunks
        cases hchunks
    | ok chunks =>
      apply (routeRequest_decides hchunks hnil trie).mono
      intro reply trie' hend
      obtain ⟨url, hreply, ⟨more, selected, hdecides⟩, hrecords⟩ := hend
      have hlast := affine_of_decides hinjective h hcall hchunks hdecides hreply
      refine ⟨forall_mem_concat h.made hcall, ?_, forall_split_concat h.affine hlast⟩
      apply (hrecords _ h.records).congr
      intro chunks' url'
      rw [routedWith_concat, hreply, hchunks]
      simp [alsoInserted, eq_comm, and_comm]

end Run

/-- The first of the options in alphabetical order. -/
def firstOption (options : Finset String) : String := options.min.untopD ""

theorem firstOption_mem (options : Finset String) (h : options.Nonempty) :
    firstOption options ∈ options := by
  obtain ⟨option, hoption⟩ := Finset.min_of_nonempty h
  unfold firstOption
  rw [hoption, WithTop.untopD_coe]
  exact Finset.mem_of_min hoption

/-- A request with two endpoints to choose from. -/
def callWith (body : JsonObject) : PrefixCall where
  args := {
    endpoints := [⟨"http://a", ["m"], "1", none, false⟩, ⟨"http://b", ["m"], "2", none, false⟩]
    requestStats := .empty
    headers := []
    requestJson := body }
  pick := firstOption
  picks := firstOption_mem

end PrefixAwareRouter

/-! The bodies with a prompt that can be read. -/

namespace PrefixAwareRouter

end PrefixAwareRouter

end ProductionStack.Routing

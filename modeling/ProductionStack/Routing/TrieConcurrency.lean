import ProductionStack.Routing.TrieCalls

/-!
Any number of insertions and matches on one hash trie, in any interleaving of
their lock-protected steps.
-/

namespace ProductionStack.Routing

open Lib Python Request

inductive TrieCall where
  | insert (request endpoint : String)
  | longestPrefixMatch (request : String) (availableEndpoints : Finset String)

/-- An insertion returns nothing. -/
abbrev TrieReply := Except Raised (Option (Nat × Finset String)) × Unit

def TrieCall.program (chunkSize : Nat) (hash : String → Nat) :
    TrieCall → Prog (shared HashTrie routing) TrieReply
  | .insert request endpoint => (do
      HashTrie.insertBy chunkSize hash request endpoint
      pure none : Co HashTrie (Option (Nat × Finset String))) ()
  | .longestPrefixMatch request availableEndpoints => (do
      let result ← HashTrie.longestPrefixMatchBy chunkSize hash request availableEndpoints
      pure (some result) : Co HashTrie (Option (Nat × Finset String))) ()

abbrev TriePool := Pool HashTrie TrieCall TrieReply routing

namespace TriePool

section

variable (chunkSize : Nat) (hash : String → Nat)

/-- One lock-protected step of one of the calls, or the start of a new one. -/
abbrev Step : TriePool → TriePool → Prop :=
  Pool.Step (TrieCall.program chunkSize hash) Query.allowed

def Reachable (pool : TriePool) : Prop :=
  Pool.Reachable (TrieCall.program chunkSize hash) Query.allowed HashTrie.init pool

end

/-- An insertion was started. -/
def Started (pool : TriePool) (request endpoint : String) : Prop :=
  ∃ left, (TrieCall.insert request endpoint, left) ∈ pool.calls

/-- An insertion was completed. -/
def Inserted (pool : TriePool) (request endpoint : String) : Prop :=
  (TrieCall.insert request endpoint, .ret (.ok none, ())) ∈ pool.calls

/-- Call number `k` is a match that has returned. -/
def Matched (pool : TriePool) (k : Nat) (request : String) (available : Finset String)
    (length : Nat) (selected : Finset String) : Prop :=
  pool.calls[k]? =
    some (.longestPrefixMatch request available, .ret (.ok (some (length, selected)), ()))

/-- The step with which a match begins. -/
def Begins (chunkSize : Nat) (hash : String → Nat) (pool pool' : TriePool) (request : String)
    (available : Finset String) : Prop :=
  Step chunkSize hash pool pool' ∧
    ∃ left, pool'.calls = pool.calls ++ [(.longestPrefixMatch request available, left)]

end TriePool

section Concurrency

open HashTrie

variable {chunkSize : Nat} {hash : String → Nat}

/-- What the calls that were made insert. -/
def insertedBy (chunkSize : Nat) (hash : String → Nat) (made : TrieCall → Prop)
    (chunks : List Nat) (endpoint : String) : Prop :=
  ∃ request, made (.insert request endpoint) ∧ chunkHashes chunkSize hash request = chunks

/-- The specification of a call that starts in the state `trie`. -/
def TrieCall.Meets (chunkSize : Nat) (hash : String → Nat) (made : TrieCall → Prop)
    (trie : HashTrie) : TrieCall → TrieReply → HashTrie → Prop
  | .insert request endpoint, reply, trie' => reply.1 = .ok none →
      trie'.Covered endpoint (chunkHashes chunkSize hash request) 0
  | .longestPrefixMatch request available, reply, _ => ∀ result, reply.1 = .ok (some result) →
      0 < chunkSize ∧ ∃ more, Stopped (insertedBy chunkSize hash made) chunkSize trie []
        (chunkHashes chunkSize hash request) 0 0 available more result

variable {request : String}

theorem chunkAndHashBy_ok {chunks : List Nat}
    (h : (chunkAndHashBy chunkSize hash request).mapError Raised.error = .ok chunks) :
    0 < chunkSize ∧ chunks = chunkHashes chunkSize hash request := by
  unfold chunkAndHashBy at h
  split at h
  · cases h
  · next hsize => exact ⟨Nat.pos_of_ne_zero hsize, (Except.ok.inj h).symm⟩

variable {made : TrieCall → Prop} {endpoint : String} {trie : HashTrie} {call : TrieCall}

theorem insert_meets (hmade : made (.insert request endpoint))
    (hsound : Sound (insertedBy chunkSize hash made) trie) :
    Evolves (Grows (insertedBy chunkSize hash made)) Query.allowed
      (TrieCall.Meets chunkSize hash made trie (.insert request endpoint))
      (TrieCall.program chunkSize hash (.insert request endpoint)) trie := by
  have hinserted : insertedBy chunkSize hash made (chunkHashes chunkSize hash request) endpoint :=
    ⟨request, hmade, rfl⟩
  have hinsert : Moves (Grows (insertedBy chunkSize hash made))
      (insertBy chunkSize hash request endpoint) trie fun r trie' =>
        Grows (insertedBy chunkSize hash made) trie trie' ∧
        (r = .ok () → trie'.Covered endpoint (chunkHashes chunkSize hash request) 0) :=
    insertion_moves hinserted hsound fun chunks hchunks => (chunkAndHashBy_ok hchunks).2
  have hcall : Moves (Grows (insertedBy chunkSize hash made))
      (do insertBy chunkSize hash request endpoint; pure none :
        Co HashTrie (Option (Nat × Finset String))) trie fun r trie' =>
        ∀ trie'', Grows (insertedBy chunkSize hash made) trie' trie'' → r = .ok none →
          trie''.Covered endpoint (chunkHashes chunkSize hash request) 0 := by
    apply hinsert.seq
    · intro _ trie' hend
      obtain ⟨_, hcovered⟩ := hend
      intro trie'' hgrows _
      exact (hcovered rfl).mono hgrows.1
    · intro e trie' _ trie'' _ h
      cases h
  exact hcall

theorem longestPrefixMatch_meets (made : TrieCall → Prop) (request : String)
    (available : Finset String) (hsound : Sound (insertedBy chunkSize hash made) trie) :
    Evolves (Grows (insertedBy chunkSize hash made)) Query.allowed
      (TrieCall.Meets chunkSize hash made trie (.longestPrefixMatch request available))
      (TrieCall.program chunkSize hash (.longestPrefixMatch request available)) trie := by
  have hmatch : Moves (Grows (insertedBy chunkSize hash made))
      (longestPrefixMatchBy chunkSize hash request available) trie fun r _ =>
        ∀ result, r = .ok result → 0 < chunkSize ∧ ∃ more,
          Stopped (insertedBy chunkSize hash made) chunkSize trie []
            (chunkHashes chunkSize hash request) 0 0 available more result := by
    apply moves_ofExcept_bind
    · intro chunks hchunks
      obtain ⟨hsize, rfl⟩ := chunkAndHashBy_ok hchunks
      have hloop := matchChunksBy_moves chunkSize (chunkHashes chunkSize hash request)
        0 available hsound (placed_root trie)
      exact hloop.mono fun r _ h result hresult => ⟨hsize, h result hresult⟩
    · intro e result h
      cases h
  have hcall : Moves (Grows (insertedBy chunkSize hash made))
      (do let result ← longestPrefixMatchBy chunkSize hash request available; pure (some result) :
        Co HashTrie (Option (Nat × Finset String))) trie fun r trie' =>
        ∀ trie'', Grows (insertedBy chunkSize hash made) trie' trie'' → TrieCall.Meets chunkSize
          hash made trie (.longestPrefixMatch request available) (r, ()) trie'' := by
    apply hmatch.seq
    · intro result trie' hresult
      rintro trie'' _ _ ⟨⟩
      exact hresult result rfl
    · intro e trie' _ trie'' _ result h
      cases h
  exact hcall

theorem call_meets (call : TrieCall) (hmade : made call) (trie : HashTrie)
    (hsound : Sound (insertedBy chunkSize hash made) trie) :
    Evolves (Grows (insertedBy chunkSize hash made)) Query.allowed
      (TrieCall.Meets chunkSize hash made trie call) (TrieCall.program chunkSize hash call) trie := by
  cases call with
  | insert request endpoint => exact insert_meets hmade hsound
  | longestPrefixMatch request available =>
    exact longestPrefixMatch_meets made request available hsound

/-- The specification of a call, whatever the state in which it started. -/
def TrieCall.Meant (chunkSize : Nat) (hash : String → Nat) (made : TrieCall → Prop)
    (call : TrieCall) (reply : TrieReply) (trie' : HashTrie) : Prop :=
  ∃ trie, TrieCall.Meets chunkSize hash made trie call reply trie'

variable {pool : TriePool}

/-- From a pool in which every call keeps to a specification, every run leads to
such a pool. -/
theorem calls_evolve {pool' : TriePool} {posts : List (TrieReply → HashTrie → Prop)}
    (hsound : Sound (insertedBy chunkSize hash made) pool.state)
    (hpool : pool.Awaits (Grows (insertedBy chunkSize hash made)) Query.allowed posts)
    (hrun : Relation.ReflTransGen (TriePool.Step chunkSize hash) pool pool')
    (hmade : ∀ call ∈ pool'.inputs, made call) : ∃ started, pool'.inputs = pool.inputs ++ started ∧
      Grows (insertedBy chunkSize hash made) pool.state pool'.state ∧
      pool'.Awaits (Grows (insertedBy chunkSize hash made)) Query.allowed
        (posts ++ started.map (TrieCall.Meant chunkSize hash made)) := by
  refine pool_evolves (Grows.refl _) Grows.trans (fun _ _ hgrows => hgrows.2) ?_ hsound hpool hrun
    hmade
  intro call hcall trie htrie
  have hmeets := call_meets call hcall trie htrie
  exact Prog.Always.imp hmeets fun _ _ h trie' hgrows =>
    ⟨trie, h trie' hgrows⟩

/-- In a reachable pool the trie is sound and every call keeps to its specification. -/
theorem sound_of_reachable (hpool : TriePool.Reachable chunkSize hash pool)
    (hmade : ∀ call ∈ pool.inputs, made call) : Sound (insertedBy chunkSize hash made) pool.state ∧
      pool.Awaits (Grows (insertedBy chunkSize hash made)) Query.allowed
        (pool.inputs.map (TrieCall.Meant chunkSize hash made)) := by
  have hinitial : (⟨HashTrie.init, []⟩ : TriePool).Awaits
      (Grows (insertedBy chunkSize hash made)) Query.allowed [] := .nil
  obtain ⟨started, hinputs, hgrows, hawaits⟩ := calls_evolve sound_init hinitial hpool hmade
  have hstarted : pool.inputs = started := hinputs
  rw [hstarted]
  exact ⟨hgrows.2 sound_init, hawaits⟩

theorem TriePool.inputs_of_calls {k : Nat} {left : Prog (shared HashTrie routing) TrieReply}
    (h : pool.calls[k]? = some (call, left)) : pool.inputs[k]? = some call := by
  unfold Pool.inputs
  rw [List.getElem?_map, h]
  rfl

/-- What a call that has returned meets. -/
theorem meets_of_returned (hpool : TriePool.Reachable chunkSize hash pool)
    (hmade : ∀ call ∈ pool.inputs, made call) {k : Nat} {reply : TrieReply}
    (hcall : pool.calls[k]? = some (call, .ret reply)) :
    TrieCall.Meant chunkSize hash made call reply pool.state := by
  obtain ⟨-, hawaits⟩ := sound_of_reachable hpool hmade
  refine hawaits.returned (Grows.refl _) ?_ hcall
  rw [List.getElem?_map, TriePool.inputs_of_calls hcall]
  rfl

/-- The nodes of an insertion that was completed have its endpoint. -/
theorem covered_of_inserted (hpool : TriePool.Reachable chunkSize hash pool)
    (hinserted : pool.Inserted request endpoint) :
    pool.state.Covered endpoint (chunkHashes chunkSize hash request) 0 := by
  obtain ⟨k, hk⟩ := List.getElem?_of_mem hinserted
  have hmade : ∀ call ∈ pool.inputs, call ∈ pool.inputs := fun _ member => member
  obtain ⟨trie, hmeets⟩ := meets_of_returned hpool hmade hk
  exact hmeets rfl

theorem started_of_inputs (h : TrieCall.insert request endpoint ∈ pool.inputs) :
    pool.Started request endpoint := by
  obtain ⟨⟨call, left⟩, hcall, rfl⟩ := List.mem_map.mp h
  exact ⟨left, hcall⟩

/-- A match that has begun in `before` gets as far as the insertions that were
completed then. -/
theorem stopped_of_begins {before started : TriePool} {available selected : Finset String}
    {length : Nat} (hbefore : TriePool.Reachable chunkSize hash before)
    (hbegins : TriePool.Begins chunkSize hash before started request available)
    (hrun : Relation.ReflTransGen (TriePool.Step chunkSize hash) started pool)
    (hmade : ∀ call ∈ pool.inputs, made call)
    (hmatched : pool.Matched before.calls.length request available length selected) :
    ∃ more, Stopped (insertedBy chunkSize hash made) chunkSize before.state []
      (chunkHashes chunkSize hash request) 0 0 available more (length, selected) := by
  obtain ⟨hstep, left, hcalls⟩ := hbegins
  have hmade' (call : TrieCall) (member : call ∈ before.inputs) : made call :=
    hmade call ((inputs_of_run (.head hstep hrun)).subset member)
  obtain ⟨hsound, hawaits⟩ := sound_of_reachable hbefore hmade'
  have hmeets := longestPrefixMatch_meets made request available hsound
  obtain ⟨hgrows, hstarted⟩ :=
    hawaits.start (Grows.refl _) Grows.trans hmeets (hstep.started hcalls)
  rw [← hcalls] at hstarted
  obtain ⟨later, -, -, hpool⟩ := calls_evolve (hgrows.2 hsound) hstarted hrun hmade
  -- the match is the call after those of `before`
  have hlength : (before.inputs.map (TrieCall.Meant chunkSize hash made)).length =
      before.calls.length := by
    simp [Pool.inputs]
  have hpost : (before.inputs.map (TrieCall.Meant chunkSize hash made) ++
      [TrieCall.Meets chunkSize hash made before.state (.longestPrefixMatch request available)] ++
      later.map (TrieCall.Meant chunkSize hash made))[before.calls.length]? =
      some (TrieCall.Meets chunkSize hash made before.state
        (.longestPrefixMatch request available)) := by
    rw [List.append_assoc, List.getElem?_append_right (by omega), hlength, Nat.sub_self]
    rfl
  have hreturned := hpool.returned (Grows.refl _) hpost hmatched
  exact (hreturned _ rfl).2

end Concurrency

/-- In every interleaving of the calls of a hash trie:
an endpoint of a node is one of its parent's at every moment;
a match returns some of the endpoints that were available, and at least one if
there were any;
an endpoint that is returned with a match was given with a prompt that shares the
matched chunks, in an insertion started before the match returned (take the pool
in which it has just returned);
and a match gets at least as far as the prompt of any insertion of an available
endpoint that was completed when the match began. -/
theorem hash_trie_concurrent (chunkSize : Nat) (hash : String → Nat) {pool : TriePool}
    (hpool : TriePool.Reachable chunkSize hash pool) :
    (∀ i chunkHash child, pool.state.Edge i chunkHash child →
      pool.state.endpoints child ⊆ pool.state.endpoints i) ∧
    (∀ k request available length selected, pool.Matched k request available length selected →
      selected ⊆ available ∧ (available.Nonempty → selected.Nonempty)) ∧
    (∀ before started request available length selected request' endpoint,
      TriePool.Reachable chunkSize hash before → before.Inserted request' endpoint →
      endpoint ∈ available → TriePool.Begins chunkSize hash before started request available →
      Relation.ReflTransGen (TriePool.Step chunkSize hash) started pool →
      pool.Matched before.calls.length request available length selected →
      chunkSize * HashTrie.leading (HashTrie.chunkHashes chunkSize hash request)
        (HashTrie.chunkHashes chunkSize hash request') ≤ length) ∧
    (∀ k request available length selected, pool.Matched k request available length selected →
      0 < length → chunkSize ∣ length ∧ ∀ endpoint ∈ selected, ∃ request',
        pool.Started request' endpoint ∧
        length / chunkSize ≤ HashTrie.leading (HashTrie.chunkHashes chunkSize hash request)
          (HashTrie.chunkHashes chunkSize hash request')) := by
  have hmade : ∀ call ∈ pool.inputs, call ∈ pool.inputs := fun _ member => member
  refine ⟨?_, ?_, ?_, ?_⟩
  · obtain ⟨hsound, -⟩ := sound_of_reachable hpool hmade
    exact hsound.subset
  · intro k request available length selected hmatched
    obtain ⟨trie, hmeets⟩ := meets_of_returned hpool hmade hmatched
    obtain ⟨-, more, hstopped⟩ := hmeets _ rfl
    exact ⟨hstopped.subset, hstopped.nonempty⟩
  · intro before started request available length selected request' endpoint hbefore hinserted
      havailable hbegins hrun hmatched
    obtain ⟨more, hstopped⟩ := stopped_of_begins hbefore hbegins hrun hmade hmatched
    have hcovered := covered_of_inserted hbefore hinserted
    have hle := hstopped.longest endpoint havailable _ hcovered
    have hlength : length = chunkSize * more.length := by simpa using hstopped.length
    rw [hlength]
    exact Nat.mul_le_mul_left chunkSize hle
  · intro k request available length selected hmatched hpos
    obtain ⟨trie, hmeets⟩ := meets_of_returned hpool hmade hmatched
    obtain ⟨hsize, more, hstopped⟩ := hmeets _ rfl
    have hlength : length = chunkSize * more.length := by simpa using hstopped.length
    refine ⟨⟨more.length, hlength⟩, ?_⟩
    intro endpoint hendpoint
    have hmore : more ≠ [] := by
      rintro rfl
      simp at hlength
      omega
    obtain ⟨chunks, ⟨request', hrequest, rfl⟩, hbegins⟩ :=
      hstopped.inserted hmore endpoint hendpoint
    refine ⟨request', started_of_inputs hrequest, ?_⟩
    rw [hlength, Nat.mul_div_cancel_left _ hsize]
    exact HashTrie.leading_le hstopped.taken hbegins

/-- Every lock is free. -/
def locksFree : (query : Query) → Option query.Answer
  | .lock _ => some (.ok ())
  | _ => none

theorem locksFree_allowed (query : Query) (answer : query.Answer)
    (_h : locksFree query = some answer) : query.allowed answer := by
  cases query with
  | lock node => exact trivial
  | _ => cases _h

/-- A trie with chunks of two characters after `abcd` was inserted, under a hash
that tells chunks apart by their length. -/
def insertedOnce : HashTrie :=
  ⟨[⟨⟨[(2, 1)], by decide⟩, {"e"}⟩, ⟨⟨[(2, 2)], by decide⟩, {"e"}⟩, ⟨.empty, {"e"}⟩]⟩

/-- An insertion and then a match of another prompt, whose first chunk is found. -/
theorem hash_trie_match_after_insert : ∃ pool : TriePool,
    TriePool.Reachable 2 String.length pool ∧ pool.Matched 1 "abc" {"e", "f"} 2 {"e"} ∧
    2 * HashTrie.leading (HashTrie.chunkHashes 2 String.length "abc")
      (HashTrie.chunkHashes 2 String.length "abcd") ≤ 2 ∧
    ∃ request, pool.Started request "e" ∧
      1 ≤ HashTrie.leading (HashTrie.chunkHashes 2 String.length "abc")
        (HashTrie.chunkHashes 2 String.length request) := by
  have hinsert : alone locksFree (TrieCall.program 2 String.length (.insert "abcd" "e")) .init =
      some ((.ok none, ()), insertedOnce) := rfl
  have hmatch : alone locksFree
      (TrieCall.program 2 String.length (.longestPrefixMatch "abc" {"e", "f"})) insertedOnce =
      some ((.ok (some (2, {"e"})), ()), insertedOnce) := rfl
  obtain ⟨p, s, hstart, hrest⟩ :=
    pool_finishes locksFree_allowed (⟨.init, []⟩ : TriePool) _ hinsert
  have hbefore := Relation.ReflTransGen.head hstart hrest
  obtain ⟨p', s', hstart', hrest'⟩ := pool_finishes locksFree_allowed
    (⟨insertedOnce, [] ++ [(.insert "abcd" "e", .ret (.ok none, ()))]⟩ : TriePool) _ hmatch
  have hpool := hbefore.trans (.head hstart' hrest')
  obtain ⟨-, -, hlongest, hinserted⟩ := hash_trie_concurrent 2 String.length hpool
  have hlength := hlongest _ _ "abc" {"e", "f"} 2 {"e"} "abcd" "e" hbefore List.mem_cons_self
    (by decide) ⟨hstart', p', rfl⟩ hrest' rfl
  obtain ⟨-, hshared⟩ := hinserted 1 "abc" {"e", "f"} 2 {"e"} rfl (by decide)
  exact ⟨_, hpool, rfl, hlength, hshared "e" (by decide)⟩

end ProductionStack.Routing

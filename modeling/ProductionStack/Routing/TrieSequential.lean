import Mathlib.Order.Bounds.Defs
import ProductionStack.Lib.Chunks
import ProductionStack.Routing.Sequential
import ProductionStack.Routing.TrieConcurrency

/-!
The hash trie when its calls are made one after another. It is a record of the
insertions: an endpoint is found along a path exactly if it was inserted with
chunks that begin with that path. The walk of `longest_prefix_match` takes the
deepest node it can and is left with all the endpoints there, so that its greedy
choice is the best one over the whole history.
-/

namespace ProductionStack.Routing.HashTrie

open Lib Python Request

variable {trie : HashTrie} {path chunks : List Nat} {available : Finset String}
  {answers : (query : Query) → Option query.Answer} {request : String}
  {inserts : List (String × String)} {inserted : List Nat → String → Prop}

/-! What the trie records. -/

variable {i : Nat} {endpoint : String} {inserted' : List Nat → String → Prop} {chunkHash : Nat}
  {rest : List Nat} (chunkSize : Nat) (hash : String → Nat)

theorem Covered.shorten (h : Covered trie endpoint chunks i)
    (hpath : path <+: chunks) : Covered trie endpoint path i := by
  induction path generalizing chunks i with
  | nil => exact trivial
  | cons chunkHash path ih =>
    obtain ⟨rest, rfl⟩ := hpath
    obtain ⟨child, hedge, hmem, hrest⟩ := h
    exact ⟨child, hedge, hmem, ih hrest (List.prefix_append path rest)⟩

/-- The last node of a covered path. -/
theorem Covered.last {before : List Nat} (h : Covered trie endpoint path i)
    (hplaced : Placed trie i before) (hne : path ≠ []) :
    ∃ node, Placed trie node (before ++ path) ∧ endpoint ∈ trie.endpoints node := by
  induction path generalizing before i with
  | nil => exact absurd rfl hne
  | cons chunkHash path ih =>
    obtain ⟨child, hedge, hmem, hrest⟩ := h
    have hchild := hplaced.child hedge
    by_cases hnil : path = []
    · rw [hnil]
      exact ⟨child, hchild, hmem⟩
    · obtain ⟨node, hnode, hlast⟩ := ih hrest hchild hnil
      rw [List.append_assoc, List.singleton_append] at hnode
      exact ⟨node, hnode, hlast⟩

theorem Sound.mono (h : Sound inserted trie)
    (himp : ∀ chunks e, inserted chunks e → inserted' chunks e) : Sound inserted' trie where
  rooted := h.rooted
  bounded := h.bounded
  parent := h.parent
  subset := h.subset
  justified := by
    obtain ⟨labels, hlabels, hjustified⟩ := h.justified
    refine ⟨labels, hlabels, ?_⟩
    intro i e he
    obtain ⟨chunks, hchunks, hbegins⟩ := hjustified i e he
    exact ⟨chunks, himp chunks e hchunks, hbegins⟩

/-- The trie after the insertions: nothing else is in it, and all of them are. -/
structure Records (inserted : List Nat → String → Prop) (trie : HashTrie) : Prop where
  sound : Sound inserted trie
  covered : ∀ chunks e, inserted chunks e → trie.Covered e chunks 0

theorem records_init : Records (fun _ _ => False) init :=
  ⟨sound_init, fun _ _ h => absurd h not_false⟩

/-- The insertions, and one more. -/
def alsoInserted (inserted : List Nat → String → Prop) (chunks : List Nat) (endpoint : String)
    (chunks' : List Nat) (e : String) : Prop :=
  inserted chunks' e ∨ chunks' = chunks ∧ e = endpoint

theorem Records.congr (h : Records inserted trie)
    (hiff : ∀ chunks e, inserted chunks e ↔ inserted' chunks e) : Records inserted' trie :=
  ⟨h.sound.mono fun chunks e => (hiff chunks e).mp,
    fun chunks e he => h.covered chunks e ((hiff chunks e).mpr he)⟩

/-- What is found is what was inserted. -/
theorem Records.covered_iff (h : Records inserted trie) (e : String) (hne : path ≠ []) :
    trie.Covered e path 0 ↔ ∃ chunks, inserted chunks e ∧ path <+: chunks := by
  constructor
  · intro hcovered
    obtain ⟨node, hplaced, hmem⟩ := hcovered.last (placed_root trie) hne
    exact h.sound.inserted_of_mem hplaced hmem
  · rintro ⟨chunks, hchunks, hbegins⟩
    exact (h.covered chunks e hchunks).shorten hbegins

/-! The calls, with every lock free. -/

section Calls

variable (hlocks : ∀ i, answers (.lock i) = some (.ok ()))

include hlocks

theorem finishes_lock {α : Type} {f : Unit → Co HashTrie α}
    {post : Except Raised α → HashTrie → Prop} (h : Finishes answers (f ()) trie post) :
    Finishes answers (lock i >>= f) trie post := by
  have hlock : Finishes answers (lock i) trie fun r trie' => r = .ok () ∧ trie' = trie :=
    finishes_await (hlocks i) ⟨_, trie, rfl, rfl, rfl⟩
  apply hlock.seq
  · intro _ trie' hend
    obtain ⟨_, htrie⟩ := hend
    rw [htrie]
    exact h
  · intro e trie' hend
    obtain ⟨hr, _⟩ := hend
    cases hr

theorem addLocked_finishes (i : Nat) (endpoint : String) (trie : HashTrie) :
    Finishes answers (addLocked i endpoint) trie fun r _ => r = .ok () := by
  apply finishes_lock hlocks
  exact ⟨_, _, rfl, rfl⟩

variable {hashed : Except PyExc (List Nat)} (endpoint : String)

theorem insertChunks_finishes (chunks : List Nat) (i : Nat) (trie : HashTrie) :
    Finishes answers (insertChunks endpoint chunks i) trie fun r _ => r = .ok () := by
  induction chunks generalizing i trie with
  | nil => exact finishes_pure rfl
  | cons chunkHash rest ih =>
    apply finishes_lock hlocks
    apply finishes_get
    apply finishes_put
    apply (addLocked_finishes hlocks _ endpoint _).seq
    · intro _ trie' _
      exact ih _ trie'
    · intro e trie' h
      cases h

theorem insertion_finishes (hhashed : hashed = .ok chunks) (trie : HashTrie) : Finishes answers (do
        addLocked 0 endpoint
        let chunks ← evaluate hashed
        insertChunks endpoint chunks 0) trie fun r _ => r = .ok () := by
  apply (addLocked_finishes hlocks 0 endpoint trie).seq
  · intro _ trie' _
    rw [hhashed]
    exact insertChunks_finishes hlocks endpoint chunks 0 trie'
  · intro e trie' h
    cases h

/-- One more insertion is recorded. -/
theorem Records.insertion
    (hanswers : ∀ query answer, answers query = some answer → query.allowed answer)
    (h : Records inserted trie) (endpoint : String) (hhashed : hashed = .ok chunks) :
    Finishes answers (do
        addLocked 0 endpoint
        let chunks ← evaluate hashed
        insertChunks endpoint chunks 0) trie fun r trie' =>
      r = .ok () ∧ Records (alsoInserted inserted chunks endpoint) trie' := by
  have hnew : alsoInserted inserted chunks endpoint chunks endpoint := Or.inr ⟨rfl, rfl⟩
  have hsound : Sound (alsoInserted inserted chunks endpoint) trie :=
    h.sound.mono fun _ _ => Or.inl
  have hchunks : ∀ chunks', hashed.mapError Raised.error = .ok chunks' → chunks' = chunks := by
    intro chunks' hok
    rw [hhashed] at hok
    exact (Except.ok.inj hok).symm
  have hfinishes := insertion_finishes hlocks endpoint hhashed trie
  apply (hfinishes.moves (Grows.refl _) hanswers (insertion_moves hnew hsound hchunks)).mono
  intro r trie' hend
  obtain ⟨hr, hgrows, hcovered⟩ := hend
  refine ⟨hr, hgrows.2 hsound, ?_⟩
  intro chunks' e hinserted
  rcases hinserted with hold | ⟨rfl, rfl⟩
  · exact (h.covered chunks' e hold).mono hgrows.1
  · exact hcovered hr

end Calls

/-! The walk. -/

/-- Where the walk ends: it took the chunks `more`, is left with the endpoints that
cover them, and none covers more. -/
structure Deepest (trie : HashTrie) (rest : List Nat) (i : Nat) (available : Finset String)
    (more : List Nat) (selected : Finset String) : Prop where
  taken : more <+: rest
  mem : ∀ e, e ∈ selected ↔ e ∈ available ∧ trie.Covered e more i
  nonempty : more ≠ [] → selected.Nonempty
  longest : ∀ e ∈ available, ∀ path, path <+: rest → trie.Covered e path i →
    path.length ≤ more.length

/-- No endpoint covers the next chunk. -/
theorem deepest_here (hstop : ∀ e ∈ available, ¬ trie.Covered e [chunkHash] i) :
    Deepest trie (chunkHash :: rest) i available [] available where
  taken := List.nil_prefix
  mem e := by simp [Covered]
  nonempty h := absurd rfl h
  longest e he path hpath hcovered := by
    cases path with
    | nil => exact Nat.le_refl 0
    | cons first path =>
      have hfirst : first = chunkHash := (List.cons_prefix_cons.mp hpath).1
      rw [hfirst] at hcovered
      have hone : [chunkHash] <+: chunkHash :: path := by simp
      exact absurd (hcovered.shorten hone) (hstop e he)

/-- The walk goes on at a child, with the endpoints that are there. -/
theorem Deepest.descend {more : List Nat} {child : Nat} {selected : Finset String}
    (hedge : trie.Edge i chunkHash child) (hsome : trie.endpoints child ∩ available ≠ ∅)
    (h : Deepest trie rest child (trie.endpoints child ∩ available) more selected) :
    Deepest trie (chunkHash :: rest) i available (chunkHash :: more) selected where
  taken := List.cons_prefix_cons.mpr ⟨rfl, h.taken⟩
  mem e := by
    rw [h.mem e, Finset.mem_inter]
    constructor
    · rintro ⟨⟨hmem, he⟩, hcovered⟩
      exact ⟨he, child, hedge, hmem, hcovered⟩
    · rintro ⟨he, hcovered⟩
      obtain ⟨hmem, hrest⟩ := hcovered.uncons hedge
      exact ⟨⟨hmem, he⟩, hrest⟩
  nonempty _ := by
    by_cases hnil : more = []
    · obtain ⟨e, he⟩ := Finset.nonempty_iff_ne_empty.mpr hsome
      exact ⟨e, (h.mem e).mpr ⟨he, by rw [hnil]; trivial⟩⟩
    · exact h.nonempty hnil
  longest e he path hpath hcovered := by
    cases path with
    | nil => exact Nat.zero_le _
    | cons first path =>
      obtain ⟨hfirst, hpath⟩ := List.cons_prefix_cons.mp hpath
      rw [hfirst] at hcovered
      obtain ⟨hmem, hrest⟩ := hcovered.uncons hedge
      have hle := h.longest e (Finset.mem_inter.mpr ⟨hmem, he⟩) path hpath hrest
      simp only [List.length_cons]
      omega

theorem matchChunksBy_finishes (hlocks : ∀ i, answers (.lock i) = some (.ok ())) (chunkSize : Nat)
    (rest : List Nat) (i matchLength : Nat) (available : Finset String) (trie : HashTrie) :
    Finishes answers (matchChunksBy chunkSize rest i matchLength available) trie fun r trie' =>
      trie' = trie ∧ ∃ more selected, r = .ok (matchLength + chunkSize * more.length, selected) ∧
        Deepest trie rest i available more selected := by
  induction rest generalizing i matchLength available with
  | nil =>
    apply finishes_pure
    refine ⟨rfl, [], available, rfl, List.prefix_rfl, ?_, fun h => absurd rfl h, ?_⟩
    · simp [Covered]
    · intro e he path hpath _
      exact hpath.length_le
  | cons chunkHash rest ih =>
    apply finishes_lock hlocks
    apply finishes_get
    split
    · next hnone =>
        apply finishes_pure
        refine ⟨rfl, [], available, rfl, deepest_here ?_⟩
        rintro e he ⟨child, hedge, -⟩
        have hchild : (trie.node i).children.get? chunkHash = some child := hedge
        rw [hnone] at hchild
        cases hchild
    · next child hedge =>
        apply finishes_lock hlocks
        apply finishes_get
        dsimp only
        split
        · next hempty =>
            apply finishes_pure
            refine ⟨rfl, [], available, rfl, deepest_here ?_⟩
            intro e he hcovered
            have hmem : e ∈ (trie.node child).endpoints ∩ available :=
              Finset.mem_inter.mpr ⟨(hcovered.uncons hedge).1, he⟩
            rw [hempty] at hmem
            exact Finset.notMem_empty e hmem
        · next hsome =>
            apply (ih child (matchLength + chunkSize) _).mono
            intro r trie' hend
            obtain ⟨htrie, more, selected, hr, hdeepest⟩ := hend
            refine ⟨htrie, chunkHash :: more, selected, ?_, hdeepest.descend hedge hsome⟩
            rw [hr, List.length_cons, Nat.mul_succ]
            congr 2
            omega

/-! How far two prompts agree. -/

theorem le_leading_iff (k : Nat) (a b : List Nat) :
    k ≤ leading a b ↔ k ≤ a.length ∧ a.take k <+: b := by
  induction a generalizing k b with
  | nil =>
    simp only [leading, List.length_nil, List.take_nil]
    simp
  | cons x a ih =>
    cases k with
    | zero => simp
    | succ k =>
      cases b with
      | nil => simp [leading]
      | cons y b =>
        rw [List.take_succ_cons, List.cons_prefix_cons, List.length_cons]
        by_cases hxy : x = y
        · simp only [leading, hxy, if_true, true_and, Nat.add_le_add_iff_right, ih]
        · simp [leading, hxy]

/-- The strings that are hashed. -/
def chunksOf (chunkSize : Nat) (request : String) : List String :=
  (request.toList.toChunks chunkSize).map String.ofList

theorem chunkHashes_eq (request : String) :
    chunkHashes chunkSize hash request = (chunksOf chunkSize request).map hash := by
  simp [chunkHashes, chunksOf]

theorem length_chunkHashes (request : String) :
    (chunkHashes chunkSize hash request).length = (request.toList.toChunks chunkSize).length := by
  simp [chunkHashes]

/-- With a hash that tells their chunks apart, prompts share `k` hashes if they agree
on the characters of `k` chunks. -/
theorem le_leading_chunkHashes_iff {chunkSize : Nat} (hsize : 0 < chunkSize)
    {hash : String → Nat} {request' : String}
    (hinjective : ∀ chunk ∈ chunksOf chunkSize request, ∀ chunk' ∈ chunksOf chunkSize request',
      hash chunk = hash chunk' → chunk = chunk') (k : Nat) :
    k ≤ leading (chunkHashes chunkSize hash request) (chunkHashes chunkSize hash request') ↔
      k ≤ (request.toList.toChunks chunkSize).length ∧
      request'.toList.take (chunkSize * k) = request.toList.take (chunkSize * k) := by
  rw [le_leading_iff, length_chunkHashes]
  apply and_congr_right
  intro hk
  have hinjective' : ∀ chunk ∈ (chunksOf chunkSize request).take k,
      ∀ chunk' ∈ chunksOf chunkSize request', hash chunk = hash chunk' → chunk = chunk' :=
    fun chunk hchunk => hinjective chunk (List.mem_of_mem_take hchunk)
  have hofList : ∀ l ∈ (request.toList.toChunks chunkSize).take k,
      ∀ l' ∈ request'.toList.toChunks chunkSize, String.ofList l = String.ofList l' → l = l' := by
    intro l _ l' _ h
    exact String.ofList_injective h
  rw [chunkHashes_eq, chunkHashes_eq, ← List.map_take, map_prefix_map_iff hinjective', chunksOf,
    chunksOf, ← List.map_take, map_prefix_map_iff hofList, take_toChunks_prefix_iff hsize _ _ hk]

end ProductionStack.Routing.HashTrie

namespace ProductionStack.Routing

open Lib Python Request HashTrie

/-! Insertions one after another, and a match. -/

section Sequential

variable (chunkSize : Nat) (hash : String → Nat)

/-- The insertions of requests with their endpoints, made in turn on a new trie. -/
def insertAll (inserts : List (String × String)) :
    Option (List ((String × String) × TrieReply) × HashTrie) :=
  inTurn (fun _ => locksFree)
    (fun insert => TrieCall.program chunkSize hash (.insert insert.1 insert.2)) .init inserts

def matchAlone (request : String) (available : Finset String) (trie : HashTrie) :
    Option (TrieReply × HashTrie) :=
  alone locksFree (TrieCall.program chunkSize hash (.longestPrefixMatch request available)) trie

/-- The chunks with which endpoints were inserted. -/
def insertedWith (inserts : List (String × String)) (chunks : List Nat) (endpoint : String) :
    Prop :=
  ∃ request, (request, endpoint) ∈ inserts ∧ chunkHashes chunkSize hash request = chunks

/-- The endpoint was inserted with a request that shares the first `k` chunk hashes. -/
def InsertedSharing (inserts : List (String × String)) (request : String) (k : Nat)
    (endpoint : String) : Prop :=
  ∃ request', (request', endpoint) ∈ inserts ∧
    k ≤ leading (chunkHashes chunkSize hash request) (chunkHashes chunkSize hash request')

/-- The numbers of chunk hashes that are shared with an available endpoint. -/
def sharedDepths (inserts : List (String × String)) (request : String)
    (available : Finset String) : Set Nat :=
  {k | k = 0 ∨ ∃ e ∈ available, InsertedSharing chunkSize hash inserts request k e}

end Sequential

section Sequential

variable {chunkSize : Nat} {hash : String → Nat}

theorem locksFree_lock (i : Nat) : locksFree (.lock i) = some (.ok ()) := rfl

/-- What holds after some of the insertions: they are completed, and the trie records
them. -/
structure Recorded (chunkSize : Nat) (hash : String → Nat)
    (history : List ((String × String) × TrieReply)) (trie : HashTrie) : Prop where
  completed : ∀ insert ∈ history, insert.2 = (.ok none, ())
  records : Records (insertedWith chunkSize hash (history.map Prod.fst)) trie

theorem recorded_init (chunkSize : Nat) (hash : String → Nat) :
    Recorded chunkSize hash [] .init where
  completed := by simp
  records := records_init.congr fun chunks e => by simp [insertedWith]

theorem insertedWith_concat (inserts : List (String × String)) (insert : String × String)
    (chunks : List Nat) (e : String) :
    alsoInserted (insertedWith chunkSize hash inserts) (chunkHashes chunkSize hash insert.1)
        insert.2 chunks e ↔
      insertedWith chunkSize hash (inserts ++ [insert]) chunks e := by
  obtain ⟨request, endpoint⟩ := insert
  simp only [alsoInserted, insertedWith, List.mem_append, List.mem_singleton, Prod.mk.injEq]
  constructor
  · rintro (⟨request', hmem, hchunks⟩ | ⟨rfl, rfl⟩)
    · exact ⟨request', Or.inl hmem, hchunks⟩
    · exact ⟨request, Or.inr ⟨rfl, rfl⟩, rfl⟩
  · rintro ⟨request', hmem | ⟨rfl, rfl⟩, hchunks⟩
    · exact Or.inl ⟨request', hmem, hchunks⟩
    · exact Or.inr ⟨hchunks.symm, rfl⟩

theorem Recorded.insert (hsize : 0 < chunkSize) {history : List ((String × String) × TrieReply)}
    (h : Recorded chunkSize hash history trie) (insert : String × String) :
    Ends locksFree (TrieCall.program chunkSize hash (.insert insert.1 insert.2)) trie
      fun reply trie' => Recorded chunkSize hash (history ++ [(insert, reply)]) trie' := by
  have hinsert := Records.insertion locksFree_lock locksFree_allowed h.records insert.2
    (chunkAndHashBy_of_pos hsize hash insert.1)
  have hcall : Finishes locksFree (do
      insertBy chunkSize hash insert.1 insert.2
      pure none : Co HashTrie (Option (Nat × Finset String))) trie fun r trie' =>
        Recorded chunkSize hash (history ++ [(insert, (r, ()))]) trie' := by
    apply Finishes.seq hinsert
    · intro _ trie' hend
      obtain ⟨_, hrecords⟩ := hend
      apply finishes_pure
      constructor
      · intro call member
        rw [List.mem_append, List.mem_singleton] at member
        rcases member with member | rfl
        · exact h.completed call member
        · rfl
      · rw [List.map_append]
        exact hrecords.congr (insertedWith_concat _ insert)
    · intro e trie' hend
      obtain ⟨hr, _⟩ := hend
      cases hr
  exact hcall

/-- The insertions complete, and the trie records them. -/
theorem insertAll_records (hsize : 0 < chunkSize) (hash : String → Nat)
    (inserts : List (String × String)) :
    ∃ history trie, insertAll chunkSize hash inserts = some (history, trie) ∧
      (∀ insert ∈ history, insert.2 = (.ok none, ())) ∧
      Records (insertedWith chunkSize hash inserts) trie := by
  have hcall : ∀ history trie, Recorded chunkSize hash history trie → ∀ insert ∈ inserts,
      Ends locksFree (TrieCall.program chunkSize hash (.insert insert.1 insert.2)) trie
        fun reply trie' => Recorded chunkSize hash (history ++ [(insert, reply)]) trie' :=
    fun history trie h insert _ => h.insert hsize insert
  obtain ⟨history, trie, hrun, hinputs, hrecorded⟩ :=
    inTurn_ends (recorded_init chunkSize hash) hcall
  have hrecords := hrecorded.records
  rw [hinputs] at hrecords
  exact ⟨history, trie, hrun, hrecorded.completed, hrecords⟩

/-- Being found along the first hashes of a request is having been inserted with a
request that shares them. -/
theorem covered_iff_sharing (hrecords : Records (insertedWith chunkSize hash inserts) trie)
    (hpath : path <+: chunkHashes chunkSize hash request) (hne : path ≠ []) (e : String) :
    trie.Covered e path 0 ↔ InsertedSharing chunkSize hash inserts request path.length e := by
  have htake := List.prefix_iff_eq_take.mp hpath
  rw [hrecords.covered_iff e hne]
  constructor
  · rintro ⟨chunks, ⟨request', hmem, rfl⟩, hbegins⟩
    refine ⟨request', hmem, (le_leading_iff _ _ _).mpr ⟨hpath.length_le, ?_⟩⟩
    rw [← htake]
    exact hbegins
  · rintro ⟨request', hmem, hle⟩
    obtain ⟨-, hbegins⟩ := (le_leading_iff _ _ _).mp hle
    rw [← htake] at hbegins
    exact ⟨_, ⟨request', hmem, rfl⟩, hbegins⟩

theorem matchAlone_deepest (hsize : 0 < chunkSize) (hash : String → Nat) (request : String)
    (available : Finset String) (trie : HashTrie) :
    ∃ more selected, matchAlone chunkSize hash request available trie =
        some ((.ok (some (chunkSize * more.length, selected)), ()), trie) ∧
      Deepest trie (chunkHashes chunkSize hash request) 0 available more selected := by
  have hmatch : Finishes locksFree (longestPrefixMatchBy chunkSize hash request available) trie
      fun r trie' => trie' = trie ∧ ∃ more selected,
        r = .ok (0 + chunkSize * more.length, selected) ∧
        Deepest trie (chunkHashes chunkSize hash request) 0 available more selected := by
    unfold longestPrefixMatchBy
    rw [chunkAndHashBy_of_pos hsize]
    exact matchChunksBy_finishes locksFree_lock chunkSize _ 0 0 available trie
  have hcall : Finishes locksFree (do
      let result ← longestPrefixMatchBy chunkSize hash request available
      pure (some result) : Co HashTrie (Option (Nat × Finset String))) trie fun r trie' =>
        trie' = trie ∧ ∃ more selected, r = .ok (some (0 + chunkSize * more.length, selected)) ∧
          Deepest trie (chunkHashes chunkSize hash request) 0 available more selected := by
    apply hmatch.seq
    · intro result trie' hend
      obtain ⟨htrie, more, selected, hr, hdeepest⟩ := hend
      obtain rfl := Except.ok.inj hr
      exact finishes_pure ⟨htrie, more, selected, rfl, hdeepest⟩
    · intro e trie' hend
      obtain ⟨_, more, selected, hr, _⟩ := hend
      cases hr
  obtain ⟨⟨r, _⟩, trie', halone, htrie, more, selected, hr, hdeepest⟩ := hcall
  have hr' : r = .ok (some (0 + chunkSize * more.length, selected)) := hr
  rw [hr', htrie, Nat.zero_add] at halone
  exact ⟨more, selected, halone, hdeepest⟩

/-- The match gets to the greatest number of chunk hashes that an available endpoint
shares, and to all the endpoints that share them. -/
theorem matchAlone_greatest (hsize : 0 < chunkSize)
    (hrecords : Records (insertedWith chunkSize hash inserts) trie) (request : String)
    (available : Finset String) : ∃ k selected, matchAlone chunkSize hash request available trie =
        some ((.ok (some (chunkSize * k, selected)), ()), trie) ∧
      k ≤ (chunkHashes chunkSize hash request).length ∧
      IsGreatest (sharedDepths chunkSize hash inserts request available) k ∧ ∀ e, e ∈ selected ↔
        e ∈ available ∧ (k = 0 ∨ InsertedSharing chunkSize hash inserts request k e) := by
  obtain ⟨more, selected, hmatch, hdeepest⟩ :=
    matchAlone_deepest hsize hash request available trie
  have hmem (e : String) : e ∈ selected ↔ e ∈ available ∧
      (more.length = 0 ∨ InsertedSharing chunkSize hash inserts request more.length e) := by
    rw [hdeepest.mem e]
    by_cases hnil : more = []
    · simp [hnil, Covered]
    · have hpos : ¬ more.length = 0 := by simpa using hnil
      simp only [hpos, false_or, covered_iff_sharing hrecords hdeepest.taken hnil]
  refine ⟨more.length, selected, hmatch, hdeepest.taken.length_le, ⟨?_, ?_⟩, hmem⟩
  · by_cases hnil : more = []
    · exact Or.inl (by simp [hnil])
    · obtain ⟨e, he⟩ := hdeepest.nonempty hnil
      obtain ⟨havailable, hshared⟩ := (hmem e).mp he
      have hpos : ¬ more.length = 0 := by simpa using hnil
      exact Or.inr ⟨e, havailable, hshared.resolve_left hpos⟩
  · intro k hk
    rcases hk with rfl | ⟨e, he, request', hinsert, hle⟩
    · exact Nat.zero_le _
    · obtain ⟨hlength, -⟩ := (le_leading_iff _ _ _).mp hle
      have htake : ((chunkHashes chunkSize hash request).take k).length = k := by
        rw [List.length_take]
        omega
      by_cases hnil : (chunkHashes chunkSize hash request).take k = []
      · rw [hnil, List.length_nil] at htake
        omega
      · have hprefix := List.take_prefix k (chunkHashes chunkSize hash request)
        have hcovered : trie.Covered e ((chunkHashes chunkSize hash request).take k) 0 := by
          rw [covered_iff_sharing hrecords hprefix hnil, htake]
          exact ⟨request', hinsert, hle⟩
        have hlongest := hdeepest.longest e he _ hprefix hcovered
        omega

end Sequential

section Characters

variable {chunkSize : Nat} {hash : String → Nat}

/-- The endpoint was inserted with a request that agrees on the first characters. -/
def Agrees (inserts : List (String × String)) (request : String) (length : Nat)
    (endpoint : String) : Prop :=
  ∃ request', (request', endpoint) ∈ inserts ∧
    request'.toList.take length = request.toList.take length

/-- The chunks of the request and of the insertions. -/
def occurring (chunkSize : Nat) (inserts : List (String × String)) (request : String) :
    Set String :=
  {chunk | chunk ∈ chunksOf chunkSize request ∨
    ∃ insert ∈ inserts, chunk ∈ chunksOf chunkSize insert.1}

variable {e : String}

theorem insertedSharing_iff (hsize : 0 < chunkSize)
    (hinjective : Set.InjOn hash (occurring chunkSize inserts request)) (k : Nat) (e : String) :
    InsertedSharing chunkSize hash inserts request k e ↔
      k ≤ (request.toList.toChunks chunkSize).length ∧ Agrees inserts request (chunkSize * k) e := by
  have hleading (request' : String) (hmem : (request', e) ∈ inserts) :
      k ≤ leading (chunkHashes chunkSize hash request) (chunkHashes chunkSize hash request') ↔
        k ≤ (request.toList.toChunks chunkSize).length ∧
        request'.toList.take (chunkSize * k) = request.toList.take (chunkSize * k) := by
    apply le_leading_chunkHashes_iff hsize
    intro chunk hchunk chunk' hchunk'
    exact hinjective (Or.inl hchunk) (Or.inr ⟨_, hmem, hchunk'⟩)
  constructor
  · rintro ⟨request', hmem, hle⟩
    obtain ⟨hk, hagree⟩ := (hleading request' hmem).mp hle
    exact ⟨hk, request', hmem, hagree⟩
  · rintro ⟨hk, request', hmem, hagree⟩
    exact ⟨request', hmem, (hleading request' hmem).mpr ⟨hk, hagree⟩⟩

theorem Agrees.mono {length length' : Nat} (h : Agrees inserts request length e)
    (hle : length' ≤ length) : Agrees inserts request length' e := by
  obtain ⟨request', hmem, hagree⟩ := h
  refine ⟨request', hmem, ?_⟩
  have htake := congrArg (List.take length') hagree
  rwa [List.take_take, List.take_take, Nat.min_eq_left hle] at htake

/-- What agrees beyond the end of the request is the request. -/
theorem Agrees.eq_of_lt {length : Nat} (h : Agrees inserts request length e)
    (hlt : request.length < length) : (request, e) ∈ inserts := by
  obtain ⟨request', hmem, hagree⟩ := h
  rw [← String.length_toList] at hlt
  rw [List.take_of_length_le hlt.le] at hagree
  have hlength := congrArg List.length hagree
  rw [List.length_take] at hlength
  have hshort : request'.toList.length ≤ length := by omega
  rw [List.take_of_length_le hshort] at hagree
  rwa [String.toList_injective hagree] at hmem

section Greatest

variable {k : Nat}

variable (hsize : 0 < chunkSize) (hinjective : Set.InjOn hash (occurring chunkSize inserts request))
  (h : IsGreatest (sharedDepths chunkSize hash inserts request available) k)

include hsize hinjective h

/-- The chunks that matched are no longer than the request, unless the last of them is a
short one. -/
theorem matched_length_le_iff (hk : k ≤ (request.toList.toChunks chunkSize).length) :
    chunkSize * k ≤ request.length ↔
      chunkSize ∣ request.length ∨ ∀ e ∈ available, (request, e) ∉ inserts := by
  obtain ⟨hlower, hupper⟩ := length_toChunks_bounds hsize request.toList
  rw [String.length_toList] at hlower hupper
  have hmul := Nat.mul_le_mul_left chunkSize hk
  constructor
  · intro hle
    by_contra hnot
    push Not at hnot
    obtain ⟨hdvd, e, he, hinsert⟩ := hnot
    have hall : InsertedSharing chunkSize hash inserts request
        (request.toList.toChunks chunkSize).length e :=
      (insertedSharing_iff hsize hinjective _ e).mpr ⟨le_rfl, request, hinsert, rfl⟩
    have hge := Nat.mul_le_mul_left chunkSize (h.2 (Or.inr ⟨e, he, hall⟩))
    exact hdvd ⟨(request.toList.toChunks chunkSize).length, by omega⟩
  · intro hcond
    by_contra hlt
    rcases hcond with ⟨m, hm⟩ | hnone
    · -- the last chunk is a full one
      have hcount : (request.toList.toChunks chunkSize).length ≤ m := by
        rw [hm, ← Nat.mul_succ] at hupper
        exact Nat.le_of_lt_succ (Nat.lt_of_mul_lt_mul_left hupper)
      have hm' := Nat.mul_le_mul_left chunkSize hcount
      omega
    · rcases h.1 with hzero | ⟨e, he, hshared⟩
      · rw [hzero] at hlt
        omega
      · obtain ⟨-, hagrees⟩ := (insertedSharing_iff hsize hinjective _ e).mp hshared
        exact hnone e he (hagrees.eq_of_lt (by omega))

/-- The endpoints with which the match ends agree on its characters, unless it ends before
the first chunk, where all that are available are returned. -/
theorem matched_agrees_iff :
    (∀ e, e ∈ available ∧ (k = 0 ∨ InsertedSharing chunkSize hash inserts request k e) →
        Agrees inserts request (chunkSize * k) e) ↔
      (request ≠ "" ∧ ∃ e ∈ available, Agrees inserts request chunkSize e) ∨
        ∀ e ∈ available, Agrees inserts request 0 e := by
  by_cases hzero : k = 0
  · have hfirst : ¬ (request ≠ "" ∧ ∃ e ∈ available, Agrees inserts request chunkSize e) := by
      rintro ⟨hne, e, he, hagrees⟩
      have hcount : 1 ≤ (request.toList.toChunks chunkSize).length := by
        have hlist : request.toList ≠ [] := by simpa using hne
        rw [toChunks_of_ne_nil hsize hlist, List.length_cons]
        omega
      have hone : InsertedSharing chunkSize hash inserts request 1 e :=
        (insertedSharing_iff hsize hinjective 1 e).mpr ⟨hcount, by rwa [Nat.mul_one]⟩
      have hle := h.2 (Or.inr ⟨e, he, hone⟩)
      omega
    simp [hzero, hfirst]
  · obtain ⟨e, he, hshared⟩ := h.1.resolve_left hzero
    obtain ⟨hk, hagrees⟩ := (insertedSharing_iff hsize hinjective k e).mp hshared
    have hne : request ≠ "" := by
      rintro rfl
      simp [List.toChunks] at hk
      omega
    have hchunk : chunkSize ≤ chunkSize * k := Nat.le_mul_of_pos_right _ (by omega)
    constructor
    · intro _
      exact Or.inl ⟨hne, e, he, hagrees.mono hchunk⟩
    · intro _ e hend
      obtain ⟨_, hshared⟩ := hend
      exact ((insertedSharing_iff hsize hinjective k e).mp (hshared.resolve_left hzero)).2

end Greatest

end Characters

/-- With a hash that is injective on the chunks that occur, the matched length is one of real
characters, of the request and of what the returned endpoints were inserted with, exactly if
the request does not end in a short chunk that was inserted too, and some chunk matches or
else every available endpoint was inserted before. -/
theorem match_length_characters_iff {chunkSize : Nat} (hsize : 0 < chunkSize)
    {hash : String → Nat} (inserts : List (String × String)) (request : String)
    (available : Finset String)
    (hinjective : Set.InjOn hash (occurring chunkSize inserts request)) :
    ∃ history trie matchLength selected,
      insertAll chunkSize hash inserts = some (history, trie) ∧
      matchAlone chunkSize hash request available trie =
        some ((.ok (some (matchLength, selected)), ()), trie) ∧
      ((matchLength ≤ request.length ∧ ∀ e ∈ selected, Agrees inserts request matchLength e) ↔
        (chunkSize ∣ request.length ∨ ∀ e ∈ available, (request, e) ∉ inserts) ∧
        ((request ≠ "" ∧ ∃ e ∈ available, Agrees inserts request chunkSize e) ∨
          ∀ e ∈ available, Agrees inserts request 0 e)) := by
  obtain ⟨history, trie, hrun, -, hrecords⟩ := insertAll_records hsize hash inserts
  obtain ⟨k, selected, hmatch, hk, hgreatest, hselected⟩ :=
    matchAlone_greatest hsize hrecords request available
  rw [length_chunkHashes] at hk
  refine ⟨history, trie, chunkSize * k, selected, hrun, hmatch, ?_⟩
  simp only [hselected]
  rw [matched_length_le_iff hsize hinjective hgreatest hk,
    matched_agrees_iff hsize hinjective hgreatest]

/-- A request of one full chunk, the first of one that was inserted. -/
theorem match_length_characters_full : ∃ history trie matchLength selected,
    insertAll 2 String.length [("abc", "e")] = some (history, trie) ∧
    matchAlone 2 String.length "ab" {"e"} trie =
      some ((.ok (some (matchLength, selected)), ()), trie) ∧
    matchLength ≤ "ab".length ∧ ∀ e ∈ selected, Agrees [("abc", "e")] "ab" matchLength e := by
  have hshort : chunksOf 2 "ab" = ["ab"] := rfl
  have hlong : chunksOf 2 "abc" = ["ab", "c"] := rfl
  have hinjective : Set.InjOn String.length (occurring 2 [("abc", "e")] "ab") := by
    have hdistinct : ∀ a ∈ ["ab", "c"], ∀ b ∈ ["ab", "c"], a.length = b.length → a = b := by
      decide
    have hmem (chunk : String) (h : chunk ∈ occurring 2 [("abc", "e")] "ab") :
        chunk ∈ ["ab", "c"] := by
      simpa [occurring, hshort, hlong] using h
    intro a ha b hb hlength
    exact hdistinct a (hmem a ha) b (hmem b hb) hlength
  obtain ⟨history, trie, matchLength, selected, hrun, hmatch, hiff⟩ :=
    match_length_characters_iff (by decide : 0 < 2) [("abc", "e")] "ab" {"e"} hinjective
  have hagrees : Agrees [("abc", "e")] "ab" 2 "e" := ⟨"abc", List.mem_cons_self, rfl⟩
  exact ⟨history, trie, matchLength, selected, hrun, hmatch,
    hiff.mpr ⟨Or.inl ⟨1, rfl⟩, Or.inl ⟨by decide, "e", by decide, hagrees⟩⟩⟩

/-- A short prompt that is sent again matches 128 characters; and an endpoint that was never
used is returned where nothing matches. -/
theorem match_length_beyond_request : ∃ history trie,
    insertAll chunkSize String.length [("hi", "e")] = some (history, trie) ∧
    Set.InjOn String.length (occurring chunkSize [("hi", "e")] "hi") ∧
    matchAlone chunkSize String.length "hi" {"e"} trie =
      some ((.ok (some (128, {"e"})), ()), trie) ∧ "hi".length < 128 ∧
    matchAlone chunkSize String.length "hi" {"new"} trie =
      some ((.ok (some (0, {"new"})), ()), trie) ∧ ¬ Agrees [("hi", "e")] "hi" 0 "new" := by
  have hchunks : chunksOf chunkSize "hi" = ["hi"] := rfl
  refine ⟨_, _, rfl, ?_, rfl, by decide, rfl, ?_⟩
  · have hmem (chunk : String) (h : chunk ∈ occurring chunkSize [("hi", "e")] "hi") :
        chunk = "hi" := by
      simpa [occurring, hchunks] using h
    intro a ha b hb _
    rw [hmem a ha, hmem b hb]
  · rintro ⟨request, hmem, -⟩
    simp at hmem

end ProductionStack.Routing

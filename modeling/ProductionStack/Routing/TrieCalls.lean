import ProductionStack.Routing.TrieGrowth

/-!
Concurrent calls of one hash trie. A node's lock is held for one look at it or
one change of it, and in between any other call may go on. The chunk size is
that of the constructor here, of which the router uses the default.
-/

namespace ProductionStack.Routing.HashTrie

open Lib Python Request

/-! `HashTrie(chunk_size)`. -/

def chunkHashes (chunkSize : Nat) (hash : String → Nat) (request : String) : List Nat :=
  (request.toList.toChunks chunkSize).map fun chunk => hash (String.ofList chunk)

/-- A range cannot have the step 0. -/
def chunkAndHashBy (chunkSize : Nat) (hash : String → Nat) (request : String) :
    Except PyExc (List Nat) :=
  if chunkSize = 0 then .error (.new .valueError "range() arg 3 must not be zero")
  else .ok (chunkHashes chunkSize hash request)

theorem chunkAndHashBy_of_pos {chunkSize : Nat} (hsize : 0 < chunkSize) (hash : String → Nat)
    (request : String) :
    chunkAndHashBy chunkSize hash request = .ok (chunkHashes chunkSize hash request) :=
  if_neg hsize.ne'

def insertBy (chunkSize : Nat) (hash : String → Nat) (request endpoint : String) :
    Co HashTrie Unit := do
  addLocked 0 endpoint
  let chunks ← evaluate (chunkAndHashBy chunkSize hash request)
  insertChunks endpoint chunks 0

def matchChunksBy (chunkSize : Nat) :
    List Nat → Nat → Nat → Finset String → Co HashTrie (Nat × Finset String)
  | [], _, matchLength, selected => pure (matchLength, selected)
  | chunkHash :: rest, i, matchLength, selected => do
      lock i
      let trie ← get
      match (trie.node i).children.get? chunkHash with
      | none => pure (matchLength, selected)
      | some child => do
          lock child
          let trie ← get
          let intersection := (trie.node child).endpoints ∩ selected
          if intersection = ∅ then pure (matchLength, selected)
          else matchChunksBy chunkSize rest child (matchLength + chunkSize) intersection

def longestPrefixMatchBy (chunkSize : Nat) (hash : String → Nat) (request : String)
    (available : Finset String) : Co HashTrie (Nat × Finset String) := do
  let chunks ← evaluate (chunkAndHashBy chunkSize hash request)
  matchChunksBy chunkSize chunks 0 0 available

variable (hash : String → Nat)

/-- The trie of the prefix-aware router. -/
theorem insertPrompt_eq (request endpoint : String) :
    insertPrompt hash (.str request) endpoint = insertBy chunkSize hash request endpoint := rfl

theorem matchChunks_eq (chunks : List Nat) (i matchLength : Nat) (selected : Finset String) :
    matchChunks chunks i matchLength selected =
      matchChunksBy chunkSize chunks i matchLength selected := by
  induction chunks generalizing i matchLength selected with
  | nil => rfl
  | cons chunkHash rest ih =>
    have hrest : matchChunks rest = matchChunksBy chunkSize rest := by
      funext i matchLength selected
      exact ih i matchLength selected
    unfold matchChunks
    rw [hrest]
    rfl

theorem longestPrefixMatch_eq (request : String) (available : Finset String) :
    longestPrefixMatch hash (.str request) available =
      longestPrefixMatchBy chunkSize hash request available := by
  unfold longestPrefixMatch longestPrefixMatchBy
  simp only [matchChunks_eq]
  rfl

/-- How many hashes two prompts have in common at the beginning. -/
def leading : List Nat → List Nat → Nat
  | a :: as, b :: bs => if a = b then leading as bs + 1 else 0
  | _, _ => 0

theorem leading_le {path a b : List Nat} (ha : path <+: a) (hb : path <+: b) :
    path.length ≤ leading a b := by
  induction path generalizing a b with
  | nil => exact Nat.zero_le _
  | cons chunkHash rest ih =>
    obtain ⟨a', rfl⟩ := ha
    obtain ⟨b', rfl⟩ := hb
    have hrest := ih (List.prefix_append rest a') (List.prefix_append rest b')
    simp only [List.cons_append, leading, if_pos, List.length_cons]
    omega

section Calls

variable {inserted : List Nat → String → Prop} {trie : HashTrie} {i : Nat}

/-- While a node's lock is awaited the trie grows. -/
theorem moves_lock {α : Type} {f : Unit → Co HashTrie α} {post : Except Raised α → HashTrie → Prop}
    (hok : ∀ trie', Grows inserted trie trie' → Moves (Grows inserted) (f ()) trie' post)
    (herror : ∀ e trie', Grows inserted trie trie' → post (.error e) trie') :
    Moves (Grows inserted) (lock i >>= f) trie post := by
  have hlock : Moves (Grows inserted) (lock i) trie fun _ trie' => Grows inserted trie trie' := by
    apply moves_await
    intro answer trie' _ hgrows
    exact hgrows
  apply hlock.seq
  · intro _ trie' hgrows
    exact hok trie' hgrows
  · intro e trie' hgrows
    exact herror e trie' hgrows

/-! `insert`. -/

/-- The root has no parent. -/
theorem Sound.not_edge_root (h : Sound inserted trie) (i chunkHash : Nat) :
    ¬ trie.Edge i chunkHash 0 := by
  intro hedge
  obtain ⟨labels, hlabels, -⟩ := h.justified
  have hroot := hlabels.child i chunkHash 0 hedge
  rw [hlabels.root] at hroot
  simp at hroot

variable {endpoint : String} {chunks path : List Nat}

theorem addLocked_moves (hi : i < trie.nodes.length) (hplaced : Placed trie i path)
    (hchunks : inserted chunks endpoint) (hbegins : path <+: chunks)
    (hparent : ∀ trie', Extends trie trie' → Sound inserted trie' → ∀ j chunkHash, trie'.Edge j chunkHash i → endpoint ∈ trie'.endpoints j)
    : Moves (Grows inserted) (addLocked i endpoint) trie fun r trie' =>
      Grows inserted trie trie' ∧ (r = .ok () → endpoint ∈ trie'.endpoints i) := by
  apply moves_lock
  · intro trie' hgrows
    apply moves_get
    have hi' : i < trie'.nodes.length := Nat.lt_of_lt_of_le hi hgrows.1.length
    have hadd : Grows inserted trie' (trie'.addEndpoint i endpoint) := by
      refine ⟨extends_addEndpoint hi' endpoint, ?_⟩
      intro hsound
      exact hsound.addEndpoint hi' (hparent trie' hgrows.1 hsound) (hplaced.mono hgrows.1) hchunks
        hbegins
    refine ⟨hadd, ?_⟩
    intro answer trie'' htrie
    obtain rfl : trie'' = trie'.addEndpoint i endpoint := htrie
    exact ⟨hgrows.trans _ _ _ hadd,
      fun _ => (mem_addEndpoint hi' endpoint endpoint i).mpr (Or.inr ⟨rfl, rfl⟩)⟩
  · intro e trie' hgrows
    refine ⟨hgrows, ?_⟩
    intro h
    cases h

/-- The child of a node, there already or made now. -/
theorem child_grows (inserted : List Nat → String → Prop) (hi : i < trie.nodes.length)
    (chunkHash : Nat) :
    ∃ child trie', trie.child i chunkHash = (child, trie') ∧ Grows inserted trie trie' ∧
      trie'.Edge i chunkHash child := by
  cases hchild : (trie.node i).children.get? chunkHash with
  | some child => exact ⟨child, trie, child_of_edge hchild, .refl inserted trie, hchild⟩
  | none =>
    refine ⟨_, _, child_of_none hchild, ⟨extends_addChild hi hchild, ?_⟩, ?_⟩
    · exact fun hsound => hsound.addChild hi hchild
    · exact (edge_addChild hi hchild _ _ _).mpr (Or.inr ⟨rfl, rfl, rfl⟩)

/-- An insertion that is at node `i`, with the endpoint in it. When it is through,
every node on the rest of its way has the endpoint. -/
theorem insertChunks_moves (hchunks : inserted chunks endpoint) (rest : List Nat)
    (hpath : path ++ rest <+: chunks) (hsound : Sound inserted trie) (hi : i < trie.nodes.length)
    (hplaced : Placed trie i path) (hmem : endpoint ∈ trie.endpoints i) :
    Moves (Grows inserted) (insertChunks endpoint rest i) trie fun r trie' =>
      Grows inserted trie trie' ∧ (r = .ok () → Covered trie' endpoint rest i) := by
  induction rest generalizing trie path i with
  | nil => exact moves_pure ⟨.refl inserted trie, fun _ => trivial⟩
  | cons chunkHash rest ih =>
    apply moves_lock
    · intro trie₁ hgrows₁
      apply moves_get
      have hi₁ : i < trie₁.nodes.length := Nat.lt_of_lt_of_le hi hgrows₁.1.length
      obtain ⟨child, trie₂, hchild, hgrows₂, hedge⟩ := child_grows inserted hi₁ chunkHash
      rw [hchild]
      apply moves_put hgrows₂
      have hgrows := hgrows₁.trans _ _ _ hgrows₂
      have hsound₂ := hgrows.2 hsound
      have hplaced₂ : Placed trie₂ child (path ++ [chunkHash]) :=
        (hplaced.mono hgrows.1).child hedge
      have hpath' : (path ++ [chunkHash]) ++ rest <+: chunks := by simpa using hpath
      have hbegins : path ++ [chunkHash] <+: chunks := (List.prefix_append _ rest).trans hpath'
      -- the one parent of the child is `i`, and it has the endpoint
      have hparent (trie' : HashTrie) (hextends : Extends trie₂ trie')
          (hsound' : Sound inserted trie') (j h : Nat) (hj : trie'.Edge j h child) :
          endpoint ∈ trie'.endpoints j := by
        obtain rfl := hsound'.parent i j chunkHash h child (hextends.edges _ _ _ hedge) hj
        exact hextends.endpoints i (hgrows.1.endpoints i hmem)
      have hadd := addLocked_moves (hsound₂.bounded i chunkHash child hedge) hplaced₂ hchunks
        hbegins hparent
      apply hadd.seq
      · rintro _ trie₃ ⟨hgrows₃, hmem₃⟩
        have hchild₃ : child < trie₃.nodes.length :=
          Nat.lt_of_lt_of_le (hsound₂.bounded i chunkHash child hedge) hgrows₃.1.length
        have hrest := ih hpath' (hgrows₃.2 hsound₂) hchild₃ (hplaced₂.mono hgrows₃.1) (hmem₃ rfl)
        apply hrest.mono
        rintro r trie' ⟨hgrows₄, hcovered⟩
        refine ⟨hgrows.trans _ _ _ (hgrows₃.trans _ _ _ hgrows₄), ?_⟩
        intro hr
        exact ⟨child, hgrows₄.1.edges _ _ _ (hgrows₃.1.edges _ _ _ hedge),
          hgrows₄.1.endpoints child (hmem₃ rfl), hcovered hr⟩
      · rintro e trie' ⟨hgrows₃, -⟩
        exact ⟨hgrows.trans _ _ _ hgrows₃, fun h => by cases h⟩
    · intro e trie' hgrows
      exact ⟨hgrows, fun h => by cases h⟩

/-- An insertion as a whole. -/
theorem insertion_moves (hchunks : inserted chunks endpoint) (hsound : Sound inserted trie)
    {hashed : Except PyExc (List Nat)}
    (hhashed : ∀ chunks', hashed.mapError Raised.error = .ok chunks' → chunks' = chunks) :
    Moves (Grows inserted) (do
        addLocked 0 endpoint
        let chunks ← evaluate hashed
        insertChunks endpoint chunks 0) trie fun r trie' =>
      Grows inserted trie trie' ∧ (r = .ok () → trie'.Covered endpoint chunks 0) := by
  have hroot := addLocked_moves hsound.rooted (placed_root trie) hchunks List.nil_prefix
    fun trie' _ hsound' j chunkHash hedge => absurd hedge (hsound'.not_edge_root j chunkHash)
  apply hroot.seq
  · intro _ trie₁ hend
    obtain ⟨hgrows, hmem⟩ := hend
    apply moves_ofExcept_bind
    · intro chunks' hok
      rw [hhashed chunks' hok]
      have hsound₁ := hgrows.2 hsound
      have hrest := insertChunks_moves hchunks _ List.prefix_rfl hsound₁ hsound₁.rooted
        (placed_root trie₁) (hmem rfl)
      apply hrest.mono
      intro r trie' hend
      obtain ⟨hgrows', hcovered⟩ := hend
      exact ⟨hgrows.trans _ _ _ hgrows', hcovered⟩
    · intro e
      exact ⟨hgrows, fun h => by cases h⟩
  · intro e trie' hend
    obtain ⟨hgrows, _⟩ := hend
    exact ⟨hgrows, fun h => by cases h⟩

/-! `longest_prefix_match`. -/

/-- What the loop returns when it has come to node `i` in the state `trie`, with
`rest` to go: it took the chunks `more`, and stopped no earlier than where an
endpoint that covers more of them would have led. -/
structure Stopped (inserted : List Nat → String → Prop) (chunkSize : Nat) (trie : HashTrie)
    (path rest : List Nat) (i matchLength : Nat) (selected : Finset String) (more : List Nat)
    (result : Nat × Finset String) : Prop where
  taken : more <+: rest
  length : result.1 = matchLength + chunkSize * more.length
  subset : result.2 ⊆ selected
  nonempty : selected.Nonempty → result.2.Nonempty
  inserted : more ≠ [] → ∀ e ∈ result.2, ∃ chunks, inserted chunks e ∧ path ++ more <+: chunks
  longest : ∀ e ∈ selected, ∀ chunks, trie.Covered e chunks i → leading rest chunks ≤ more.length

variable {rest : List Nat} {chunkHash : Nat} {chunkSize matchLength child : Nat}
  {selected : Finset String}

/-- The loop stops where it is if no endpoint covers the next chunk. -/
theorem stopped_here (hcovered : ∀ e ∈ selected, ¬ trie.Covered e [chunkHash] i) :
    Stopped inserted chunkSize trie path (chunkHash :: rest) i matchLength selected []
      (matchLength, selected) where
  taken := List.nil_prefix
  length := rfl
  subset := Finset.Subset.refl _
  nonempty h := h
  inserted h := absurd rfl h
  longest e he chunks hchunks := by
    cases chunks with
    | nil => exact Nat.le_refl 0
    | cons first others =>
      obtain ⟨child, hedge, hmem, -⟩ := hchunks
      have hne : chunkHash ≠ first := by
        rintro rfl
        exact hcovered e he ⟨child, hedge, hmem, trivial⟩
      simp [leading, hne]

theorem Covered.uncons (h : Covered trie endpoint (chunkHash :: rest) i)
    (hedge : trie.Edge i chunkHash child) :
    endpoint ∈ trie.endpoints child ∧ Covered trie endpoint rest child := by
  obtain ⟨child', hedge', hmem, hrest⟩ := h
  obtain rfl : child' = child := Option.some.inj (hedge'.symm.trans hedge)
  exact ⟨hmem, hrest⟩

/-- The loop goes on at a child of the node. -/
theorem Stopped.descend {trie' : HashTrie} {more : List Nat} {result : Nat × Finset String}
    (hextends : Extends trie trie') (hsound : Sound inserted trie') (hplaced : Placed trie' i path)
    (hedge : trie'.Edge i chunkHash child) (hne : trie'.endpoints child ∩ selected ≠ ∅)
    (h : Stopped inserted chunkSize trie' (path ++ [chunkHash]) rest child (matchLength + chunkSize) (trie'.endpoints child ∩ selected) more result) :
    Stopped inserted chunkSize trie path (chunkHash :: rest) i matchLength selected
      (chunkHash :: more) result where
  taken := List.cons_prefix_cons.mpr ⟨rfl, h.taken⟩
  length := by
    rw [h.length, List.length_cons, Nat.mul_succ]
    omega
  subset := h.subset.trans Finset.inter_subset_right
  nonempty _ := h.nonempty (Finset.nonempty_iff_ne_empty.mpr hne)
  inserted _ e he := by
    by_cases hnil : more = []
    · subst hnil
      have hmem := Finset.inter_subset_left (h.subset he)
      exact hsound.inserted_of_mem (hplaced.child hedge) hmem
    · obtain ⟨chunks, hchunks, hbegins⟩ := h.inserted hnil e he
      exact ⟨chunks, hchunks, by simpa using hbegins⟩
  longest e he chunks hcovered := by
    cases chunks with
    | nil => exact Nat.zero_le _
    | cons first others =>
      by_cases hfirst : chunkHash = first
      · subst hfirst
        obtain ⟨hmem, hothers⟩ := (hcovered.mono hextends).uncons hedge
        have hle := h.longest e (Finset.mem_inter.mpr ⟨hmem, he⟩) others hothers
        simp only [leading, if_pos, List.length_cons]
        omega
      · simp [leading, hfirst]

theorem matchChunksBy_moves (chunkSize : Nat) (rest : List Nat) (matchLength : Nat)
    (selected : Finset String) (hsound : Sound inserted trie) (hplaced : Placed trie i path) :
    Moves (Grows inserted) (matchChunksBy chunkSize rest i matchLength selected) trie fun r _ =>
      ∀ result, r = .ok result → ∃ more,
        Stopped inserted chunkSize trie path rest i matchLength selected more result := by
  induction rest generalizing trie path i matchLength selected with
  | nil =>
    rintro _ ⟨⟩
    refine ⟨[], List.nil_prefix, rfl, Finset.Subset.refl _, id, fun h => absurd rfl h, ?_⟩
    intro e he chunks hchunks
    exact Nat.le_refl 0
  | cons chunkHash rest ih =>
    apply moves_lock
    · intro trie₁ hgrows₁
      apply moves_get
      split
      · next hnone =>
          rintro _ ⟨⟩
          refine ⟨[], stopped_here ?_⟩
          rintro e he ⟨child, hedge, -⟩
          have hedge₁ : (trie₁.node i).children.get? chunkHash = some child :=
            hgrows₁.1.edges i chunkHash child hedge
          rw [hnone] at hedge₁
          cases hedge₁
      · next child hedge =>
          apply moves_lock
          · intro trie₂ hgrows₂
            apply moves_get
            have hgrows := hgrows₁.trans _ _ _ hgrows₂
            have hedge₂ : trie₂.Edge i chunkHash child := hgrows₂.1.edges _ _ _ hedge
            dsimp only
            split
            · next hempty =>
                rintro _ ⟨⟩
                refine ⟨[], stopped_here ?_⟩
                intro e he hcovered
                have hmem := ((hcovered.mono hgrows.1).uncons hedge₂).1
                have hmem' : e ∈ (trie₂.node child).endpoints ∩ selected :=
                  Finset.mem_inter.mpr ⟨hmem, he⟩
                rw [hempty] at hmem'
                exact Finset.notMem_empty e hmem'
            · next hsome =>
                have hplaced₂ := hplaced.mono hgrows.1
                have hsound₂ := hgrows.2 hsound
                apply (ih _ _ hsound₂ (hplaced₂.child hedge₂)).mono
                intro r _ hr result hresult
                obtain ⟨more, hmore⟩ := hr result hresult
                exact ⟨chunkHash :: more, hmore.descend hgrows.1 hsound₂ hplaced₂ hedge₂ hsome⟩
          · intro e trie' _ result h
            cases h
    · intro e trie' _ result h
      cases h

end Calls

end ProductionStack.Routing.HashTrie

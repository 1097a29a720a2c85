import ProductionStack.Routing.PrefixAware

/-!
How the hash trie grows. Nodes are added and never removed, a node never loses a
child or an endpoint, and so whatever a coroutine has found on its way down is
still there when it goes on. `Sound` is what holds of the trie at every moment:
it is a tree, an endpoint of a node is one of its parent too, and it stands there
because of a prompt that begins with the hashes on the way to the node.
-/

namespace ProductionStack.Routing.HashTrie

open Lib

def endpoints (trie : HashTrie) (i : Nat) : Finset String := (trie.node i).endpoints

def Edge (trie : HashTrie) (i chunkHash child : Nat) : Prop :=
  (trie.node i).children.get? chunkHash = some child

/-! The trie after the two changes of `insert`. -/

theorem node_addEndpoint (trie : HashTrie) (i j : Nat) (endpoint : String) :
    (trie.addEndpoint i endpoint).node j =
      if i = j ∧ j < trie.nodes.length then
        { trie.node j with endpoints := insert endpoint (trie.endpoints j) }
      else trie.node j := by
  unfold addEndpoint endpoints node
  by_cases hij : i = j
  · by_cases hj : j < trie.nodes.length
    · simp [hij, hj]
    · simp [hij, hj]
  · simp [hij]

variable {trie : HashTrie} {i : Nat} {chunks : List Nat}

@[simp] theorem length_addEndpoint (trie : HashTrie) (i : Nat) (endpoint : String) :
    (trie.addEndpoint i endpoint).nodes.length = trie.nodes.length :=
  List.length_modify _ _ _

@[simp] theorem edge_addEndpoint (trie : HashTrie) (i : Nat) (endpoint : String)
    (j chunkHash child : Nat) :
    (trie.addEndpoint i endpoint).Edge j chunkHash child ↔ trie.Edge j chunkHash child := by
  unfold Edge
  rw [node_addEndpoint]
  split
  · exact Iff.rfl
  · exact Iff.rfl

theorem mem_addEndpoint (hi : i < trie.nodes.length) (endpoint e : String) (j : Nat) :
    e ∈ (trie.addEndpoint i endpoint).endpoints j ↔
      e ∈ trie.endpoints j ∨ j = i ∧ e = endpoint := by
  unfold endpoints
  rw [node_addEndpoint]
  by_cases hij : i = j
  · subst hij
    rw [if_pos ⟨rfl, hi⟩, Finset.mem_insert]
    tauto
  · rw [if_neg fun h => hij h.1]
    tauto

/-- The trie with a new node, as a child of `i`. -/
def addChild (trie : HashTrie) (i chunkHash : Nat) : HashTrie :=
  ⟨(trie.nodes.modify i fun node =>
    { node with children := node.children.set chunkHash trie.nodes.length }) ++ [.init]⟩

variable {chunkHash : Nat} {path : List Nat} {endpoint : String}
  {inserted : List Nat → String → Prop}

theorem child_of_edge {child : Nat} (h : trie.Edge i chunkHash child) :
    trie.child i chunkHash = (child, trie) := by
  unfold HashTrie.child
  rw [show (trie.node i).children.get? chunkHash = some child from h]

theorem child_of_none (h : (trie.node i).children.get? chunkHash = none) :
    trie.child i chunkHash = (trie.nodes.length, trie.addChild i chunkHash) := by
  unfold HashTrie.child
  rw [h]
  rfl

theorem node_of_length_le (hi : trie.nodes.length ≤ i) : trie.node i = .init := by
  unfold node
  rw [List.getD_eq_getElem?_getD, List.getElem?_eq_none hi]
  rfl

theorem node_addChild (hi : i < trie.nodes.length) (chunkHash j : Nat) :
    (trie.addChild i chunkHash).node j =
      if i = j then
        { trie.node j with children := (trie.node j).children.set chunkHash trie.nodes.length }
      else trie.node j := by
  have hlength (f : TrieNode → TrieNode) : (trie.nodes.modify i f).length = trie.nodes.length :=
    List.length_modify _ _ _
  by_cases hj : j < trie.nodes.length
  · unfold addChild node
    rw [List.getD_eq_getElem?_getD, List.getD_eq_getElem?_getD,
      List.getElem?_append_left (by rw [hlength]; exact hj), List.getElem?_modify]
    by_cases hij : i = j
    · simp [hij, hj]
    · simp [hij]
  · -- the new node itself, or one beyond it
    have hij : ¬ i = j := by omega
    rw [if_neg hij, node_of_length_le (Nat.le_of_not_lt hj)]
    unfold addChild node
    rw [List.getD_eq_getElem?_getD, List.getElem?_append_right (by rw [hlength]; omega)]
    cases j - (trie.nodes.modify i _).length with
    | zero => rfl
    | succ n => rfl

@[simp] theorem length_addChild (trie : HashTrie) (i chunkHash : Nat) :
    (trie.addChild i chunkHash).nodes.length = trie.nodes.length + 1 := by
  unfold addChild
  rw [List.length_append, List.length_modify]
  rfl

theorem endpoints_addChild (hi : i < trie.nodes.length) (chunkHash j : Nat) :
    (trie.addChild i chunkHash).endpoints j = trie.endpoints j := by
  unfold endpoints
  rw [node_addChild hi]
  split
  · rfl
  · rfl

theorem edge_addChild (hi : i < trie.nodes.length)
    (hnone : (trie.node i).children.get? chunkHash = none) (j h child : Nat) :
    (trie.addChild i chunkHash).Edge j h child ↔
      trie.Edge j h child ∨ j = i ∧ h = chunkHash ∧ child = trie.nodes.length := by
  unfold Edge
  rw [node_addChild hi]
  by_cases hij : i = j
  · subst hij
    rw [if_pos rfl]
    rw [Dict.get?_set]
    by_cases hh : h = chunkHash
    · subst hh
      rw [hnone]
      simp [eq_comm]
    · simp [hh]
  · rw [if_neg hij]
    tauto

/-! What every change leaves in place. -/

structure Extends (trie trie' : HashTrie) : Prop where
  length : trie.nodes.length ≤ trie'.nodes.length
  edges : ∀ i chunkHash child, trie.Edge i chunkHash child → trie'.Edge i chunkHash child
  endpoints : ∀ i, trie.endpoints i ⊆ trie'.endpoints i

theorem Extends.refl (trie : HashTrie) : Extends trie trie :=
  ⟨Nat.le_refl _, fun _ _ _ h => h, fun _ => Finset.Subset.refl _⟩

variable {trie' : HashTrie}

theorem Extends.trans {trie'' : HashTrie} (h : Extends trie trie') (h' : Extends trie' trie'') :
    Extends trie trie'' where
  length := h.length.trans h'.length
  edges i chunkHash child hedge := h'.edges i chunkHash child (h.edges i chunkHash child hedge)
  endpoints i := (h.endpoints i).trans (h'.endpoints i)

theorem extends_addEndpoint (hi : i < trie.nodes.length) (endpoint : String) :
    Extends trie (trie.addEndpoint i endpoint) where
  length := by rw [length_addEndpoint]
  edges j chunkHash child hedge := (edge_addEndpoint ..).mpr hedge
  endpoints j e he := (mem_addEndpoint hi endpoint e j).mpr (Or.inl he)

theorem extends_addChild (hi : i < trie.nodes.length)
    (hnone : (trie.node i).children.get? chunkHash = none) :
    Extends trie (trie.addChild i chunkHash) where
  length := by rw [length_addChild]; omega
  edges j h child hedge := (edge_addChild hi hnone j h child).mpr (Or.inl hedge)
  endpoints j := by rw [endpoints_addChild hi]

/-- Every node is labelled with the hashes on the way to it. -/
structure Labels (trie : HashTrie) (path : Nat → List Nat) : Prop where
  root : path 0 = []
  child : ∀ i chunkHash child, trie.Edge i chunkHash child → path child = path i ++ [chunkHash]

/-- The hashes on the way to node `i` are those of `path`. -/
def Placed (trie : HashTrie) (i : Nat) (path : List Nat) : Prop :=
  ∀ labels, Labels trie labels → labels i = path

theorem Labels.of_extends {labels : Nat → List Nat} (h : Labels trie' labels)
    (hextends : Extends trie trie') : Labels trie labels where
  root := h.root
  child i chunkHash child hedge := h.child i chunkHash child (hextends.edges i chunkHash child hedge)

theorem placed_root (trie : HashTrie) : Placed trie 0 [] := fun _ hlabels => hlabels.root

theorem Placed.child {child : Nat} (h : Placed trie i path) (hedge : trie.Edge i chunkHash child) :
    Placed trie child (path ++ [chunkHash]) := by
  intro labels hlabels
  rw [hlabels.child i chunkHash child hedge, h labels hlabels]

theorem Placed.mono (h : Placed trie i path) (hextends : Extends trie trie') :
    Placed trie' i path :=
  fun labels hlabels => h labels (hlabels.of_extends hextends)

/-- From node `i` on there are nodes for the chunks, all of them with the endpoint. -/
def Covered (trie : HashTrie) (endpoint : String) : List Nat → Nat → Prop
  | [], _ => True
  | chunkHash :: rest, i => ∃ child, trie.Edge i chunkHash child ∧
      endpoint ∈ trie.endpoints child ∧ Covered trie endpoint rest child

theorem Covered.mono (hextends : Extends trie trie')
    (h : Covered trie endpoint chunks i) : Covered trie' endpoint chunks i := by
  induction chunks generalizing i with
  | nil => exact trivial
  | cons chunkHash rest ih =>
    obtain ⟨child, hedge, hmem, hrest⟩ := h
    exact ⟨child, hextends.edges _ _ _ hedge, hextends.endpoints child hmem, ih hrest⟩

/-! The invariant. -/

/-- `inserted chunks endpoint`: an insertion of the endpoint with these chunks has
been started. -/
structure Sound (inserted : List Nat → String → Prop) (trie : HashTrie) : Prop where
  rooted : 0 < trie.nodes.length
  bounded : ∀ i chunkHash child, trie.Edge i chunkHash child → child < trie.nodes.length
  parent : ∀ i j chunkHash h child, trie.Edge i chunkHash child → trie.Edge j h child → i = j
  subset : ∀ i chunkHash child, trie.Edge i chunkHash child →
    trie.endpoints child ⊆ trie.endpoints i
  justified : ∃ labels, Labels trie labels ∧ ∀ i, ∀ e ∈ trie.endpoints i,
    ∃ chunks, inserted chunks e ∧ labels i <+: chunks

section Invariant

theorem sound_init : Sound inserted init := by
  have hnode (i : Nat) : init.node i = .init := by
    cases i with
    | zero => rfl
    | succ n => rfl
  have hedge (i chunkHash child : Nat) : ¬ init.Edge i chunkHash child := by
    unfold Edge
    rw [hnode]
    intro h
    cases h
  have hmem (i : Nat) (e : String) : e ∉ init.endpoints i := by
    unfold endpoints
    rw [hnode]
    exact Finset.notMem_empty e
  refine ⟨Nat.one_pos, ?_, ?_, ?_, fun _ => [], ⟨rfl, ?_⟩, ?_⟩
  · exact fun i chunkHash child h => absurd h (hedge i chunkHash child)
  · exact fun i j chunkHash h child hi => absurd hi (hedge i chunkHash child)
  · exact fun i chunkHash child h => absurd h (hedge i chunkHash child)
  · exact fun i chunkHash child h => absurd h (hedge i chunkHash child)
  · exact fun i e he => absurd he (hmem i e)

/-- An endpoint of a node comes from an insertion that passes through it. -/
theorem Sound.inserted_of_mem (h : Sound inserted trie)
    (hplaced : Placed trie i path) {e : String} (he : e ∈ trie.endpoints i) :
    ∃ chunks, inserted chunks e ∧ path <+: chunks := by
  obtain ⟨labels, hlabels, hjustified⟩ := h.justified
  obtain ⟨chunks, hchunks, hbegins⟩ := hjustified i e he
  rw [hplaced labels hlabels] at hbegins
  exact ⟨chunks, hchunks, hbegins⟩

/-- The endpoint goes to a node whose parents have it. -/
theorem Sound.addEndpoint (h : Sound inserted trie) (hi : i < trie.nodes.length)
    (hparent : ∀ j chunkHash, trie.Edge j chunkHash i → endpoint ∈ trie.endpoints j)
    (hplaced : Placed trie i path) (hchunks : inserted chunks endpoint)
    (hbegins : path <+: chunks) : Sound inserted (trie.addEndpoint i endpoint) where
  rooted := by
    rw [length_addEndpoint]
    exact h.rooted
  bounded j chunkHash child hedge := by
    rw [length_addEndpoint]
    exact h.bounded j chunkHash child ((edge_addEndpoint ..).mp hedge)
  parent j k chunkHash h' child hj hk :=
    h.parent j k chunkHash h' child ((edge_addEndpoint ..).mp hj) ((edge_addEndpoint ..).mp hk)
  subset j chunkHash child hedge := by
    rw [edge_addEndpoint] at hedge
    intro e he
    rw [mem_addEndpoint hi] at he ⊢
    rcases he with he | ⟨rfl, rfl⟩
    · exact Or.inl (h.subset j chunkHash child hedge he)
    · exact Or.inl (hparent j chunkHash hedge)
  justified := by
    obtain ⟨labels, hlabels, hjustified⟩ := h.justified
    refine ⟨labels, ⟨hlabels.root, fun j chunkHash child hedge =>
      hlabels.child j chunkHash child ((edge_addEndpoint ..).mp hedge)⟩, ?_⟩
    intro j e he
    rw [mem_addEndpoint hi] at he
    rcases he with he | ⟨rfl, rfl⟩
    · exact hjustified j e he
    · rw [hplaced labels hlabels]
      exact ⟨chunks, hchunks, hbegins⟩

theorem endpoints_of_length_le (hi : trie.nodes.length ≤ i) : trie.endpoints i = ∅ := by
  unfold endpoints
  rw [node_of_length_le hi]
  rfl

theorem lt_length_of_edge {child : Nat} (h : trie.Edge i chunkHash child) :
    i < trie.nodes.length := by
  by_contra hi
  unfold Edge at h
  rw [node_of_length_le (by omega)] at h
  cases h

/-- The new node is labelled after its parent. -/
theorem Sound.addChild (h : Sound inserted trie) (hi : i < trie.nodes.length)
    (hnone : (trie.node i).children.get? chunkHash = none) :
    Sound inserted (trie.addChild i chunkHash) where
  rooted := by
    rw [length_addChild]
    omega
  bounded j h' child hedge := by
    rw [length_addChild]
    rw [edge_addChild hi hnone] at hedge
    rcases hedge with hedge | ⟨-, -, rfl⟩
    · exact Nat.lt_succ_of_lt (h.bounded j h' child hedge)
    · exact Nat.lt_succ_self _
  parent j k h' h'' child hj hk := by
    rw [edge_addChild hi hnone] at hj hk
    rcases hj with hj | ⟨rfl, -, rfl⟩
    · rcases hk with hk | ⟨-, -, rfl⟩
      · exact h.parent j k h' h'' child hj hk
      · exact absurd (h.bounded j h' _ hj) (Nat.lt_irrefl _)
    · rcases hk with hk | ⟨rfl, -, -⟩
      · exact absurd (h.bounded k h'' _ hk) (Nat.lt_irrefl _)
      · rfl
  subset j h' child hedge := by
    rw [endpoints_addChild hi, endpoints_addChild hi]
    rw [edge_addChild hi hnone] at hedge
    rcases hedge with hedge | ⟨-, -, rfl⟩
    · exact h.subset j h' child hedge
    · rw [endpoints_of_length_le (Nat.le_refl _)]
      exact Finset.empty_subset _
  justified := by
    obtain ⟨labels, hlabels, hjustified⟩ := h.justified
    have hold (j : Nat) (hj : j < trie.nodes.length) :
        Function.update labels trie.nodes.length (labels i ++ [chunkHash]) j = labels j :=
      Function.update_of_ne (Nat.ne_of_lt hj) _ _
    refine ⟨Function.update labels trie.nodes.length (labels i ++ [chunkHash]), ⟨?_, ?_⟩, ?_⟩
    · rw [hold 0 h.rooted]
      exact hlabels.root
    · intro j h' child hedge
      rw [edge_addChild hi hnone] at hedge
      rcases hedge with hedge | ⟨rfl, rfl, rfl⟩
      · rw [hold child (h.bounded j h' child hedge), hold j (lt_length_of_edge hedge)]
        exact hlabels.child j h' child hedge
      · rw [hold j hi, Function.update_self]
    · intro j e he
      rw [endpoints_addChild hi] at he
      have hj : j < trie.nodes.length := by
        by_contra hj
        rw [endpoints_of_length_le (by omega)] at he
        exact Finset.notMem_empty e he
      rw [hold j hj]
      exact hjustified j e he

end Invariant

/-- How the calls of the trie change it: it is extended and stays sound. -/
def Grows (inserted : List Nat → String → Prop) (trie trie' : HashTrie) : Prop :=
  Extends trie trie' ∧ (Sound inserted trie → Sound inserted trie')

theorem Grows.refl (inserted : List Nat → String → Prop) (trie : HashTrie) :
    Grows inserted trie trie :=
  ⟨.refl trie, id⟩

theorem Grows.trans (trie trie' trie'' : HashTrie)
    (h : Grows inserted trie trie') (h' : Grows inserted trie' trie'') :
    Grows inserted trie trie'' :=
  ⟨h.1.trans h'.1, h'.2 ∘ h.2⟩

end ProductionStack.Routing.HashTrie

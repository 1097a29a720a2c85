import Mathlib.Data.Finset.Lattice.Basic
import Mathlib.Data.List.Defs
import ProductionStack.Routing.Kvaware

/-!
The prefix-aware router and its hash trie. The nodes of the trie are never
removed, so a coroutine that awaits a node's lock still holds a node of the trie
afterwards, but the endpoints in it may be those of engines long gone.
-/

namespace ProductionStack.Routing

open Lib Python Stats Request

/-! `HashTrie`. -/

structure TrieNode where
  children : Dict Nat Nat
  endpoints : Finset String

def TrieNode.init : TrieNode := ⟨.empty, ∅⟩

/-- The nodes by the order of their creation; the first is the root. -/
structure HashTrie where
  nodes : List TrieNode

namespace HashTrie

def init : HashTrie := ⟨[.init]⟩

def chunkSize : Nat := 128

def node (trie : HashTrie) (i : Nat) : TrieNode := trie.nodes.getD i .init

def addEndpoint (trie : HashTrie) (i : Nat) (endpoint : String) : HashTrie :=
  ⟨trie.nodes.modify i fun node => { node with endpoints := insert endpoint node.endpoints }⟩

/-- The child of a node for a chunk, made if it is missing. -/
def child (trie : HashTrie) (i chunkHash : Nat) : Nat × HashTrie :=
  match (trie.node i).children.get? chunkHash with
  | some child => (child, trie)
  | none =>
    let child := trie.nodes.length
    let nodes := trie.nodes.modify i fun node =>
      { node with children := node.children.set chunkHash child }
    (child, ⟨nodes ++ [.init]⟩)

/-- The hashes of the chunks of a prompt. What is not a string has no slices that
can be hashed. -/
def chunkAndHash (hash : String → Nat) : Json → Except PyExc (List Nat)
  | .str s => .ok ((s.toList.toChunks chunkSize).map fun chunk => hash (String.ofList chunk))
  | .arr [] | .obj [] => .ok []
  | .arr (_ :: _) | .obj (_ :: _) => .error (.new .typeError "a bytes-like object is required")
  | .null | .bool _ | .int _ | .float _ => .error (.new .typeError "object has no len()")

/-- `async with node.lock`. -/
def lock (i : Nat) : Co HashTrie Unit := do
  let locked ← await (.lock i)
  Py.ofExcept locked

def addLocked (i : Nat) (endpoint : String) : Co HashTrie Unit := do
  lock i
  let trie ← get
  put (trie.addEndpoint i endpoint)

def insertChunks (endpoint : String) : List Nat → Nat → Co HashTrie Unit
  | [], _ => pure ()
  | chunkHash :: rest, i => do
      lock i
      let trie ← get
      let (child, trie) := trie.child i chunkHash
      put trie
      addLocked child endpoint
      insertChunks endpoint rest child

def insertPrompt (hash : String → Nat) (request : Json) (endpoint : String) :
    Co HashTrie Unit := do
  addLocked 0 endpoint
  let chunks ← evaluate (chunkAndHash hash request)
  insertChunks endpoint chunks 0

/-- The loop of `longest_prefix_match`, at node `i`. -/
def matchChunks : List Nat → Nat → Nat → Finset String → Co HashTrie (Nat × Finset String)
  | [], _, matchLength, selected => pure (matchLength, selected)
  | chunkHash :: rest, i, matchLength, selected => do
      lock i
      let trie ← get
      match (trie.node i).children.get? chunkHash with
      | none => pure (matchLength, selected)
      | some child => do
          lock child
          let trie ← get
          let intersection := (trie.node child).endpoints ∩ selected
          if intersection = ∅ then pure (matchLength, selected)
          else matchChunks rest child (matchLength + chunkSize) intersection

def longestPrefixMatch (hash : String → Nat) (request : Json) (available : Finset String) :
    Co HashTrie (Nat × Finset String) := do
  let chunks ← evaluate (chunkAndHash hash request)
  matchChunks chunks 0 0 available

/-- Some of the available endpoints, and at least one of them. -/
def Matched (available : Finset String) : Except Raised (Nat × Finset String) → Prop
  | .ok (_, selected) => selected ⊆ available ∧ selected.Nonempty
  | .error _ => True

/-- A node's lock is awaited, after which the trie may be any. -/
theorem yields_lock {α : Type} {i : Nat} {trie : HashTrie} {f : Unit → Co HashTrie α}
    {post : Except Raised α → HashTrie → Prop}
    (hok : ∀ trie, Yields (fun _ => True) (f ()) trie post)
    (herror : ∀ e trie, post (.error e) trie) :
    Yields (fun _ => True) (lock i >>= f) trie post := by
  have hlock : Yields (fun _ => True) (lock i) trie fun _ _ => True := yields_any _ _
  apply hlock.seq
  · intro _ trie _
    exact hok trie
  · intro e trie _
    exact herror e trie

variable {available : Finset String}

theorem matchChunks_spec (chunks : List Nat) (i matchLength : Nat) {selected : Finset String}
    (hsubset : selected ⊆ available) (hne : selected.Nonempty) (trie : HashTrie) :
    Yields (fun _ => True) (matchChunks chunks i matchLength selected) trie fun r _ =>
      Matched available r := by
  induction chunks generalizing i matchLength selected trie with
  | nil => exact yields_pure ⟨hsubset, hne⟩
  | cons chunkHash rest ih =>
    apply yields_lock
    · intro trie
      apply yields_get
      split
      · exact yields_pure ⟨hsubset, hne⟩
      · next child _ =>
          apply yields_lock
          · intro trie
            apply yields_get
            dsimp only
            split
            · exact yields_pure ⟨hsubset, hne⟩
            · next hintersection =>
                have hselected : (trie.node child).endpoints ∩ selected ⊆ available :=
                  Finset.inter_subset_right.trans hsubset
                exact ih child _ hselected (Finset.nonempty_iff_ne_empty.mpr hintersection) trie
          · intro e trie
            exact trivial
    · intro e trie
      exact trivial

theorem longestPrefixMatch_spec (hash : String → Nat) (request : Json)
    (hne : available.Nonempty) (trie : HashTrie) :
    Yields (fun _ => True) (longestPrefixMatch hash request available) trie fun r _ =>
      Matched available r := by
  apply yields_ofExcept_bind
  · intro chunks _
    exact matchChunks_spec chunks 0 0 (Finset.Subset.refl _) hne trie
  · intro e
    exact trivial

end HashTrie

/-! The prompt of a request. -/

/-- `sep.join(parts)`. -/
def joinStrings (sep : String) : List Json → Except PyExc String
  | [] => .ok ""
  | [.str s] => .ok s
  | .str s :: rest => (joinStrings sep rest).map (s ++ sep ++ ·)
  | _ :: _ => .error (.new .typeError "sequence item: expected str instance")

/-- The texts of the parts of type `text` of a multimodal message. -/
def textParts : List Json → Except PyExc (List Json)
  | [] => .ok []
  | part :: rest => do
      let kind ← part.get "type" .null
      match kind with
      | .str "text" => do
          let text ← part.get "text" (.str "")
          let texts ← textParts rest
          pure (text :: texts)
      | _ => textParts rest

/-- What one message adds to the prompt. -/
def messageParts (message : Json) : Except PyExc (List Json) := do
  let content ← message.get "content" (.str "")
  match content with
  | .arr parts => do
      let texts ← textParts parts
      let text ← joinStrings " " texts
      pure [.str text]
  | .null => pure []
  | content => pure [content]

/-- `for x in v`. -/
def iterItems : Json → Except PyExc (List Json)
  | .arr items => .ok items
  | .str s => .ok (s.toList.map fun c => .str c.toString)
  | .obj fields => .ok (fields.map fun field => .str field.1)
  | .null | .bool _ | .int _ | .float _ => .error (.new .typeError "object is not iterable")

def chatPrompt (messages : Json) : Except PyExc Json :=
  if messages.truthy then do
    let items ← iterItems messages
    let parts ← items.mapM messageParts
    let prompt ← joinStrings "\n" parts.flatten
    pure (.str prompt)
  else pure (.str "")

def requestPrompt (requestJson : JsonObject) : Except PyExc Json :=
  match requestJson.lookup "messages" with
  | some messages => chatPrompt messages
  | none =>
    match requestJson.lookup "prompt" with
    | some prompt => .ok prompt
    | none => .error (.new .keyError "prompt")

/-! `PrefixAwareRouter`. -/

/-- `hash` is the chunk hash of `xxhash`. -/
structure PrefixAwareRouter where
  hash : String → Nat
  prefixMinMatchLength : Int

namespace PrefixAwareRouter

variable (router : PrefixAwareRouter) {args : RouteArgs}

/-- Record the prompt under the endpoint that was selected. -/
def select (args : RouteArgs) (prompt : Json) (endpoint : String) :
    Co HashTrie (Option String × JsonObject) := do
  HashTrie.insertPrompt router.hash prompt endpoint
  pure (some endpoint, args.requestJson)

def routeRequest (args : RouteArgs) : Co HashTrie (Option String × JsonObject) := do
  let prompt ← evaluate (requestPrompt args.requestJson)
  let available := (urlsOf args.endpoints).toFinset
  let (matchLength, matched) ← HashTrie.longestPrefixMatch router.hash prompt available
  if matchLength < router.prefixMinMatchLength then
    match qpsRouting args.endpoints args.requestStats with
    | none => pure (none, args.requestJson)
    | some endpoint => router.select args prompt endpoint
  else if matched = ∅ then raiseExc indexError "Cannot choose from an empty sequence"
  else do
    let endpoint ← ask (.choice matched)
    router.select args prompt endpoint

theorem select_spec (prompt : Json) {endpoint : String}
    (hmem : endpoint ∈ urlsOf args.endpoints) (trie : HashTrie) :
    Yields (fun _ => True) (router.select args prompt endpoint) trie fun r _ =>
      True ∧ Routed .prefixaware args r := by
  apply Yields.seq (yields_any _ trie)
  · intro _ trie _
    exact yields_pure ⟨trivial, ⟨endpoint, hmem, rfl⟩, rfl⟩
  · intro e trie _
    exact ⟨trivial, trivial⟩

theorem routeRequest_spec (hne : args.endpoints ≠ []) (trie : HashTrie) :
    Yields (fun _ => True) (router.routeRequest args) trie fun r _ =>
      True ∧ Routed .prefixaware args r := by
  have havailable : (urlsOf args.endpoints).toFinset.Nonempty := by
    simpa [urlsOf] using hne
  apply yields_ofExcept_bind
  · intro prompt _
    apply Yields.seq (HashTrie.longestPrefixMatch_spec router.hash prompt havailable trie)
    · rintro ⟨matchLength, matched⟩ trie ⟨hsubset, hnonempty⟩
      dsimp only
      split
      · obtain ⟨endpoint, hmem, hqps⟩ := qpsRouting_mem hne args.requestStats
        rw [hqps]
        exact router.select_spec prompt hmem trie
      · split
        · exact yields_raise ⟨trivial, trivial⟩
        · apply yields_ask
          intro endpoint hchoice
          have hmem := List.mem_toFinset.mp (hsubset (hchoice hnonempty))
          exact router.select_spec prompt hmem trie
    · intro e trie _
      exact ⟨trivial, trivial⟩
  · intro e
    exact ⟨trivial, trivial⟩

end PrefixAwareRouter

end ProductionStack.Routing

import Mathlib.Data.Matrix.Mul
import ProductionStack.Python.Json

/-!
The vector store of the semantic cache: an index of embeddings and, by position, a list
of metadata. Similarities are exact, and the index is asked for one neighbour.
-/

namespace ProductionStack.SemanticCache

open Python

structure Metadata where
  requestMessages : Json
  responseMessages : List Json
  model : Json
  usage : Json

/-- What a call of `store` is given. -/
structure Entry (V : Type) where
  embedding : V
  metadata : Metadata

structure FAISSAdapter (V : Type) where
  index : List V
  metadata : List Metadata

namespace FAISSAdapter

def empty {V : Type} : FAISSAdapter V := ⟨[], []⟩

/-- The two lists after `store`, which then saves them. -/
def store {V : Type} (db : FAISSAdapter V) (e : Entry V) : FAISSAdapter V :=
  ⟨db.index ++ [e.embedding], db.metadata ++ [e.metadata]⟩

/-- A new adapter after these calls. -/
def storeAll {V : Type} (entries : List (Entry V)) : FAISSAdapter V := entries.foldl store empty

theorem storeAll_eq {V : Type} (entries : List (Entry V)) :
    storeAll entries = ⟨entries.map (·.embedding), entries.map (·.metadata)⟩ := by
  induction entries using List.reverseRecOn with
  | nil => rfl
  | append_singleton entries e ih =>
    unfold storeAll at ih ⊢
    rw [List.foldl_concat, ih]
    simp [store]

end FAISSAdapter

/-! Searching. -/

section Search

variable {K : Type} [Field K] {dim : Nat}

structure SearchResult (K : Type) where
  responseMessages : List Json
  similarityScore : K
  usage : Json

/-- The position that the index gives, and the similarity there. -/
def distanceAt (index : List (Fin dim → K)) (embedding : Fin dim → K) (nearest : Option Nat) :
    Option (Nat × K) :=
  nearest.bind fun i => index[i]?.map fun v => (i, embedding ⬝ᵥ v)

/-- `search`, where the index gives this neighbour; `none` is its -1. `reached` compares a
similarity with the threshold. -/
def FAISSAdapter.search (db : FAISSAdapter (Fin dim → K)) (embedding : Fin dim → K) (model : Json)
    (reached : K → Except PyExc Bool) (nearest : Option Nat) :
    Except PyExc (Option (SearchResult K)) :=
  match distanceAt db.index embedding nearest with
  | none => .ok none
  | some (i, distance) => do
    if ← reached distance then
      match db.metadata[i]? with
      | none => .error (.new (.derived "IndexError" .exception) "list index out of range")
      | some metadata =>
        if metadata.model.pyEq model then
          .ok (some ⟨metadata.responseMessages, distance, metadata.usage⟩)
        else .ok none
    else .ok none

variable [LinearOrder K]

def atLeast (threshold distance : K) : Except PyExc Bool := .ok (decide (threshold ≤ distance))

/-- What an exact search for one neighbour may give. -/
def Nearest (index : List (Fin dim → K)) (embedding : Fin dim → K) : Option Nat → Prop
  | none => index = []
  | some i => ∃ v, index[i]? = some v ∧ ∀ w ∈ index, embedding ⬝ᵥ w ≤ embedding ⬝ᵥ v

variable (entries : List (Entry (Fin dim → K))) (embedding : Fin dim → K) (model : Json)
  (threshold : K)

/-- The entry is one of the queried model and reaches the threshold. -/
def Hit (e : Entry (Fin dim → K)) : Prop :=
  e.metadata.model.pyEq model = true ∧ threshold ≤ embedding ⬝ᵥ e.embedding

/-- There is a response exactly if there is a hit, and it is that of the most similar one. -/
structure Complete (result : Option (SearchResult K)) : Prop where
  found : result.isSome ↔ ∃ e ∈ entries, Hit embedding model threshold e
  best : ∀ r, result = some r → ∃ e ∈ entries, Hit embedding model threshold e ∧
    r = ⟨e.metadata.responseMessages, embedding ⬝ᵥ e.embedding, e.metadata.usage⟩ ∧
    ∀ other ∈ entries, Hit embedding model threshold other →
      embedding ⬝ᵥ other.embedding ≤ embedding ⬝ᵥ e.embedding

variable {entries embedding model threshold}

/-- A search that is given the position of an entry. -/
theorem search_entry {i : Nat} {e : Entry (Fin dim → K)} (hi : entries[i]? = some e) :
    (FAISSAdapter.storeAll entries).search embedding model (atLeast threshold) (some i) = .ok
      (if threshold ≤ embedding ⬝ᵥ e.embedding ∧ e.metadata.model.pyEq model = true then
        some ⟨e.metadata.responseMessages, embedding ⬝ᵥ e.embedding, e.metadata.usage⟩
      else none) := by
  rw [FAISSAdapter.storeAll_eq]
  simp only [FAISSAdapter.search, distanceAt, atLeast, Option.bind_some, List.getElem?_map, hi,
    Option.map_some]
  change (if decide _ = true then _ else _) = _
  simp only [decide_eq_true_eq]
  by_cases hthreshold : threshold ≤ embedding ⬝ᵥ e.embedding
  · by_cases hmodel : e.metadata.model.pyEq model = true
    · rw [if_pos hthreshold, if_pos hmodel, if_pos ⟨hthreshold, hmodel⟩]
    · rw [if_pos hthreshold, if_neg hmodel, if_neg fun h => hmodel h.2]
  · rw [if_neg hthreshold, if_neg fun h => hthreshold h.1]

theorem nearest_iff (nearest : Option Nat) :
    Nearest (FAISSAdapter.storeAll entries).index embedding nearest ↔ match nearest with
      | none => entries = []
      | some i => ∃ e, entries[i]? = some e ∧
          ∀ other ∈ entries, embedding ⬝ᵥ other.embedding ≤ embedding ⬝ᵥ e.embedding := by
  rw [FAISSAdapter.storeAll_eq]
  cases nearest with
  | none => simp [Nearest]
  | some i => simp [Nearest, List.getElem?_map]

/-- The search is complete, whichever nearest neighbour the index gives, exactly if no entry
of another model is nearest while there is a hit. -/
theorem search_complete_iff (entries : List (Entry (Fin dim → K))) (embedding : Fin dim → K)
    (model : Json) (threshold : K) :
    (∀ nearest, Nearest (FAISSAdapter.storeAll entries).index embedding nearest →
        ∃ result, (FAISSAdapter.storeAll entries).search embedding model (atLeast threshold)
          nearest = .ok result ∧ Complete entries embedding model threshold result) ↔
      ∀ hit ∈ entries, Hit embedding model threshold hit →
        ∀ e ∈ entries, ¬ e.metadata.model.pyEq model = true →
          ∃ closer ∈ entries, embedding ⬝ᵥ e.embedding < embedding ⬝ᵥ closer.embedding := by
  constructor
  · intro hcomplete hit hmem hhit e he hmodel
    by_contra hclosest
    push Not at hclosest
    obtain ⟨i, hi⟩ := List.mem_iff_getElem?.mp he
    obtain ⟨result, hresult, hfound, -⟩ :=
      hcomplete (some i) ((nearest_iff _).mpr ⟨e, hi, hclosest⟩)
    rw [search_entry hi, if_neg fun h => hmodel h.2] at hresult
    cases hresult
    exact absurd (hfound.mpr ⟨hit, hmem, hhit⟩) (by simp)
  · intro hundisturbed nearest hnearest
    rw [nearest_iff] at hnearest
    cases nearest with
    | none =>
      obtain rfl := hnearest
      exact ⟨none, rfl, by simp, nofun⟩
    | some i =>
      obtain ⟨e, hi, hclosest⟩ := hnearest
      have he := List.mem_of_getElem? hi
      refine ⟨_, search_entry hi, ?_⟩
      by_cases hhit : threshold ≤ embedding ⬝ᵥ e.embedding ∧ e.metadata.model.pyEq model = true
      · rw [if_pos hhit]
        refine ⟨iff_of_true rfl ⟨e, he, hhit.2, hhit.1⟩, ?_⟩
        rintro r ⟨⟩
        exact ⟨e, he, ⟨hhit.2, hhit.1⟩, rfl, fun other hother _ => hclosest other hother⟩
      · rw [if_neg hhit]
        refine ⟨iff_of_false Bool.false_ne_true ?_, nofun⟩
        rintro ⟨hit, hmem, hmodel, hthreshold⟩
        have hreached := hthreshold.trans (hclosest hit hmem)
        obtain ⟨closer, hcloser, hlt⟩ := hundisturbed hit hmem ⟨hmodel, hthreshold⟩ e he
          fun hsame => hhit ⟨hreached, hsame⟩
        exact absurd (hclosest closer hcloser) (not_le.mpr hlt)

end Search

/-- An entry of the given model. -/
def entryFor (model : String) (embedding : Fin 1 → ℚ) : Entry (Fin 1 → ℚ) :=
  ⟨embedding, .arr [], [.obj [("content", .str model)]], .str model, .obj []⟩

/-- A nearer entry of another model hides one that would do. -/
theorem other_model_hides : ∃ nearest,
    Nearest (FAISSAdapter.storeAll [entryFor "a" fun _ => 1, entryFor "b" fun _ => 2]).index
        (fun _ => 1) nearest ∧
      (FAISSAdapter.storeAll [entryFor "a" fun _ => 1, entryFor "b" fun _ => 2]).search
        (fun _ => 1) (.str "a") (atLeast 1) nearest = .ok none ∧
      Hit (fun _ => 1) (.str "a") 1 (entryFor "a" fun _ => 1) := by
  have hsecond : [entryFor "a" fun _ => 1, entryFor "b" fun _ => 2][1]? =
      some (entryFor "b" fun _ => 2) := rfl
  refine ⟨some 1, (nearest_iff _).mpr ⟨_, hsecond, ?_⟩, ?_, ?_, ?_⟩
  · simp [entryFor, dotProduct]
  · rw [search_entry hsecond]
    simp [entryFor, Json.pyEq]
  · simp [entryFor, Json.pyEq]
  · simp [entryFor, dotProduct]

/-! The two files. -/

inductive File where
  | index
  | metadata

/-- The adapter, and the file that `save_index` writes next. -/
structure Process (V : Type) where
  db : FAISSAdapter V
  saving : Option File

structure Disk (V : Type) where
  index : Option (List V)
  metadata : Option (List Metadata)

/-- `stored` is the history of the calls of `store`; nothing reads it. -/
structure Server (V : Type) where
  disk : Disk V
  process : Option (Process V)
  stored : List (Entry V)

inductive ServerAct (V : Type) where
  | boot
  | store (e : Entry V)
  | write (succeeds : Bool)
  | crash

section Files

variable {V : Type}

/-- The lists that `__init__` begins with. -/
def Disk.load (disk : Disk V) : FAISSAdapter V :=
  match disk.index, disk.metadata with
  | some index, some metadata => ⟨index, metadata⟩
  | _, _ => .empty

/-- The files that are there have the same number of entries. -/
def Disk.Whole (disk : Disk V) : Prop :=
  ∀ index metadata, disk.index = some index → disk.metadata = some metadata →
    index.length = metadata.length

namespace Server

def start : Server V := ⟨⟨none, none⟩, none, []⟩

/-- A failed write leaves the file as it was and ends `save_index`. -/
def step (s : Server V) : ServerAct V → Option (Server V)
  | .boot =>
    match s.process with
    | none => some { s with process := some ⟨s.disk.load, some .index⟩ }
    | some _ => none
  | .store e =>
    match s.process with
    | some ⟨db, none⟩ => some { s with process := some ⟨db.store e, some .index⟩
                                       stored := s.stored ++ [e] }
    | _ => none
  | .write succeeds =>
    match s.process, succeeds with
    | some ⟨db, some .index⟩, true => some { s with
        disk := { s.disk with index := some db.index }, process := some ⟨db, some .metadata⟩ }
    | some ⟨db, some .metadata⟩, true => some { s with
        disk := { s.disk with metadata := some db.metadata }, process := some ⟨db, none⟩ }
    | some ⟨db, some _⟩, false => some { s with process := some ⟨db, none⟩ }
    | _, _ => none
  | .crash => some { s with process := none }

def run (s : Server V) (acts : List (ServerAct V)) : Option (Server V) := acts.foldlM step s

/-- There are as many metadata as vectors, and each was stored with its vector. -/
def Aligned (stored : List (Entry V)) (db : FAISSAdapter V) : Prop :=
  List.Forall₂ (fun v m => ⟨v, m⟩ ∈ stored) db.index db.metadata

/-- The files hold beginnings of the two lists, if the metadata were written at all. -/
def Kept (disk : Disk V) (db : FAISSAdapter V) : Prop :=
  ∀ metadata, disk.metadata = some metadata → metadata <+: db.metadata ∧
    ∃ index, disk.index = some index ∧ index <+: db.index

/-- The lists of the last process are aligned, and the files keep to them. -/
def Sound (s : Server V) : Prop :=
  ∃ db, Aligned s.stored db ∧ Kept s.disk db ∧ ∀ p, s.process = some p →
    p.db = db ∧ (p.saving = some .metadata → s.disk.index = some db.index)

variable {s s' : Server V} {stored : List (Entry V)} {db : FAISSAdapter V} {disk : Disk V}

theorem Aligned.store (h : Aligned stored db) (e : Entry V) :
    Aligned (stored ++ [e]) (db.store e) := by
  refine List.rel_append (h.imp fun _ _ hmem => List.mem_append_left _ hmem) ?_
  exact .cons (List.mem_append_right _ List.mem_cons_self) .nil

theorem load_of_none (h : disk.metadata = none) : disk.load = .empty := by
  unfold Disk.load
  rw [h]
  cases disk.index <;> rfl

/-- Beginnings of the same length of two aligned lists are aligned. -/
theorem aligned_load (h : Aligned stored db) (hkept : Kept disk db) (hwhole : disk.Whole) :
    Aligned stored disk.load ∧ Kept disk disk.load := by
  cases hmetadata : disk.metadata with
  | none =>
    rw [load_of_none hmetadata]
    exact ⟨.nil, by simp [Kept, hmetadata]⟩
  | some metadata =>
    obtain ⟨hmetadataStart, index, hindex, hiprefix⟩ := hkept metadata hmetadata
    have hload : disk.load = ⟨index, metadata⟩ := by
      unfold Disk.load
      rw [hindex, hmetadata]
    have htake := List.forall₂_take index.length h
    rw [← List.prefix_iff_eq_take.mp hiprefix, hwhole index metadata hindex hmetadata,
      ← List.prefix_iff_eq_take.mp hmetadataStart] at htake
    rw [hload]
    refine ⟨htake, fun found hfound => ?_⟩
    rw [hmetadata] at hfound
    cases hfound
    exact ⟨List.prefix_rfl, index, hindex, List.prefix_rfl⟩

theorem sound_step {act : ServerAct V} (hs : s.Sound) (h : s.step act = some s')
    (hboot : act = .boot → s.disk.Whole) : s'.Sound := by
  obtain ⟨db, haligned, hkept, hprocess⟩ := hs
  cases act with
  | boot =>
    obtain ⟨haligned, hkept⟩ := aligned_load haligned hkept (hboot rfl)
    simp only [step] at h
    split at h
    · cases h
      refine ⟨_, haligned, hkept, ?_⟩
      rintro p ⟨⟩
      exact ⟨rfl, nofun⟩
    · cases h
  | store e =>
    simp only [step] at h
    split at h
    · rename_i hp
      cases h
      obtain rfl := (hprocess _ hp).1
      refine ⟨_, haligned.store e, fun metadata hmetadata => ?_, ?_⟩
      · obtain ⟨hmetadataStart, index, hindex, hiprefix⟩ := hkept metadata hmetadata
        exact ⟨hmetadataStart.trans (List.prefix_append _ _), index, hindex,
          hiprefix.trans (List.prefix_append _ _)⟩
      · rintro p ⟨⟩
        exact ⟨rfl, nofun⟩
    · cases h
  | write succeeds =>
    simp only [step] at h
    split at h
    · rename_i hp
      cases h
      obtain rfl := (hprocess _ hp).1
      refine ⟨_, haligned, fun metadata hmetadata => ?_, ?_⟩
      · exact ⟨(hkept metadata hmetadata).1, _, rfl, List.prefix_rfl⟩
      · rintro p ⟨⟩
        exact ⟨rfl, fun _ => rfl⟩
    · rename_i hp
      cases h
      obtain ⟨rfl, hindex⟩ := hprocess _ hp
      refine ⟨_, haligned, ?_, ?_⟩
      · rintro metadata ⟨⟩
        exact ⟨List.prefix_rfl, _, hindex rfl, List.prefix_rfl⟩
      · rintro p ⟨⟩
        exact ⟨rfl, nofun⟩
    · rename_i hp
      cases h
      obtain rfl := (hprocess _ hp).1
      refine ⟨_, haligned, hkept, ?_⟩
      rintro p ⟨⟩
      exact ⟨rfl, nofun⟩
    · cases h
  | crash =>
    cases h
    exact ⟨db, haligned, hkept, nofun⟩

theorem run_concat (s : Server V) (acts : List (ServerAct V)) (act : ServerAct V) :
    s.run (acts ++ [act]) = (s.run acts).bind (·.step act) := by
  simp [run, List.foldlM_append]

theorem sound_run {acts : List (ServerAct V)} (hrun : start.run acts = some s)
    (hboots : ∀ before rest s, acts = before ++ .boot :: rest → start.run before = some s →
      s.process = none → s.disk.Whole) : s.Sound := by
  induction acts using List.reverseRecOn generalizing s with
  | nil =>
    cases hrun
    exact ⟨.empty, .nil, nofun, nofun⟩
  | append_singleton acts act ih =>
    rw [run_concat] at hrun
    obtain ⟨s', hs', hstep⟩ := Option.bind_eq_some_iff.mp hrun
    have hs := ih hs' fun before rest t hacts =>
      hboots before (rest ++ [act]) t (by simp [hacts])
    refine sound_step hs hstep ?_
    rintro rfl
    refine hboots acts [] s' rfl hs' ?_
    simp only [step] at hstep
    split at hstep
    · assumption
    · cases hstep

/-- Whatever is running has its two lists aligned, through any number of crashes, exactly
if at every start the two files have the same number of entries. -/
theorem restarts_aligned_iff (acts : List (ServerAct V)) :
    (∀ before rest s p, acts = before ++ rest → start.run before = some s →
        s.process = some p → Aligned s.stored p.db) ↔
      ∀ before rest s, acts = before ++ .boot :: rest → start.run before = some s →
        s.process = none → s.disk.Whole := by
  constructor
  · intro haligned before rest s hacts hrun hprocess index metadata hindex hmetadata
    have hbooted : start.run (before ++ [.boot]) =
        some { s with process := some ⟨s.disk.load, some .index⟩ } := by
      rw [run_concat, hrun, Option.bind_some]
      simp only [step, hprocess]
    have hlength := (haligned (before ++ [.boot]) rest _ _ (by simp [hacts]) hbooted rfl).length_eq
    simpa only [Disk.load, hindex, hmetadata] using hlength
  · rintro hboots before rest s p rfl hrun hprocess
    obtain ⟨db, haligned, -, hdb⟩ := sound_run hrun fun first second t hacts =>
      hboots first (second ++ rest) t (by simp [hacts])
    rwa [(hdb p hprocess).1]

/-- A crash between the two writes of a store. -/
theorem crash_misaligns : ∃ s p,
    start.run [.boot, .write true, .write true, .store (entryFor "a" fun _ => 1), .write true,
      .crash, .boot] = some s ∧ s.process = some p ∧ p.db.index.length = 1 ∧
      p.db.metadata.length = 0 := by
  exact ⟨_, _, rfl, rfl, rfl, rfl⟩

end Server

end Files

end ProductionStack.SemanticCache

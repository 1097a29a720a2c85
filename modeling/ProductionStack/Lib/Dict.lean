import Mathlib.Data.List.Nodup
import Mathlib.Data.List.Perm.Subperm
import Mathlib.Tactic.Common

/-!
Insertion-ordered dictionaries. Assigning to a present key keeps its position,
assigning to a new key appends it, and deleting a key forgets its position:
the behaviour a program can observe when it iterates over the keys. A
dictionary carries the proof that no key occurs twice.
-/

namespace ProductionStack.Lib

variable {κ ν : Type} [DecidableEq κ]

/-- Assignment on the entry list: replace in place, or append at the end. -/
def upsert (k : κ) (v : ν) : List (κ × ν) → List (κ × ν)
  | [] => [(k, v)]
  | entry :: rest =>
    if entry.1 = k then (k, v) :: rest else entry :: upsert k v rest

variable {l : List (κ × ν)} (k : κ) (p : κ × ν → Bool)

theorem keys_upsert (v : ν) (l : List (κ × ν)) : (upsert k v l).map Prod.fst =
      if k ∈ l.map Prod.fst then l.map Prod.fst else l.map Prod.fst ++ [k] := by
  induction l with
  | nil => simp [upsert]
  | cons entry rest ih =>
    by_cases h : entry.1 = k
    · subst h
      simp [upsert]
    · have hk : ¬ k = entry.1 := fun e => h e.symm
      simp only [upsert, if_neg h, List.map_cons, ih, List.mem_cons, hk, false_or]
      split <;> simp

theorem upsert_of_not_mem {k : κ} (h : k ∉ l.map Prod.fst) (v : ν) :
    upsert k v l = l ++ [(k, v)] := by
  induction l with
  | nil => rfl
  | cons entry rest ih =>
    obtain ⟨hkey, hrest⟩ := not_or.mp (mt List.mem_cons.mpr h)
    rw [upsert, if_neg (Ne.symm hkey), ih hrest]
    rfl

theorem lookup_cons_ite (key : κ) (value : ν) (rest : List (κ × ν)) :
    ((key, value) :: rest).lookup k = if k = key then some value else rest.lookup k := by
  by_cases h : k = key
  · simp [h]
  · rw [List.lookup_cons, beq_eq_false_iff_ne.mpr h, if_neg h]

theorem lookup_upsert (k' : κ) (v : ν) (l : List (κ × ν)) :
    (upsert k v l).lookup k' = if k' = k then some v else l.lookup k' := by
  induction l with
  | nil => simp [upsert, lookup_cons_ite]
  | cons entry rest ih =>
    obtain ⟨key, value⟩ := entry
    by_cases h : key = k
    · subst h
      simp only [upsert, if_true, lookup_cons_ite]
      by_cases hk : k' = key <;> simp [hk]
    · simp only [upsert, if_neg h, lookup_cons_ite, ih]
      by_cases hk : k' = key
      · subst hk
        simp [h]
      · simp [hk]

theorem mem_of_lookup {k : κ} {v : ν} (h : l.lookup k = some v) : (k, v) ∈ l := by
  induction l with
  | nil => cases h
  | cons entry rest ih =>
    rw [lookup_cons_ite] at h
    split at h
    · rename_i hkey
      obtain rfl := Option.some.inj h
      rw [hkey]
      exact List.mem_cons_self
    · exact List.mem_cons_of_mem _ (ih h)

theorem lookup_eq_none_iff_not_mem_keys (l : List (κ × ν)) :
    l.lookup k = none ↔ k ∉ l.map Prod.fst := by
  induction l with
  | nil => simp
  | cons entry rest ih =>
    obtain ⟨key, value⟩ := entry
    rw [lookup_cons_ite, List.map_cons, List.mem_cons, not_or]
    by_cases h : k = key
    · simp [h]
    · rw [if_neg h, ih]
      exact ⟨fun hr => ⟨h, hr⟩, fun hr => hr.2⟩

theorem any_key_eq_lookup (l : List (κ × ν)) (k : κ) :
    l.any (fun entry => entry.1 = k) = (l.lookup k).isSome := by
  rw [Bool.eq_iff_iff, ← Option.ne_none_iff_isSome, Ne, lookup_eq_none_iff_not_mem_keys]
  simp

theorem lookup_filter_key (k' : κ) (l : List (κ × ν)) :
    (l.filter (fun entry => entry.1 ≠ k)).lookup k' = if k' = k then none else l.lookup k' := by
  induction l with
  | nil => simp
  | cons entry rest ih =>
    obtain ⟨key, value⟩ := entry
    by_cases h : key = k
    · subst h
      rw [List.filter_cons_of_neg (by simp), ih, lookup_cons_ite]
      by_cases hk : k' = key <;> simp [hk]
    · rw [List.filter_cons_of_pos (by simpa using h), lookup_cons_ite, lookup_cons_ite, ih]
      by_cases hk : k' = key
      · subst hk
        simp [h]
      · simp [hk]

/-- Replacing the value of a present key moves a count by the two entries'
difference. -/
theorem countP_upsert_of_lookup (k : κ) (v old : ν) (l : List (κ × ν)) (h : l.lookup k = some old) :
    (upsert k v l).countP p + (if p (k, old) then 1 else 0) =
      l.countP p + (if p (k, v) then 1 else 0) := by
  induction l with
  | nil => simp at h
  | cons entry rest ih =>
    obtain ⟨key, value⟩ := entry
    by_cases hk : key = k
    · subst hk
      obtain rfl : value = old := by simpa using h
      simp only [upsert, if_true, List.countP_cons]
      omega
    · rw [lookup_cons_ite, if_neg (fun e => hk e.symm)] at h
      have htail := ih h
      simp only [upsert, if_neg hk, List.countP_cons]
      omega

theorem countP_upsert_of_new (k : κ) (v : ν) (l : List (κ × ν)) (h : k ∉ l.map Prod.fst) :
    (upsert k v l).countP p = l.countP p + (if p (k, v) then 1 else 0) := by
  induction l with
  | nil => simp [upsert, List.countP_cons]
  | cons entry rest ih =>
    simp only [List.map_cons, List.mem_cons, not_or] at h
    have hk : ¬ entry.1 = k := fun e => h.1 e.symm
    simp only [upsert, if_neg hk, List.countP_cons, ih h.2]
    omega

theorem filter_key_of_not_mem (l : List (κ × ν)) (h : k ∉ l.map Prod.fst) :
    l.filter (fun entry => entry.1 ≠ k) = l := by
  apply List.filter_eq_self.mpr
  intro entry member
  have hne : entry.1 ≠ k := fun e => h (e ▸ List.mem_map_of_mem member)
  simpa using hne

/-- Deleting a present key lowers a count by what its entry contributed. -/
theorem countP_filter_key (k : κ) (v : ν) (l : List (κ × ν)) (hnodup : (l.map Prod.fst).Nodup)
    (h : l.lookup k = some v) :
    (l.filter (fun entry => entry.1 ≠ k)).countP p + (if p (k, v) then 1 else 0) = l.countP p := by
  induction l with
  | nil => simp at h
  | cons entry rest ih =>
    obtain ⟨key, value⟩ := entry
    simp only [List.map_cons, List.nodup_cons] at hnodup
    by_cases hk : key = k
    · subst hk
      obtain rfl : value = v := by simpa using h
      rw [List.filter_cons_of_neg (by simp), filter_key_of_not_mem key rest hnodup.1,
        List.countP_cons]
    · rw [lookup_cons_ite, if_neg (fun e => hk e.symm)] at h
      have htail := ih hnodup.2 h
      rw [List.filter_cons_of_pos (by simpa using hk)]
      simp only [List.countP_cons]
      omega

structure Dict (κ ν : Type) where
  entries : List (κ × ν)
  nodupKeys : (entries.map Prod.fst).Nodup

namespace Dict

def empty : Dict κ ν := ⟨[], List.nodup_nil⟩

def get? (d : Dict κ ν) (k : κ) : Option ν := d.entries.lookup k

def getD (d : Dict κ ν) (k : κ) (fallback : ν) : ν := (d.get? k).getD fallback

def keys (d : Dict κ ν) : List κ := d.entries.map Prod.fst

def values (d : Dict κ ν) : List ν := d.entries.map Prod.snd

def size (d : Dict κ ν) : Nat := d.entries.length

instance : Membership κ (Dict κ ν) := ⟨fun d k => k ∈ d.keys⟩

instance (k : κ) (d : Dict κ ν) : Decidable (k ∈ d) :=
  inferInstanceAs (Decidable (k ∈ d.keys))

def set (d : Dict κ ν) (k : κ) (v : ν) : Dict κ ν where
  entries := upsert k v d.entries
  nodupKeys := by
    rw [keys_upsert]
    split
    · exact d.nodupKeys
    · next h => exact List.nodup_append.mpr ⟨d.nodupKeys, by simp, by
        intro a ha b hb heq
        simp only [List.mem_singleton] at hb
        exact h (hb ▸ heq ▸ ha)⟩

def erase (d : Dict κ ν) (k : κ) : Dict κ ν where
  entries := d.entries.filter (fun entry => entry.1 ≠ k)
  nodupKeys := d.nodupKeys.sublist (List.filter_sublist.map Prod.fst)

/-- How many entries satisfy `p`. -/
def count (d : Dict κ ν) (p : κ × ν → Bool) : Nat := d.entries.countP p

@[simp] theorem get?_empty (k : κ) : (empty : Dict κ ν).get? k = none := rfl

theorem get?_set (d : Dict κ ν) (k k' : κ) (v : ν) :
    (d.set k v).get? k' = if k' = k then some v else d.get? k' :=
  lookup_upsert k k' v d.entries

@[simp] theorem get?_set_self (d : Dict κ ν) (k : κ) (v : ν) : (d.set k v).get? k = some v := by
  simp [get?_set]

variable {k : κ} {v : ν} {d : Dict κ ν}

theorem get?_set_of_ne (d : Dict κ ν) {k' : κ} (v : ν) (h : k' ≠ k) :
    (d.set k v).get? k' = d.get? k' := by
  simp [get?_set, h]

theorem get?_erase (d : Dict κ ν) (k k' : κ) :
    (d.erase k).get? k' = if k' = k then none else d.get? k' :=
  lookup_filter_key k k' d.entries

@[simp] theorem get?_erase_self (d : Dict κ ν) (k : κ) : (d.erase k).get? k = none := by
  simp [get?_erase]

theorem get?_erase_of_ne (d : Dict κ ν) {k' : κ} (h : k' ≠ k) :
    (d.erase k).get? k' = d.get? k' := by
  simp [get?_erase, h]

theorem get?_foldl_erase (removed : List κ) (d : Dict κ ν) (k : κ) :
    (removed.foldl erase d).get? k = if k ∈ removed then none else d.get? k := by
  induction removed generalizing d with
  | nil => rfl
  | cons first rest ih =>
    rw [List.foldl_cons, ih, get?_erase]
    by_cases hfirst : k = first
    · simp [hfirst]
    · simp [hfirst]

variable (d)

theorem getD_set (k k' : κ) (v fallback : ν) :
    (d.set k v).getD k' fallback = if k' = k then v else d.getD k' fallback := by
  simp only [getD, get?_set]
  split <;> rfl

/-- A dictionary can be built again from its entries. -/
theorem foldl_set_entries :
    d.entries.foldl (fun acc entry => acc.set entry.1 entry.2) empty = d := by
  have happend (rest : List (κ × ν)) (acc : Dict κ ν)
      (h : ((acc.entries ++ rest).map Prod.fst).Nodup) :
      (rest.foldl (fun acc entry => acc.set entry.1 entry.2) acc).entries = acc.entries ++ rest := by
    induction rest generalizing acc with
    | nil => simp
    | cons entry rest ih =>
      have hnew : (acc.set entry.1 entry.2).entries = acc.entries ++ [entry] := by
        refine upsert_of_not_mem ?_ _
        rw [List.map_append, List.nodup_append] at h
        exact fun hmem => h.2.2 _ hmem _ (by simp) rfl
      rw [List.foldl_cons, ih _ (by simpa [hnew] using h), hnew]
      simp
  obtain ⟨entries, hnodup⟩ := d
  have hentries := happend entries empty hnodup
  generalize entries.foldl (fun acc entry => acc.set entry.1 entry.2) empty = built at hentries
  obtain ⟨_, _⟩ := built
  cases hentries
  rfl

theorem get?_eq_none_iff (k : κ) : d.get? k = none ↔ k ∉ d :=
  lookup_eq_none_iff_not_mem_keys k d.entries

theorem mem_iff_get? (k : κ) : k ∈ d ↔ ∃ v, d.get? k = some v := by
  rw [← not_iff_not, ← get?_eq_none_iff, Option.eq_none_iff_forall_ne_some]
  simp

theorem mem_set (k k' : κ) (v : ν) : k' ∈ d.set k v ↔ k' = k ∨ k' ∈ d := by
  simp only [mem_iff_get?, get?_set]
  by_cases h : k' = k <;> simp [h]

theorem mem_erase (k k' : κ) : k' ∈ d.erase k ↔ k' ≠ k ∧ k' ∈ d := by
  simp only [mem_iff_get?, get?_erase]
  by_cases h : k' = k <;> simp [h]

theorem erase_of_not_mem (h : k ∉ d) : d.erase k = d := by
  obtain ⟨entries, hnodup⟩ := d
  unfold erase
  congr
  exact filter_key_of_not_mem k entries h

theorem get?_of_mem_entries (h : (k, v) ∈ d.entries) : d.get? k = some v := by
  obtain ⟨entries, hnodup⟩ := d
  change entries.lookup k = some v
  induction entries with
  | nil => cases h
  | cons entry rest ih =>
    obtain ⟨key, value⟩ := entry
    rw [List.map_cons, List.nodup_cons] at hnodup
    rw [lookup_cons_ite]
    rcases List.mem_cons.mp h with heq | hmem
    · cases heq
      simp
    · have hne : k ≠ key := by
        rintro rfl
        exact hnodup.1 (List.mem_map.mpr ⟨_, hmem, rfl⟩)
      rw [if_neg hne]
      exact ih hnodup.2 hmem

/-- The entries of a key: one, or none. -/
theorem filter_entries_key (k : κ) :
    (d.entries.filter fun entry => entry.1 = k) = (d.get? k).toList.map fun v => (k, v) := by
  obtain ⟨entries, hnodup⟩ := d
  change _ = (entries.lookup k).toList.map _
  induction entries with
  | nil => rfl
  | cons entry rest ih =>
    obtain ⟨key, value⟩ := entry
    rw [List.map_cons, List.nodup_cons] at hnodup
    rw [lookup_cons_ite]
    by_cases hk : k = key
    · subst hk
      have hrest : (rest.filter fun entry => entry.1 = k) = [] := by
        rw [List.filter_eq_nil_iff]
        intro entry hentry hkey
        have hkey' : entry.1 = k := by simpa using hkey
        exact hnodup.1 (List.mem_map.mpr ⟨entry, hentry, hkey'⟩)
      simp [hrest]
    · have hne : ¬ key = k := fun h => hk h.symm
      simp [hk, hne, ih hnodup.2]

variable {d}

theorem mem_upsert (k : κ) (v : ν) (l : List (κ × ν)) {entry : κ × ν} (h : entry ∈ upsert k v l) :
    entry = (k, v) ∨ entry ∈ l := by
  induction l with
  | nil => exact Or.inl (List.mem_singleton.mp h)
  | cons first rest ih =>
    unfold upsert at h
    split at h
    · rcases List.mem_cons.mp h with heq | hmem
      · exact Or.inl heq
      · exact Or.inr (List.mem_cons_of_mem _ hmem)
    · rcases List.mem_cons.mp h with heq | hmem
      · exact Or.inr (heq ▸ List.mem_cons_self)
      · exact (ih hmem).imp id (List.mem_cons_of_mem _)

theorem mem_values_set (d : Dict κ ν) (k : κ) (v : ν) {x : ν} (h : x ∈ (d.set k v).values) :
    x = v ∨ x ∈ d.values := by
  obtain ⟨entry, hentry, rfl⟩ := List.mem_map.mp h
  rcases mem_upsert k v d.entries hentry with rfl | hmem
  · exact Or.inl rfl
  · exact Or.inr (List.mem_map_of_mem hmem)

theorem mem_values_iff (d : Dict κ ν) (v : ν) : v ∈ d.values ↔ ∃ k, d.get? k = some v := by
  constructor
  · intro h
    obtain ⟨⟨k, _⟩, hentry, rfl⟩ := List.mem_map.mp h
    exact ⟨k, d.get?_of_mem_entries hentry⟩
  · rintro ⟨k, h⟩
    have hentry : (k, v) ∈ d.entries := mem_of_lookup h
    exact List.mem_map.mpr ⟨(k, v), hentry, rfl⟩

variable (f : κ → ν) {values : List ν} (keys : List κ)

/-- Assigning values one after the other, each to its own key. -/
theorem get?_foldl_set {f : ν → κ} (h : (values.foldl (fun d v => d.set (f v) v) d).get? k = some v) :
    (v ∈ values ∧ f v = k) ∨ d.get? k = some v := by
  induction values generalizing d with
  | nil => exact Or.inr h
  | cons first rest ih =>
    rcases ih h with ⟨hmem, hkey⟩ | hfirst
    · exact Or.inl ⟨List.mem_cons_of_mem _ hmem, hkey⟩
    · rw [get?_set] at hfirst
      split at hfirst
      · next hk =>
          cases hfirst
          exact Or.inl ⟨List.mem_cons_self, hk.symm⟩
      · exact Or.inr hfirst

theorem isSome_foldl_set {f : ν → κ} (h : (∃ v ∈ values, f v = k) ∨ (d.get? k).isSome) :
    ((values.foldl (fun d v => d.set (f v) v) d).get? k).isSome := by
  induction values generalizing d with
  | nil =>
    rcases h with ⟨v, hv, -⟩ | h
    · cases hv
    · exact h
  | cons first rest ih =>
    apply ih
    rw [get?_set]
    by_cases hk : k = f first
    · exact Or.inr (by simp [hk])
    · rw [if_neg hk]
      rcases h with ⟨v, hv, hkey⟩ | h
      · rcases List.mem_cons.mp hv with rfl | hv
        · exact absurd hkey.symm hk
        · exact Or.inl ⟨v, hv, hkey⟩
      · exact Or.inr h

variable (d)

section Count

variable (p : κ × ν → Bool) (k : κ)

theorem count_set_of_get? (v old : ν) (h : d.get? k = some old) :
    (d.set k v).count p + (if p (k, old) then 1 else 0) =
      d.count p + (if p (k, v) then 1 else 0) :=
  countP_upsert_of_lookup p k v old d.entries h

theorem count_set_of_not_mem (v : ν) (h : k ∉ d) :
    (d.set k v).count p = d.count p + (if p (k, v) then 1 else 0) :=
  countP_upsert_of_new p k v d.entries h

theorem count_erase_of_get? (v : ν) (h : d.get? k = some v) :
    (d.erase k).count p + (if p (k, v) then 1 else 0) = d.count p :=
  countP_filter_key p k v d.entries d.nodupKeys h

theorem count_pos_of_get? (v : ν) (h : d.get? k = some v) (hp : p (k, v) = true) :
    0 < d.count p := by
  have herase := d.count_erase_of_get? p k v h
  simp only [hp, if_true] at herase
  omega

end Count

theorem mem_entries_iff (entry : κ × ν) :
    entry ∈ d.entries ↔ d.get? entry.1 = some entry.2 :=
  ⟨d.get?_of_mem_entries, mem_of_lookup⟩

/-- Two dictionaries with the same entries, in whatever order. -/
def Same (a b : Dict κ ν) : Prop := ∀ k, a.get? k = b.get? k

theorem Same.refl : d.Same d := fun _ => rfl

variable {d}

theorem same_of_mem_entries {a b : Dict κ ν}
    (h : ∀ entry, entry ∈ a.entries ↔ entry ∈ b.entries) : a.Same b := by
  intro k
  apply Option.ext
  intro v
  have hentry := h (k, v)
  rwa [mem_entries_iff, mem_entries_iff] at hentry

/-- As many entries, and those of the one in the other. -/
theorem same_iff (a b : Dict κ ν) : a.Same b ↔
    a.entries.length = b.entries.length ∧ ∀ entry ∈ a.entries, b.get? entry.1 = some entry.2 := by
  constructor
  · intro h
    have hmem : ∀ entry, entry ∈ a.entries ↔ entry ∈ b.entries := by
      intro entry
      rw [mem_entries_iff, mem_entries_iff, h]
    have hperm : a.entries.Perm b.entries :=
      (List.perm_ext_iff_of_nodup a.nodupKeys.of_map b.nodupKeys.of_map).mpr hmem
    exact ⟨hperm.length_eq, fun entry hentry =>
      (b.mem_entries_iff entry).mp ((hmem entry).mp hentry)⟩
  · intro hboth
    obtain ⟨hlength, hsub⟩ := hboth
    have hsubset : a.entries ⊆ b.entries := fun entry hentry =>
      (b.mem_entries_iff entry).mpr (hsub entry hentry)
    have hperm : a.entries.Perm b.entries :=
      (List.subperm_of_subset a.nodupKeys.of_map hsubset).perm_of_length_le (by omega)
    exact same_of_mem_entries fun entry => hperm.mem_iff

theorem size_set (d : Dict κ ν) (k : κ) (v : ν) :
    (d.set k v).size = if k ∈ d then d.size else d.size + 1 := by
  have hkeys : (d.set k v).keys = if k ∈ d.keys then d.keys else d.keys ++ [k] :=
    keys_upsert k v d.entries
  have hsize (d : Dict κ ν) : d.size = d.keys.length := by simp [size, keys]
  rw [hsize, hsize, hkeys]
  by_cases h : k ∈ d.keys
  · rw [if_pos h]
    exact (if_pos h).symm
  · rw [if_neg h, List.length_append]
    exact (if_neg h).symm

/-- A table that is cleared before it grows beyond `m` entries. -/
theorem size_set_cleared {m : Nat} (hm : 0 < m) (hd : d.size ≤ m) {clear : Prop} [Decidable clear]
    (k : κ) (v : ν) (hroom : ¬ clear → k ∈ d ∨ d.size < m) :
    ((if clear then empty else d).set k v).size ≤ m := by
  by_cases hclear : clear
  · have hnew : k ∉ (empty : Dict κ ν) := List.not_mem_nil
    rw [if_pos hclear, size_set, if_neg hnew]
    exact hm
  · rw [if_neg hclear, size_set]
    split
    · exact hd
    · next hnew =>
        have hlt := (hroom hclear).resolve_left hnew
        omega

/-- Every key is given the value of a function. -/
def tabulate (f : κ → ν) (keys : List κ) : Dict κ ν := keys.foldl (fun d k => d.set k (f k)) empty

theorem get?_foldl_tabulate (d : Dict κ ν) (k : κ) :
    (keys.foldl (fun d k => d.set k (f k)) d).get? k =
      if k ∈ keys then some (f k) else d.get? k := by
  induction keys generalizing d with
  | nil => simp
  | cons first rest ih =>
    rw [List.foldl_cons, ih, get?_set]
    by_cases hrest : k ∈ rest
    · simp [hrest]
    · by_cases hfirst : k = first
      · simp [hfirst]
      · simp [hrest, hfirst]

theorem get?_tabulate (k : κ) : (tabulate f keys).get? k = if k ∈ keys then some (f k) else none :=
  get?_foldl_tabulate f keys empty k

theorem mem_tabulate (k : κ) : k ∈ tabulate f keys ↔ k ∈ keys := by
  rw [mem_iff_get?, get?_tabulate]
  by_cases h : k ∈ keys
  · simp [h]
  · simp [h]

theorem values_tabulate : (tabulate f keys).values = (tabulate f keys).keys.map f := by
  unfold values Dict.keys
  rw [List.map_map]
  apply List.map_congr_left
  intro entry hentry
  have hget := (mem_entries_iff _ entry).mp hentry
  rw [get?_tabulate] at hget
  by_cases h : entry.1 ∈ keys
  · simpa [h, eq_comm] using hget
  · simp [h] at hget

end Dict

end ProductionStack.Lib

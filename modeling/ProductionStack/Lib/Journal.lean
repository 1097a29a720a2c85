import ProductionStack.Lib.Table

/-!
Tables that are only assigned to. The journal of such a table is the list of its
writes: every key holds the value last written to it, and the keys stand in the
order in which they were first written. To look a value up among the entries is to
find the key that came last among those that still hold it, which need not be the
key it was written to last.
-/

namespace ProductionStack.Lib

variable {κ ν ε : Type} [DecidableEq κ]

variable {key : ε → κ} {events : List ε} {e : ε}

/-- In a list that is sorted by `rank`, the latest event about a key is the one of
the highest rank. -/
theorem latest_eq_some_iff {rank : ε → Nat} (hsorted : events.Pairwise fun a b => rank a < rank b)
    {k : κ} : latest key k events = some e ↔
      e ∈ events ∧ key e = k ∧ ∀ other ∈ events, key other = k → rank other ≤ rank e := by
  induction events using List.reverseRecOn with
  | nil => simp [latest]
  | append_singleton events last ih =>
    obtain ⟨hevents, -, hlast⟩ := List.pairwise_append.mp hsorted
    have hbelow : ∀ other ∈ events, rank other < rank last :=
      fun other hother => hlast other hother last List.mem_cons_self
    rw [latest_append]
    by_cases hk : key last = k
    · rw [if_pos hk, Option.some.injEq]
      constructor
      · rintro rfl
        refine ⟨by simp, hk, ?_⟩
        intro other hother _
        rw [List.mem_append, List.mem_singleton] at hother
        rcases hother with hother | rfl
        · exact Nat.le_of_lt (hbelow other hother)
        · exact Nat.le_refl _
      · rintro ⟨hmem, -, hmax⟩
        have hle := hmax last (by simp) hk
        rw [List.mem_append, List.mem_singleton] at hmem
        rcases hmem with hmem | rfl
        · exact absurd (hbelow e hmem) (Nat.not_lt.mpr hle)
        · rfl
    · rw [if_neg hk, ih hevents]
      simp only [List.mem_append, List.mem_singleton]
      constructor
      · rintro ⟨hmem, hkey, hmax⟩
        refine ⟨Or.inl hmem, hkey, ?_⟩
        rintro other (hother | rfl) hother'
        · exact hmax other hother hother'
        · exact absurd hother' hk
      · rintro ⟨hmem | rfl, hkey, hmax⟩
        · exact ⟨hmem, hkey, fun other hother => hmax other (Or.inl hother)⟩
        · exact absurd hkey hk

theorem latest_mem {k : κ} (h : latest key k events = some e) : e ∈ events ∧ key e = k := by
  rcases latest_cases key k events with ⟨hnone, -⟩ | ⟨before, found, after, rfl, hkey, -, hfound⟩
  · rw [hnone] at h
    cases h
  · rw [hfound] at h
    obtain rfl := Option.some.inj h
    exact ⟨by simp, hkey⟩

theorem latest_isSome (h : e ∈ events) : ∃ found, latest key (key e) events = some found := by
  rcases latest_cases key (key e) events with ⟨-, hunmentioned⟩ | ⟨-, found, -, -, -, -, hfound⟩
  · exact absurd rfl (hunmentioned e h)
  · exact ⟨found, hfound⟩

namespace Dict

/-- A table after the writes of a journal. -/
def assign (d : Dict κ ν) (writes : List (κ × ν)) : Dict κ ν :=
  writes.foldl (fun d write => d.set write.1 write.2) d

variable (d : Dict κ ν) (writes : List (κ × ν))

theorem assign_append (before after : List (κ × ν)) :
    d.assign (before ++ after) = (d.assign before).assign after := List.foldl_append

theorem get?_assign (k : κ) :
    (d.assign writes).get? k = ((latest Prod.fst k writes).map Prod.snd).or (d.get? k) := by
  induction writes using List.reverseRecOn with
  | nil => rfl
  | append_singleton writes write ih =>
    rw [assign_append, latest_append]
    change ((d.assign writes).set write.1 write.2).get? k = _
    rw [get?_set]
    by_cases hk : k = write.1
    · rw [if_pos hk, if_pos hk.symm]
      rfl
    · rw [if_neg hk, if_neg (Ne.symm hk)]
      exact ih

theorem mem_assign (k : κ) : k ∈ d.assign writes ↔ k ∈ writes.map Prod.fst ∨ k ∈ d := by
  induction writes using List.reverseRecOn with
  | nil => simp [assign]
  | append_singleton writes write ih =>
    rw [assign_append]
    change k ∈ (d.assign writes).set write.1 write.2 ↔ _
    rw [mem_set, ih]
    simp only [List.map_append, List.mem_append, List.map_cons, List.map_nil, List.mem_singleton]
    tauto

/-- A value of the table was written last to its key, or to a key that the journal
does not mention before it. -/
theorem mem_values_assign (v : ν) : v ∈ (d.assign writes).values ↔
      (∃ k, latest Prod.fst k writes = some (k, v)) ∨
        ∃ k, k ∉ writes.map Prod.fst ∧ d.get? k = some v := by
  rw [mem_values_iff]
  simp only [get?_assign]
  constructor
  · rintro ⟨k, h⟩
    rcases latest_cases Prod.fst k writes with
      ⟨hnone, hunmentioned⟩ | ⟨_, ⟨k', v'⟩, _, -, rfl, -, hlatest⟩
    · rw [hnone] at h
      refine Or.inr ⟨k, ?_, h⟩
      rw [List.mem_map]
      rintro ⟨write, hwrite, hkey⟩
      exact hunmentioned write hwrite hkey
    · rw [hlatest] at h
      obtain rfl : v' = v := Option.some.inj h
      exact Or.inl ⟨k', hlatest⟩
  · rintro (⟨k, h⟩ | ⟨k, hk, h⟩)
    · exact ⟨k, by rw [h]; rfl⟩
    · refine ⟨k, ?_⟩
      rcases latest_cases Prod.fst k writes with ⟨hnone, -⟩ | ⟨_, write, _, rfl, hkey, -, -⟩
      · rw [hnone]
        exact h
      · exact absurd (by simp [← hkey]) hk

/-- What is made of the values of a table, key by key, leaving out some. -/
theorem get?_foldl_entries {μ : Type} (f : ν → Option μ) (k : κ) :
    (d.entries.foldl (fun (made : Dict κ μ) entry =>
      (f entry.2).elim made (made.set entry.1)) .empty).get? k = (d.get? k).bind f := by
  have hfold (entries : List (κ × ν)) (hnodup : (entries.map Prod.fst).Nodup) (made : Dict κ μ) :
      (entries.foldl (fun (made : Dict κ μ) entry =>
        (f entry.2).elim made (made.set entry.1)) made).get? k =
        ((entries.lookup k).bind f).or (made.get? k) := by
    induction entries generalizing made with
    | nil => rfl
    | cons entry rest ih =>
      obtain ⟨key, value⟩ := entry
      rw [List.map_cons, List.nodup_cons] at hnodup
      rw [List.foldl_cons, ih hnodup.2, lookup_cons_ite]
      by_cases hk : k = key
      · subst hk
        rw [(lookup_eq_none_iff_not_mem_keys k rest).mpr hnodup.1, if_pos rfl]
        cases hvalue : f value <;> simp [hvalue]
      · rw [if_neg hk]
        cases f value with
        | none => rfl
        | some value => rw [Option.elim_some, get?_set_of_ne _ _ hk]
  rw [hfold d.entries d.nodupKeys, get?_empty, Option.or_none]
  rfl

end Dict

section Order

/-- The place of a key among the first writes to each. -/
def firstWritten (writes : List (κ × ν)) (k : κ) : Nat := (writes.map Prod.fst).idxOf k

theorem firstWritten_append {writes : List (κ × ν)} {k : κ} (h : k ∈ writes.map Prod.fst)
    (later : List (κ × ν)) : firstWritten (writes ++ later) k = firstWritten writes k := by
  unfold firstWritten
  rw [List.map_append, List.idxOf_append_of_mem h]

variable (writes : List (κ × ν))

/-- The keys stand in the order in which they were first written. -/
theorem keys_assign_sorted : (Dict.empty.assign writes).keys.Pairwise fun a b =>
      firstWritten writes a < firstWritten writes b := by
  induction writes using List.reverseRecOn with
  | nil => exact List.Pairwise.nil
  | append_singleton writes write ih =>
    have hmem {k : κ} (h : k ∈ (Dict.empty.assign writes).keys) : k ∈ writes.map Prod.fst :=
      ((Dict.mem_assign _ writes k).mp h).resolve_right List.not_mem_nil
    have hold : (Dict.empty.assign writes).keys.Pairwise fun a b =>
        firstWritten (writes ++ [write]) a < firstWritten (writes ++ [write]) b := by
      refine ih.imp_of_mem ?_
      intro a b ha hb hab
      rw [firstWritten_append (hmem ha), firstWritten_append (hmem hb)]
      exact hab
    rw [Dict.assign_append]
    change (upsert write.1 write.2 (Dict.empty.assign writes).entries |>.map Prod.fst).Pairwise _
    rw [keys_upsert]
    split
    · exact hold
    · next hnew =>
        refine List.pairwise_append.mpr ⟨hold, List.pairwise_singleton _ _, ?_⟩
        intro a ha b hb
        rw [List.mem_singleton] at hb
        have hb' : b ∉ writes.map Prod.fst := by
          intro hb'
          exact hnew (hb ▸ (Dict.mem_assign Dict.empty writes b).mpr (Or.inl hb'))
        rw [firstWritten_append (hmem ha)]
        unfold firstWritten
        rw [List.map_append, List.idxOf_append_of_notMem hb']
        exact Nat.lt_add_right _ (List.idxOf_lt_length_iff.mpr (hmem ha))

variable [DecidableEq ν]

/-- A value is found with the key that was first written last, of those that hold it. -/
theorem latest_entries_iff (k : κ) (v : ν) :
    latest Prod.snd v (Dict.empty.assign writes).entries = some (k, v) ↔
      latest Prod.fst k writes = some (k, v) ∧ ∀ k', latest Prod.fst k' writes = some (k', v) →
          firstWritten writes k' ≤ firstWritten writes k := by
  have hsorted : (Dict.empty.assign writes).entries.Pairwise fun a b =>
      firstWritten writes a.1 < firstWritten writes b.1 := by
    have hkeys := keys_assign_sorted writes
    unfold Dict.keys at hkeys
    rwa [List.pairwise_map] at hkeys
  have hentry (k : κ) : (k, v) ∈ (Dict.empty.assign writes).entries ↔
      latest Prod.fst k writes = some (k, v) := by
    have hget : (k, v) ∈ (Dict.empty.assign writes).entries ↔
        (Dict.empty.assign writes).get? k = some v :=
      ⟨Dict.get?_of_mem_entries _, mem_of_lookup⟩
    rw [hget, Dict.get?_assign, Dict.get?_empty, Option.or_none, Option.map_eq_some_iff]
    constructor
    · rintro ⟨⟨k', v'⟩, hlatest, rfl⟩
      obtain rfl := (latest_mem hlatest).2
      exact hlatest
    · intro hlatest
      exact ⟨_, hlatest, rfl⟩
  rw [latest_eq_some_iff hsorted, hentry]
  constructor
  · rintro ⟨hk, -, hmax⟩
    exact ⟨hk, fun k' hk' => hmax (k', v) ((hentry k').mpr hk') rfl⟩
  · rintro ⟨hk, hmax⟩
    refine ⟨hk, rfl, ?_⟩
    rintro ⟨k', v'⟩ hmem rfl
    exact hmax k' ((hentry k').mp hmem)

/-- The last key written with each value still holds it, and no other key that does
was first written after it. -/
def Foremost (writes : List (κ × ν)) : Prop :=
  ∀ k v, latest Prod.snd v writes = some (k, v) →
    latest Prod.fst k writes = some (k, v) ∧
      ∀ k', latest Prod.fst k' writes = some (k', v) →
        firstWritten writes k' ≤ firstWritten writes k

/-- Every value is found with the key it was written to last, exactly if that key
stands foremost. -/
theorem latest_entries_eq_iff :
    (∀ v, latest Prod.snd v (Dict.empty.assign writes).entries = latest Prod.snd v writes) ↔
      Foremost writes := by
  constructor
  · intro hfound k v hlast
    exact (latest_entries_iff writes k v).mp ((hfound v).trans hlast)
  · intro hforemost v
    rcases latest_cases Prod.snd v writes with
      ⟨hnone, hunmentioned⟩ | ⟨_, ⟨k, v'⟩, _, -, rfl, -, hlast⟩
    · rw [hnone]
      rcases latest_cases Prod.snd v (Dict.empty.assign writes).entries with
        ⟨hnone, -⟩ | ⟨_, ⟨k, v'⟩, _, -, rfl, -, hfound⟩
      · exact hnone
      · obtain ⟨hheld, -⟩ := (latest_entries_iff writes k v').mp hfound
        exact absurd rfl (hunmentioned (k, v') (latest_mem hheld).1)
    · rw [hlast]
      exact (latest_entries_iff writes k v').mpr (hforemost k v' hlast)

end Order

end ProductionStack.Lib

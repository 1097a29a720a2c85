import Mathlib.Data.List.Defs

/-!
A list cut into chunks of `n` elements, of which the last may be shorter. Two
lists begin with the same `k` chunks exactly if they agree on their first `n * k`
elements; where the last of these chunks is a short one this means that the lists
are equal.
-/

namespace ProductionStack.Lib

variable {α β : Type} {n : Nat} {l : List α}

theorem toChunks_start (hn : 0 < n) (x : α) (xs : List α) :
    (x :: xs).toChunks n = List.toChunks.go n xs #[x] #[] := by
  cases n with
  | zero => omega
  | succ m => rfl

/-- The loop of `toChunks`, with the chunk that is being filled. -/
theorem toChunks_go (hn : 0 < n) (xs : List α) (chunk : Array α) (done : Array (List α))
    (hchunk : chunk.size ≤ n) : List.toChunks.go n xs chunk done = done.toList ++
      (chunk.toList ++ xs).take n :: ((chunk.toList ++ xs).drop n).toChunks n := by
  induction xs generalizing chunk done with
  | nil =>
    have hlength : chunk.toList.length ≤ n := by simpa using hchunk
    simp [List.toChunks.go, List.take_of_length_le hlength, List.drop_of_length_le hlength,
      List.toChunks]
  | cons x xs ih =>
    by_cases hfull : chunk.size = n
    · have hrest := ih #[x] #[] hn
      rw [← toChunks_start hn] at hrest
      have hlength : chunk.toList.length = n := by simpa using hfull
      have htake : (chunk.toList ++ x :: xs).take n = chunk.toList := by simp [← hlength]
      have hdrop : (chunk.toList ++ x :: xs).drop n = x :: xs := by simp [← hlength]
      have hnext := ih #[x] (done.push chunk.toList) hn
      rw [htake, hdrop, hrest]
      simpa [List.toChunks.go, hfull] using hnext
    · have hroom : (chunk.push x).size ≤ n := by
        rw [Array.size_push]
        omega
      have hnext := ih (chunk.push x) done hroom
      simpa [List.toChunks.go, hfull] using hnext

theorem toChunks_of_ne_nil (hn : 0 < n) (hl : l ≠ []) :
    l.toChunks n = l.take n :: (l.drop n).toChunks n := by
  cases l with
  | nil => exact absurd rfl hl
  | cons x xs =>
    rw [toChunks_start hn, toChunks_go hn xs #[x] #[] hn]
    simp

/-- Induction over the chunks of a list. -/
theorem chunk_induction (hn : 0 < n) {motive : List α → Prop} (nil : motive [])
    (step : ∀ l, l ≠ [] → motive (l.drop n) → motive l) (l : List α) : motive l := by
  by_cases hl : l = []
  · rw [hl]
    exact nil
  · have hpos : 0 < l.length := List.length_pos_iff.mpr hl
    exact step l hl (chunk_induction hn nil step (l.drop n))
termination_by l.length
decreasing_by
  rw [List.length_drop]
  omega

theorem length_toChunks_bounds (hn : 0 < n) (l : List α) :
    l.length ≤ n * (l.toChunks n).length ∧ n * (l.toChunks n).length < l.length + n := by
  induction l using chunk_induction hn with
  | nil => simpa [List.toChunks] using hn
  | step l hl ih =>
    have hpos : 0 < l.length := List.length_pos_iff.mpr hl
    rw [toChunks_of_ne_nil hn hl, List.length_cons, Nat.mul_succ]
    by_cases hshort : l.length ≤ n
    · -- the one chunk there is
      rw [List.drop_of_length_le hshort]
      simp only [List.toChunks, List.length_nil]
      omega
    · rw [List.length_drop] at ih
      omega

/-- What has chunks is not empty. -/
theorem ne_nil_of_lt_length_toChunks {k : Nat} (hk : k < (l.toChunks n).length) : l ≠ [] := by
  intro hl
  rw [hl] at hk
  simp [List.toChunks] at hk

theorem take_add_eq_iff (a b : List α) (i j : Nat) : b.take (i + j) = a.take (i + j) ↔
      b.take i = a.take i ∧ (b.drop i).take j = (a.drop i).take j := by
  constructor
  · intro h
    have htake := congrArg (List.take i) h
    have hdrop := congrArg (List.drop i) h
    simp only [List.take_take, List.drop_take] at htake hdrop
    have hmin : min i (i + j) = i := by omega
    have hsub : i + j - i = j := by omega
    rw [hmin] at htake
    rw [hsub] at hdrop
    exact ⟨htake, hdrop⟩
  · rintro ⟨htake, hdrop⟩
    rw [List.take_add, List.take_add, htake, hdrop]

/-- Beginning with the same chunks is agreeing on their elements. -/
theorem take_toChunks_prefix_iff (hn : 0 < n) {k : Nat} (a b : List α)
    (hk : k ≤ (a.toChunks n).length) :
    (a.toChunks n).take k <+: b.toChunks n ↔ b.take (n * k) = a.take (n * k) := by
  induction k generalizing a b with
  | zero => simp
  | succ k ih =>
    have ha : a ≠ [] := ne_nil_of_lt_length_toChunks hk
    rw [toChunks_of_ne_nil hn ha, List.length_cons] at hk
    have hsize : n * (k + 1) = n + n * k := by
      rw [Nat.mul_succ]
      omega
    rw [hsize, take_add_eq_iff, toChunks_of_ne_nil hn ha, List.take_succ_cons]
    by_cases hb : b = []
    · -- nothing begins with chunks of another list
      have htake : ¬ [] = a.take n := by
        intro h
        have hlength := congrArg List.length h
        have hpos := List.length_pos_iff.mpr ha
        rw [List.length_nil, List.length_take] at hlength
        omega
      simp [hb, List.toChunks, htake]
    · rw [toChunks_of_ne_nil hn hb, List.cons_prefix_cons, ih _ _ (by omega), eq_comm]

/-- Where a function tells the elements apart, so do the images. -/
theorem map_prefix_map_iff {f : α → β} {a b : List α}
    (hf : ∀ x ∈ a, ∀ y ∈ b, f x = f y → x = y) : a.map f <+: b.map f ↔ a <+: b := by
  induction a generalizing b with
  | nil => simp
  | cons x a ih =>
    cases b with
    | nil => simp
    | cons y b =>
      have hhead : f x = f y ↔ x = y :=
        ⟨hf x List.mem_cons_self y List.mem_cons_self, congrArg f⟩
      have htail : ∀ x ∈ a, ∀ y ∈ b, f x = f y → x = y :=
        fun x hx y hy => hf x (List.mem_cons_of_mem _ hx) y (List.mem_cons_of_mem _ hy)
      rw [List.map_cons, List.map_cons, List.cons_prefix_cons, List.cons_prefix_cons, hhead,
        ih htail]

end ProductionStack.Lib

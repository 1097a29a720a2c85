import Mathlib.Data.List.Basic
import Mathlib.Data.Set.Insert
import Mathlib.Order.Defs.LinearOrder

/-!
The best of a set: of the elements with the highest score, the least. A loop over
the elements in ascending order that keeps the first one with a higher score than
all before it finds the best, and so every order and every number of repetitions
of the elements leads to the same one. How the best changes with the scores is a
matter of how each element fares against it.
-/

namespace ProductionStack.Lib

variable {α β : Type} [LinearOrder α] [LinearOrder β] {s : Set α} {score score' : α → β}
  {best : α}

/-- Of the elements with the highest score, the least. -/
structure IsBest (s : Set α) (score : α → β) (best : α) : Prop where
  mem : best ∈ s
  highest : ∀ a ∈ s, score a ≤ score best
  least : ∀ a ∈ s, score a = score best → best ≤ a

namespace IsBest

theorem unique {a b : α} (ha : IsBest s score a) (hb : IsBest s score b) : a = b := by
  have hscore : score a = score b := le_antisymm (hb.highest a ha.mem) (ha.highest b hb.mem)
  exact le_antisymm (ha.least b hb.mem hscore.symm) (hb.least a ha.mem hscore)

/-- An element that does not gain on the best does not become the best. -/
theorem not_of_lag {a : α} (h : IsBest s score best) (ha : a ∈ s) (hne : a ≠ best)
    (hle : score' a ≤ score' best) (hlt : score a < score best → score' a < score' best) :
    ¬ IsBest s score' a := by
  intro ha'
  have hge : score' best ≤ score' a := ha'.highest best h.mem
  have htie : score a = score best :=
    le_antisymm (h.highest a ha) (not_lt.mp fun hscore => absurd (hlt hscore) (not_lt.mpr hge))
  have hbest : best ≤ a := h.least a ha htie
  have hleast : a ≤ best := ha'.least best h.mem (le_antisymm hge hle)
  exact hne (le_antisymm hleast hbest)

/-- The best stays the best if no other element gains on it. -/
theorem stays (h : IsBest s score best) (hle : ∀ a ∈ s, a ≠ best → score' a ≤ score' best)
    (hlt : ∀ a ∈ s, a ≠ best → score a < score best → score' a < score' best) :
    IsBest s score' best where
  mem := h.mem
  highest a ha := by
    by_cases heq : a = best
    · rw [heq]
    · exact hle a ha heq
  least a ha htie := by
    by_cases heq : a = best
    · rw [heq]
    · apply h.least a ha
      apply le_antisymm (h.highest a ha)
      rw [← not_lt]
      intro hscore
      exact absurd htie (ne_of_lt (hlt a ha heq hscore))

theorem congr (h : IsBest s score best) (hscore : ∀ a ∈ s, score a = score' a) :
    IsBest s score' best := by
  apply h.stays
  · intro a ha _
    rw [← hscore a ha, ← hscore best h.mem]
    exact h.highest a ha
  · intro a ha _ hlt
    rwa [← hscore a ha, ← hscore best h.mem]

theorem singleton (score : α → β) (a : α) : IsBest {a} score a where
  mem := rfl
  highest b hb := by rw [Set.mem_singleton_iff.mp hb]
  least b hb _ := by rw [Set.mem_singleton_iff.mp hb]

/-- One round of the loop, at an element that comes after those seen before. -/
theorem insert (h : IsBest s score best) {x : α} (hx : ∀ a ∈ s, a ≤ x) :
    IsBest (insert x s) score (if score best < score x then x else best) := by
  by_cases hlt : score best < score x
  · rw [if_pos hlt]
    have hlower : ∀ a ∈ s, score a < score x := fun a ha => lt_of_le_of_lt (h.highest a ha) hlt
    refine ⟨Set.mem_insert x s, ?_, ?_⟩
    · intro a ha
      rcases ha with rfl | ha
      · exact le_rfl
      · exact (hlower a ha).le
    · intro a ha htie
      rcases ha with rfl | ha
      · exact le_rfl
      · exact absurd htie (ne_of_lt (hlower a ha))
  · rw [if_neg hlt]
    refine ⟨Set.mem_insert_of_mem x h.mem, ?_, ?_⟩
    · intro a ha
      rcases ha with rfl | ha
      · exact not_lt.mp hlt
      · exact h.highest a ha
    · intro a ha htie
      rcases ha with rfl | ha
      · exact hx best h.mem
      · exact h.least a ha htie

/-- The loop, with those seen so far. -/
theorem foldl (h : IsBest s score best) {rest : List α} (hsorted : rest.Pairwise (· ≤ ·))
    (hseen : ∀ a ∈ s, ∀ x ∈ rest, a ≤ x) : IsBest {a | a ∈ s ∨ a ∈ rest} score
      (rest.foldl (fun best x => if score best < score x then x else best) best) := by
  induction rest generalizing s best with
  | nil => simpa using h
  | cons x rest ih =>
    obtain ⟨hfirst, hrest⟩ := List.pairwise_cons.mp hsorted
    have hnext := h.insert fun a ha => hseen a ha x List.mem_cons_self
    have hseen' : ∀ a ∈ Insert.insert x s, ∀ y ∈ rest, a ≤ y := by
      intro a ha y hy
      rcases ha with rfl | ha
      · exact hfirst y hy
      · exact hseen a ha y (List.mem_cons_of_mem _ hy)
    have hset : {a | a ∈ Insert.insert x s ∨ a ∈ rest} = {a | a ∈ s ∨ a ∈ x :: rest} := by
      ext a
      simp
      tauto
    rw [List.foldl_cons, ← hset]
    exact ih hnext hrest hseen'

/-- The loop from its first element on. -/
theorem of_sorted (score : α → β) {first : α} {rest : List α}
    (hsorted : (first :: rest).Pairwise (· ≤ ·)) : IsBest {a | a ∈ first :: rest} score
      (rest.foldl (fun best x => if score best < score x then x else best) first) := by
  obtain ⟨hfirst, hrest⟩ := List.pairwise_cons.mp hsorted
  have hset : {a | a ∈ first :: rest} = {a | a ∈ ({first} : Set α) ∨ a ∈ rest} := by
    ext a
    simp
  rw [hset]
  exact (singleton score first).foldl hrest (by simpa using hfirst)

end IsBest

end ProductionStack.Lib

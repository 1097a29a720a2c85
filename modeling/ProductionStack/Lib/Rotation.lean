import Mathlib.Data.Int.CardIntervalMod
import Mathlib.Data.List.Nodup

/-!
Elements that take turns. Over any number of turns each of the distinct elements
of a list has had as many as the others, or one more or less.
-/

namespace ProductionStack.Lib

variable {α : Type}

/-- Whose turn it is after `n` turns. -/
def turn (elements : List α) (n : Nat) : Option α := elements[n % elements.length]?

variable {elements : List α}

theorem exists_turn (hne : elements ≠ []) (n : Nat) : ∃ a ∈ elements, turn elements n = some a := by
  have hlength : n % elements.length < elements.length :=
    Nat.mod_lt n (List.length_pos_iff.mpr hne)
  exact ⟨elements[n % elements.length], List.getElem_mem hlength, List.getElem?_eq_getElem hlength⟩

theorem turn_eq_iff (hnodup : elements.Nodup) {i : Nat} (hi : i < elements.length) (n : Nat) :
    turn elements n = some elements[i] ↔ n ≡ i [MOD elements.length] := by
  have hn : n % elements.length < elements.length := Nat.mod_lt n (by omega)
  unfold turn
  rw [List.getElem?_eq_getElem hn, Option.some_inj, hnodup.getElem_inj_iff, Nat.ModEq,
    Nat.mod_eq_of_lt hi]

variable [DecidableEq α]

/-- How many of the first `n` turns were those of `a`. -/
def turns (elements : List α) (a : α) (n : Nat) : Nat :=
  Nat.count (fun m => turn elements m = some a) n

theorem turns_succ (elements : List α) (a : α) (n : Nat) :
    turns elements a (n + 1) = turns elements a n + if turn elements n = some a then 1 else 0 :=
  Nat.count_succ _ n

/-- A full round for each, and one more turn for those who come first. -/
theorem turns_eq (hnodup : elements.Nodup) {i : Nat} (hi : i < elements.length) (n : Nat) :
    turns elements elements[i] n =
      n / elements.length + if i < n % elements.length then 1 else 0 := by
  have hpos : 0 < elements.length := by omega
  unfold turns
  simp only [turn_eq_iff hnodup hi]
  rw [Nat.count_modEq_card n hpos i, Nat.mod_eq_of_lt hi]

theorem turns_fair (hnodup : elements.Nodup) {a b : α} (ha : a ∈ elements) (hb : b ∈ elements)
    (n : Nat) : turns elements a n ≤ turns elements b n + 1 := by
  obtain ⟨i, hi, rfl⟩ := List.getElem_of_mem ha
  obtain ⟨j, hj, rfl⟩ := List.getElem_of_mem hb
  rw [turns_eq hnodup hi, turns_eq hnodup hj]
  split
  · omega
  · omega

end ProductionStack.Lib

import Mathlib.Order.Nat

/-!
Runs under an infinite schedule, which says for every moment who has the turn. A
turn of a thread that is blocked changes nothing. A schedule is fair to a thread
if the thread is given turns again and again.
-/

namespace ProductionStack.Lib

/-- The state at every moment. -/
def moments {σ ι : Type} (turn : σ → ι → σ) (s : σ) (schedule : ℕ → ι) : ℕ → σ
  | 0 => s
  | n + 1 => turn (moments turn s schedule n) (schedule n)

/-- Again and again. -/
def Recurs (event : ℕ → Prop) : Prop := ∀ n, ∃ m ≥ n, event m

section Rank

variable (rank : ℕ → ℕ) {goal helpful : ℕ → Prop} {start : ℕ}

/-- Up to a moment the goal was reached, or the rank is no higher than at the start. -/
theorem goal_or_rank_le (hdown : ∀ n ≥ start, ¬ goal n → rank (n + 1) ≤ rank n) {n : ℕ}
    (hn : start ≤ n) : (∃ m ≥ start, goal m) ∨ rank n ≤ rank start := by
  induction n, hn using Nat.le_induction with
  | base => exact Or.inr le_rfl
  | succ n hn ih =>
    rcases ih with hgoal | hle
    · exact Or.inl hgoal
    · by_cases hnow : goal n
      · exact Or.inl ⟨n, hn, hnow⟩
      · exact Or.inr ((hdown n hn hnow).trans hle)

/-- A goal is reached if short of it no turn raises the rank and the helpful turns,
which come again and again, lower it. -/
theorem eventually_of_rank (hoften : Recurs helpful)
    (hdown : ∀ n ≥ start, ¬ goal n → rank (n + 1) ≤ rank n)
    (hhelp : ∀ n ≥ start, ¬ goal n → helpful n → rank (n + 1) < rank n) : ∃ n ≥ start, goal n := by
  induction hrank : rank start using Nat.strong_induction_on generalizing start with
  | _ r ih =>
    obtain ⟨m, hm, hhelpful⟩ := hoften start
    rcases goal_or_rank_le rank hdown hm with hgoal | hle
    · exact hgoal
    · by_cases hnow : goal m
      · exact ⟨m, hm, hnow⟩
      · have hlower : rank (m + 1) < r := by
          have hstep := hhelp m hm hnow hhelpful
          omega
        obtain ⟨n, hn, hgoal⟩ := ih (rank (m + 1)) hlower
          (fun n hn => hdown n (by omega)) (fun n hn => hhelp n (by omega)) rfl
        exact ⟨n, by omega, hgoal⟩

end Rank

end ProductionStack.Lib

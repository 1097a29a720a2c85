import Mathlib.Algebra.BigOperators.Group.Finset.Basic
import Mathlib.Data.Fintype.BigOperators
import Mathlib.Logic.Function.Iterate

/-!
Schedules of threads over one shared state. A schedule names, step by step, the
thread that moves next, so a thread's own order is kept by construction. When
the shared state simulates one local automaton per thread, the locals after a
schedule depend only on how often each thread moved.
-/

namespace ProductionStack.Lib

variable {ι σ Λ : Type} [DecidableEq ι] (localStep : Λ → Λ) (locals : ι → Λ)

/-- Run the schedule from the left. -/
def runSchedule (step : σ → ι → σ) (s : σ) (schedule : List ι) : σ :=
  schedule.foldl step s

/-- Every thread's automaton advanced as often as the schedule names it. -/
def advanced (localStep : Λ → Λ) (locals : ι → Λ) (schedule : List ι) : ι → Λ :=
  fun i => localStep^[schedule.count i] (locals i)

theorem advanced_cons (i : ι) (schedule : List ι) :
    advanced localStep locals (i :: schedule) =
      advanced localStep (Function.update locals i (localStep (locals i))) schedule := by
  funext j
  by_cases h : i = j
  · subst h
    simp [advanced, Function.iterate_succ_apply]
  · have hj : j ≠ i := fun e => h e.symm
    simp [advanced, List.count_cons_of_ne h, Function.update_of_ne hj]

/-- A relation kept by every single move holds between the shared state and
the advanced locals after every schedule. -/
theorem schedule_simulates (step : σ → ι → σ) (localStep : Λ → Λ) (related : σ → (ι → Λ) → Prop)
    (hstep : ∀ s locals i, related s locals →
      related (step s i) (Function.update locals i (localStep (locals i)))) (s : σ) (locals : ι → Λ)
    (hstart : related s locals) (schedule : List ι) :
    related (runSchedule step s schedule) (advanced localStep locals schedule) := by
  induction schedule generalizing s locals with
  | nil => exact hstart
  | cons i rest ih =>
    rw [advanced_cons]
    exact ih (step s i) _ (hstep s locals i hstart)

theorem advanced_congr {left right : List ι}
    (h : ∀ i, left.count i = right.count i) :
    advanced localStep locals left = advanced localStep locals right := by
  funext i
  simp only [advanced, h i]

/-- A sum over all threads after one thread moved. -/
theorem sum_update [Fintype ι] (f : Λ → Int) (locals : ι → Λ) (i : ι) (next : Λ) :
    ∑ j, f (Function.update locals i next j) = ∑ j, f (locals j) + (f next - f (locals i)) := by
  rw [← Finset.add_sum_erase _ _ (Finset.mem_univ i),
    ← Finset.add_sum_erase _ (fun j => f (locals j)) (Finset.mem_univ i)]
  have hrest : ∑ j ∈ Finset.univ.erase i, f (Function.update locals i next j) =
      ∑ j ∈ Finset.univ.erase i, f (locals j) := by
    apply Finset.sum_congr rfl
    intro j hj
    rw [Function.update_of_ne (Finset.ne_of_mem_erase hj)]
  rw [hrest, Function.update_self]
  omega

end ProductionStack.Lib

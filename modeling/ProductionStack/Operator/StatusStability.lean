import ProductionStack.Operator.Coexistence

/-!
Two reconciles in a row. What the second one writes into the status is what the first one
wrote, except for the time of the waiting condition, which is taken anew every time.
-/

namespace ProductionStack.Operator

open Lib Go

section Stability

variable {s s' s₁ s₂ : Cluster} {adapter adapter₁ adapter₂ : LoraAdapter} {run₁ run₂ : Runtime}
  {result : Result}

/-- What is left of one when the controller has let go of it. -/
def LoraAdapter.released (adapter : LoraAdapter) : Option LoraAdapter :=
  if adapter.removeFinalizer.finalizers.isEmpty then none else some adapter.removeFinalizer

section Deletion

variable (hget : s.adapters.get? adapter.name = some adapter) (hdeleting : adapter.deleting = true)

include hget hdeleting

end Deletion

theorem Settled.of_moved (h : Settled s adapter) (hmoved : Moved adapter s adapter₁ s₁) :
    Settled s₁ adapter₁ where
  stored := hmoved.stored'
  live := hmoved.deleting.trans h.live
  finalizer := by
    rw [hmoved.finalizers]
    exact h.finalizer

end Stability

end ProductionStack.Operator

import Mathlib.Data.Finset.Max
import Mathlib.Data.Finset.Union

/-!
Consistent hashing. Every node has points on a circle, and a key belongs to the
node of the first point that is met on the way round from the key's own. A node
that is taken off the circle gives its keys to the nodes that are left, and a
node that is put on it takes keys only for itself.
-/

namespace ProductionStack.Lib

variable {ν π : Type} [LinearOrder π]

/-- On the way round from `k`, `p` is met no later than `q`. -/
def Ahead (k p q : π) : Prop := if k ≤ p then k ≤ q → p ≤ q else q < k ∧ p ≤ q

theorem Ahead.antisymm {k p q : π} (hp : Ahead k p q) (hq : Ahead k q p) : p = q := by
  unfold Ahead at hp hq
  split at hp
  · next hkp =>
      split at hq
      · next hkq => exact le_antisymm (hp hkq) (hq hkp)
      · exact absurd hkp (not_le.mpr hq.1)
  · next hkp =>
      split at hq
      · next hkq => exact absurd hkq (not_le.mpr hp.1)
      · exact le_antisymm hp.2 hq.2

/-- Some point of a nonempty set is met first. -/
theorem exists_first (k : π) {points : Finset π} (hne : points.Nonempty) :
    ∃ p ∈ points, ∀ q ∈ points, Ahead k p q := by
  by_cases hafter : (points.filter (k ≤ ·)).Nonempty
  · obtain ⟨p, hp, hmin⟩ := Finset.exists_min_image _ id hafter
    rw [Finset.mem_filter] at hp
    refine ⟨p, hp.1, ?_⟩
    intro q hq
    unfold Ahead
    rw [if_pos hp.2]
    intro hkq
    exact hmin q (Finset.mem_filter.mpr ⟨hq, hkq⟩)
  · -- all of them lie before the key, so the walk goes round
    have hbefore (q : π) (hq : q ∈ points) : q < k := by
      by_contra hkq
      exact hafter ⟨q, Finset.mem_filter.mpr ⟨hq, not_lt.mp hkq⟩⟩
    obtain ⟨p, hp, hmin⟩ := Finset.exists_min_image points id hne
    refine ⟨p, hp, ?_⟩
    intro q hq
    unfold Ahead
    rw [if_neg (not_le.mpr (hbefore p hp))]
    exact ⟨hbefore q hq, hmin q hq⟩

/-- No two nodes have a point in common. -/
structure Ring (ν π : Type) where
  points : ν → Finset π
  disjoint : ∀ m n p, p ∈ points m → p ∈ points n → m = n

namespace Ring

variable (ring : Ring ν π)

/-- The node, one of `nodes`, has the first point that is met from `k` on. -/
def Owns (nodes : Finset ν) (k : π) (node : ν) : Prop :=
  node ∈ nodes ∧ ∃ p ∈ ring.points node, ∀ m ∈ nodes, ∀ q ∈ ring.points m, Ahead k p q

variable {ring} {nodes nodes' : Finset ν} {k : π} {node other : ν}

theorem Owns.unique (h : ring.Owns nodes k node) (h' : ring.Owns nodes k other) : node = other := by
  obtain ⟨hnode, p, hp, hfirst⟩ := h
  obtain ⟨hother, q, hq, hfirst'⟩ := h'
  have hpq : p = q := (hfirst other hother q hq).antisymm (hfirst' node hnode p hp)
  subst hpq
  exact ring.disjoint node other p hp hq

/-- A key stays with its node when other nodes are removed. -/
theorem Owns.of_subset (h : ring.Owns nodes k node) (hsubset : nodes' ⊆ nodes)
    (hnode : node ∈ nodes') : ring.Owns nodes' k node := by
  obtain ⟨-, p, hp, hfirst⟩ := h
  exact ⟨hnode, p, hp, fun m hm q hq => hfirst m (hsubset hm) q hq⟩

/-- When nodes are added, a key stays with its node or goes to one of the new. -/
theorem Owns.of_superset (h : ring.Owns nodes k node) (hsubset : nodes ⊆ nodes')
    (h' : ring.Owns nodes' k other) : other = node ∨ other ∈ nodes' ∧ other ∉ nodes := by
  by_cases hother : other ∈ nodes
  · exact Or.inl ((h'.of_subset hsubset hother).unique h)
  · exact Or.inr ⟨h'.1, hother⟩

/-- As soon as there is a point, every key has an owner. -/
theorem exists_owns (k : π)
    (hpoint : ∃ node ∈ nodes, (ring.points node).Nonempty) : ∃ node, ring.Owns nodes k node := by
  have hne : (nodes.biUnion ring.points).Nonempty := by
    obtain ⟨node, hnode, p, hp⟩ := hpoint
    exact ⟨p, Finset.mem_biUnion.mpr ⟨node, hnode, hp⟩⟩
  obtain ⟨p, hp, hfirst⟩ := exists_first k hne
  obtain ⟨node, hnode, hpoint⟩ := Finset.mem_biUnion.mp hp
  refine ⟨node, hnode, p, hpoint, ?_⟩
  intro m hm q hq
  exact hfirst q (Finset.mem_biUnion.mpr ⟨m, hm, hq⟩)

end Ring

end ProductionStack.Lib

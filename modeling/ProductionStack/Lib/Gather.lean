import Mathlib.Data.List.Induction
import Mathlib.Data.List.Perm.Basic
import ProductionStack.Lib.Pool

/-!
Gathered tasks. They are started together, and whoever gathers them goes on when
every one has returned. A task that awaits once and then changes the state takes
effect at the moment it returns, so the state they leave is that of the effects in
some order of the tasks, and every order is possible.
-/

namespace ProductionStack.Lib

variable {σ ι α : Type} {Q : Signature}

/-- What the effects of these tasks make of a state, one after the other. -/
def inOrder (effect : ι → σ → σ) (order : List ι) (s : σ) : σ :=
  order.foldl (fun s input => effect input s) s

section Rule

variable (allowed : (query : Q.Event) → Q.Answer query → Prop) (effect : ι → σ → σ)
  (succeeded : α → Bool)

/-- What is left of a task that has had no effect: nothing if it has failed, and
else an await after which it returns, with its effect if it succeeds. -/
def Unfinished (input : ι) : Prog (shared σ Q) α → Prop
  | .ret a => succeeded a = false
  | .perform (.await query) next => ∀ answer s p s', allowed query answer →
      RunsTo allowed (next answer) s p s' →
        ∃ a, p = .ret a ∧ s' = if succeeded a then effect input s else s
  | _ => False

/-- A task that has returned, and succeeded. -/
def finished : Prog (shared σ Q) α → Bool
  | .ret a => succeeded a
  | _ => false

variable {allowed effect succeeded} {program : ι → Prog (shared σ Q) α}

theorem Unfinished.not_finished {input : ι} {p : Prog (shared σ Q) α}
    (h : Unfinished allowed effect succeeded input p) : finished succeeded p = false := by
  cases p with
  | ret a => exact h
  | perform act next => rfl

variable {initial : σ} {pool : Pool σ ι α Q}

variable
  (hprogram : ∀ input s p s', RunsTo allowed (program input) s p s' →
    s' = s ∧ Unfinished allowed effect succeeded input p)
  (hpool : Pool.Reachable program allowed initial pool)

include hprogram hpool

/-- The tasks that have finished took effect in some order. -/
theorem gathered_inOrder :
    ∃ order, pool.state = inOrder effect order initial ∧
      order.Perm ((pool.calls.filter fun call => finished succeeded call.2).map Prod.fst) ∧
      ∀ call ∈ pool.calls, finished succeeded call.2 = true ∨
        Unfinished allowed effect succeeded call.1 call.2 := by
  induction hpool with
  | refl => exact ⟨[], rfl, List.Perm.nil, by simp⟩
  | tail _ hstep ih =>
    obtain ⟨order, hstate, horder, hcalls⟩ := ih
    cases hstep with
    | @start _ input p s hrun =>
      obtain ⟨rfl, hunfinished⟩ := hprogram input _ p s hrun
      refine ⟨order, hstate, ?_, ?_⟩
      · rw [List.filter_append, List.filter_singleton]
        simpa [hunfinished.not_finished] using horder
      · intro call hcall
        rw [List.mem_append, List.mem_singleton] at hcall
        rcases hcall with hcall | rfl
        · exact hcalls call hcall
        · exact Or.inr hunfinished
    | @resume state before after input query next answer hanswer p s hrun =>
      have hunfinished : Unfinished allowed effect succeeded input (.perform (.await query) next) :=
        (hcalls _ (List.mem_append_right _ List.mem_cons_self)).resolve_left nofun
      obtain ⟨a, rfl, hs⟩ := hunfinished answer state p s hanswer hrun
      have hothers : ∀ call ∈ before ++ after, finished succeeded call.2 = true ∨
          Unfinished allowed effect succeeded call.1 call.2 := by
        intro call hcall
        rw [List.mem_append] at hcall
        rcases hcall with hcall | hcall
        · exact hcalls call (List.mem_append_left _ hcall)
        · exact hcalls call (List.mem_append_right _ (List.mem_cons_of_mem _ hcall))
      have hmem {call : ι × Prog (shared σ Q) α}
          (hcall : call ∈ before ++ (input, .ret a) :: after) :
          call = (input, .ret a) ∨ call ∈ before ++ after := by
        simpa [or_comm, or_assoc, or_left_comm] using hcall
      rw [List.filter_append, List.filter_cons_of_neg (by simp [finished])] at horder
      cases hsucceeded : succeeded a with
      | false =>
        rw [hsucceeded] at hs
        refine ⟨order, hs.trans hstate, ?_, ?_⟩
        · rw [List.filter_append, List.filter_cons_of_neg (by simp [finished, hsucceeded])]
          exact horder
        · intro call hcall
          rcases hmem hcall with rfl | hcall
          · exact Or.inr hsucceeded
          · exact hothers call hcall
      | true =>
        rw [hsucceeded, if_pos rfl] at hs
        refine ⟨order ++ [input], ?_, ?_, ?_⟩
        · have hstate' : state = inOrder effect order initial := hstate
          rw [hs, hstate']
          simp [inOrder]
        · rw [List.filter_append, List.filter_cons_of_pos (by simp [finished, hsucceeded]),
            List.map_append, List.map_cons]
          rw [List.map_append] at horder
          exact (List.perm_append_singleton _ _).trans
            ((horder.cons input).trans List.perm_middle.symm)
        · intro call hcall
          rcases hmem hcall with rfl | hcall
          · exact Or.inl hsucceeded
          · exact hothers call hcall

/-- If all of them have finished, the order is one of all that were started. -/
theorem gathered_perm (hdone : ∀ call ∈ pool.calls, finished succeeded call.2 = true) :
    ∃ order, order.Perm pool.inputs ∧ pool.state = inOrder effect order initial := by
  obtain ⟨order, hstate, horder, -⟩ := gathered_inOrder hprogram hpool
  rw [List.filter_eq_self.mpr hdone] at horder
  exact ⟨order, horder, hstate⟩

end Rule

section Possible

variable {allowed : (query : Q.Event) → Q.Answer query → Prop} {effect : ι → σ → σ} {result : α}
  {program wait : ι → Prog (shared σ Q) α}

/-- A task can be resumed, and then takes effect and returns. -/
def Resumes (allowed : (query : Q.Event) → Q.Answer query → Prop) (effect : ι → σ → σ) (result : α)
    (input : ι) (p : Prog (shared σ Q) α) : Prop :=
  ∃ (query : Q.Event) (next : Q.Answer query → Prog (shared σ Q) α) (answer : Q.Answer query),
    p = .perform (.await query) next ∧ allowed query answer ∧
      ∀ s, RunsTo allowed (next answer) s (.ret result) (effect input s)

variable {inputs order : List ι} (initial : σ)

/-- All of them are started. -/
theorem started_of_inputs
    (hstart : ∀ input ∈ inputs, ∀ s, RunsTo allowed (program input) s (wait input) s) :
    Pool.Reachable program allowed initial
      ⟨initial, inputs.map fun input => (input, wait input)⟩ := by
  induction inputs using List.reverseRecOn with
  | nil => exact .refl
  | append_singleton inputs input ih =>
    have hbefore := ih fun input hinput => hstart input (List.mem_append_left _ hinput)
    rw [List.map_append]
    exact hbefore.tail (.start input (hstart input (by simp) initial))

/-- Those that have not returned yet do so in any order. -/
theorem returned_in_order (s : σ) {marked : List (ι × Bool)}
    (hresume : ∀ entry ∈ marked, Resumes allowed effect result entry.1 (wait entry.1))
    (horder : order.Perm ((marked.filter fun entry => !entry.2).map Prod.fst)) :
    Relation.ReflTransGen (Pool.Step program allowed)
      ⟨s, marked.map fun entry => (entry.1, if entry.2 then .ret result else wait entry.1)⟩
      ⟨inOrder effect order s, marked.map fun entry => (entry.1, .ret result)⟩ := by
  induction order generalizing s marked with
  | nil =>
    have hmarked : ∀ entry ∈ marked, entry.2 = true := by
      intro entry hentry
      by_contra hunmarked
      have hmem : entry.1 ∈ (marked.filter fun entry => !entry.2).map Prod.fst :=
        List.mem_map_of_mem (List.mem_filter.mpr ⟨hentry, by simpa using hunmarked⟩)
      exact List.not_mem_nil (horder.mem_iff.mpr hmem)
    have hcalls : (marked.map fun entry => (entry.1, if entry.2 then .ret result else wait entry.1)) =
        marked.map fun entry => (entry.1, (.ret result : Prog (shared σ Q) α)) := by
      apply List.map_congr_left
      intro entry hentry
      rw [hmarked entry hentry, if_pos rfl]
    rw [hcalls]
    exact .refl
  | cons input rest ih =>
    have hmem : input ∈ (marked.filter fun entry => !entry.2).map Prod.fst :=
      horder.mem_iff.mp List.mem_cons_self
    obtain ⟨⟨input', mark⟩, hentry, hinput⟩ := List.mem_map.mp hmem
    obtain rfl : input' = input := hinput
    obtain ⟨hentry, hmark⟩ := List.mem_filter.mp hentry
    obtain rfl : mark = false := by simpa using hmark
    obtain ⟨before, after, rfl⟩ := List.append_of_mem hentry
    obtain ⟨query, next, answer, hwait, hanswer, hrun⟩ := hresume _ hentry
    have hrest : rest.Perm
        (((before ++ (input', true) :: after).filter fun entry => !entry.2).map Prod.fst) := by
      simp only [List.filter_append, List.filter_cons, Bool.not_false, Bool.not_true, if_true,
        List.map_append, List.map_cons, Bool.false_eq_true, if_false] at horder ⊢
      exact (horder.trans List.perm_middle).cons_inv
    have hresume' : ∀ entry ∈ before ++ (input', true) :: after,
        Resumes allowed effect result entry.1 (wait entry.1) := by
      intro entry hmem
      rw [List.mem_append, List.mem_cons] at hmem
      rcases hmem with hmem | rfl | hmem
      · exact hresume entry (List.mem_append_left _ hmem)
      · exact hresume (input', false) hentry
      · exact hresume entry (List.mem_append_right _ (List.mem_cons_of_mem _ hmem))
    have hlater := ih (effect input' s) hresume' hrest
    simp only [List.map_append, List.map_cons, Bool.false_eq_true, if_false, if_true,
      hwait] at hlater ⊢
    exact hlater.head (.resume answer hanswer (hrun s))

/-- Gathered tasks may take effect in any order. -/
theorem gathered_possible (horder : order.Perm inputs)
    (hstart : ∀ input ∈ inputs, ∀ s, RunsTo allowed (program input) s (wait input) s)
    (hresume : ∀ input ∈ inputs, Resumes allowed effect result input (wait input)) :
    Pool.Reachable program allowed initial
      ⟨inOrder effect order initial, inputs.map fun input => (input, .ret result)⟩ := by
  have hstarted := started_of_inputs initial hstart
  have hresume' : ∀ entry ∈ inputs.map fun input => (input, false),
      Resumes allowed effect result entry.1 (wait entry.1) := by
    intro entry hentry
    obtain ⟨input, hinput, rfl⟩ := List.mem_map.mp hentry
    exact hresume input hinput
  have horder' : order.Perm
      (((inputs.map fun input => (input, false)).filter fun entry => !entry.2).map Prod.fst) := by
    simpa [List.filter_map, Function.comp_def] using horder
  have hreturned : Relation.ReflTransGen (Pool.Step program allowed) _ _ :=
    returned_in_order initial hresume' horder'
  rw [List.map_map, List.map_map] at hreturned
  exact hstarted.trans hreturned

end Possible

end ProductionStack.Lib

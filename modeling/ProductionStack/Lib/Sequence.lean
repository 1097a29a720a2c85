import Mathlib.Data.List.Induction
import ProductionStack.Lib.Pool

/-!
Calls one after another. A coroutine that is run to its end before any other
starts sees nothing of the others but the state they left. `Ends` is the total
correctness of such a run, and `inTurn_ends` the rule for a sequence of them: what
every call keeps, given what was kept before it, is kept by the sequence, with the
history of the calls and their results at hand.
-/

namespace ProductionStack.Lib

variable {σ ι α β : Type} {Q : Signature}

section Alone

variable {answers : (query : Q.Event) → Option (Q.Answer query)}

theorem alone_bind (p : Prog (shared σ Q) α) (f : α → Prog (shared σ Q) β) (s : σ) :
    alone answers (p.bind f) s =
      (alone answers p s).bind fun result => alone answers (f result.1) result.2 := by
  induction p generalizing s with
  | ret a => rfl
  | perform act next ih =>
    cases act with
    | get => exact ih s s
    | put t => exact ih () t
    | ask query | await query =>
      simp only [Prog.bind, alone]
      cases answers query with
      | none => rfl
      | some answer => exact ih answer s

/-- Run alone, the coroutine comes to an end, with a result and a state that meet
`post`. -/
def Ends (answers : (query : Q.Event) → Option (Q.Answer query)) (p : Prog (shared σ Q) α) (s : σ)
    (post : α → σ → Prop) : Prop :=
  ∃ a s', alone answers p s = some (a, s') ∧ post a s'

variable {p : Prog (shared σ Q) α} {s : σ} {post : α → σ → Prop} {query : Q.Event}
  {next : Q.Answer query → Prog (shared σ Q) α} {answer : Q.Answer query}

theorem Ends.bind {f : α → Prog (shared σ Q) β} {mid : α → σ → Prop} {post : β → σ → Prop}
    (hp : Ends answers p s mid) (hf : ∀ a s', mid a s' → Ends answers (f a) s' post) :
    Ends answers (p.bind f) s post := by
  obtain ⟨a, s', halone, hmid⟩ := hp
  obtain ⟨b, s'', halone', hpost⟩ := hf a s' hmid
  refine ⟨b, s'', ?_, hpost⟩
  rw [alone_bind, halone]
  exact halone'

theorem Ends.mono {post' : α → σ → Prop} (h : Ends answers p s post)
    (hpost : ∀ a s', post a s' → post' a s') : Ends answers p s post' := by
  obtain ⟨a, s', halone, ha⟩ := h
  exact ⟨a, s', halone, hpost a s' ha⟩

theorem Ends.ask
    (hanswer : answers query = some answer)
    (h : Ends answers (next answer) s post) : Ends answers (.perform (.ask query) next) s post := by
  obtain ⟨a, s', halone, ha⟩ := h
  refine ⟨a, s', ?_, ha⟩
  simp only [alone, hanswer]
  exact halone

theorem Ends.await
    (hanswer : answers query = some answer) (h : Ends answers (next answer) s post) :
    Ends answers (.perform (.await query) next) s post := by
  obtain ⟨a, s', halone, ha⟩ := h
  refine ⟨a, s', ?_, ha⟩
  simp only [alone, hanswer]
  exact halone

/-- What a coroutine meets among others it meets alone. -/
theorem Prog.Always.of_alone {R : σ → σ → Prop}
    {allowed : (query : Q.Event) → Q.Answer query → Prop} (hrefl : ∀ s, R s s)
    (hanswers : ∀ query answer, answers query = some answer → allowed query answer)
    {post : σ → α → Prop} {s' : σ} {a : α}
    (h : Prog.Always (relyingOn R allowed) (changing R) post p s)
    (halone : alone answers p s = some (a, s')) : post s' a := by
  induction p generalizing s with
  | ret b =>
    obtain ⟨rfl, rfl⟩ := Prod.mk.inj (Option.some.inj halone)
    exact h
  | perform act next ih =>
    cases act with
    | get => exact ih s (h.2 s s ⟨rfl, rfl⟩) halone
    | put t => exact ih () (h.2 () t rfl) halone
    | ask query =>
      unfold alone at halone
      split at halone
      · cases halone
      · next answer hanswer =>
          exact ih answer (h.2 answer s ⟨hanswers query answer hanswer, rfl⟩) halone
    | await query =>
      unfold alone at halone
      split at halone
      · cases halone
      · next answer hanswer =>
          exact ih answer (h.2 answer s ⟨hanswers query answer hanswer, hrefl s⟩) halone

end Alone

/-! Histories that grow by one call. -/

section History

variable {history : List (ι × α)} {input : ι} {a : α}

theorem forall_mem_concat {P : ι → α → Prop} (h : ∀ input a, (input, a) ∈ history → P input a)
    (hlast : P input a) : ∀ input' a', (input', a') ∈ history ++ [(input, a)] → P input' a' := by
  intro input' a' hmem
  rw [List.mem_append, List.mem_singleton] at hmem
  rcases hmem with hmem | heq
  · exact h input' a' hmem
  · obtain ⟨rfl, rfl⟩ := Prod.mk.inj heq
    exact hlast

/-- The same of a call and those before it. -/
theorem forall_split_concat {P : List (ι × α) → ι → α → Prop}
    (h : ∀ before input a after, history = before ++ (input, a) :: after → P before input a)
    (hlast : P history input a) :
    ∀ before input' a' after, history ++ [(input, a)] = before ++ (input', a') :: after →
      P before input' a' := by
  intro before input' a' after hhistory
  rcases List.eq_nil_or_concat after with rfl | ⟨after', last, rfl⟩
  · obtain ⟨rfl, hone⟩ := List.append_inj' hhistory rfl
    obtain ⟨rfl, rfl⟩ := Prod.mk.inj (List.cons.inj hone).1
    exact hlast
  · rw [List.concat_eq_append, ← List.cons_append, ← List.append_assoc] at hhistory
    exact h before input' a' after' (List.append_inj' hhistory rfl).1

end History

section InTurn

variable (answers : ι → (query : Q.Event) → Option (Q.Answer query))
  (program : ι → Prog (shared σ Q) α)

/-- One more call, after those of the history. -/
def serve (served : List (ι × α) × σ) (input : ι) : Option (List (ι × α) × σ) :=
  (alone (answers input) (program input) served.2).map fun result =>
    (served.1 ++ [(input, result.1)], result.2)

/-- The calls in the order of the list: their results, and the state they leave. -/
def inTurn (s : σ) (inputs : List ι) : Option (List (ι × α) × σ) :=
  inputs.foldlM (serve answers program) ([], s)

variable {answers program}

theorem inTurn_concat (s : σ) (inputs : List ι) (input : ι) :
    inTurn answers program s (inputs ++ [input]) =
      (inTurn answers program s inputs).bind fun served => serve answers program served input := by
  unfold inTurn
  simp only [List.foldlM_append, List.foldlM_cons, List.foldlM_nil, bind_pure]
  rfl

/-- What every call keeps is kept by the sequence, which comes to its end. -/
theorem inTurn_ends {inv : List (ι × α) → σ → Prop} {s : σ} {inputs : List ι} (hinit : inv [] s)
    (hcall : ∀ history s, inv history s → ∀ input ∈ inputs,
      Ends (answers input) (program input) s fun a s' => inv (history ++ [(input, a)]) s') :
    ∃ history s', inTurn answers program s inputs = some (history, s') ∧
      history.map Prod.fst = inputs ∧ inv history s' := by
  induction inputs using List.reverseRecOn with
  | nil => exact ⟨[], s, rfl, rfl, hinit⟩
  | append_singleton inputs input ih =>
    obtain ⟨history, s', hrun, hinputs, hinv⟩ := ih fun history s hinv input member =>
      hcall history s hinv input (List.mem_append_left _ member)
    obtain ⟨a, s'', halone, hinv'⟩ :=
      hcall history s' hinv input (List.mem_append_right _ List.mem_cons_self)
    refine ⟨history ++ [(input, a)], s'', ?_, ?_, hinv'⟩
    · rw [inTurn_concat, hrun]
      simp [serve, halone]
    · simp [hinputs]

end InTurn

end ProductionStack.Lib

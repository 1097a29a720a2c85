import Mathlib.Init

/-!
Programs that interact with an environment. A program either returns or
performs an event and continues with the environment's answer. An environment
over a state `σ` says which answers an event may get and how the state changes
with them, so one program has as many runs as there are ways to answer it.

`Always` is the weakest precondition of a program: every event it performs
meets `asserts`, and every value it returns meets `post`. `Always.sound` turns
it into a statement about every run.
-/

namespace ProductionStack.Lib

/-- The events a program may perform, and the answers each may get. -/
structure Signature where
  Event : Type
  Answer : Event → Type

inductive Prog (S : Signature) (α : Type) where
  | ret (value : α)
  | perform (event : S.Event) (next : S.Answer event → Prog S α)

/-- `env s e a s'`: in state `s` the event `e` may be answered `a`, and the
state becomes `s'`. -/
def Env (S : Signature) (σ : Type) := σ → (e : S.Event) → S.Answer e → σ → Prop

/-- The same environment, with an invariant of its states at hand. -/
def Env.within {S : Signature} {σ : Type} (env : Env S σ) (inv : σ → Prop) : Env S σ :=
  fun s e answer s' => inv s ∧ env s e answer s' ∧ inv s'

/-- The same environment, up to the first event of a kind. -/
def Env.before {S : Signature} {σ : Type} (env : Env S σ) (kind : S.Event → Bool) : Env S σ :=
  fun s e answer s' => kind e = false ∧ env s e answer s'

namespace Prog

variable {S : Signature} {σ α β : Type}

def bind : Prog S α → (α → Prog S β) → Prog S β
  | .ret a, f => f a
  | .perform e k, f => .perform e (fun answer => (k answer).bind f)

instance : Monad (Prog S) where
  pure := .ret
  bind := .bind

/-- `p` in state `s` may get to `p'` in state `s'`. A run is finished when
`p'` is a `ret`. -/
inductive Reaches (env : Env S σ) : Prog S α → σ → Prog S α → σ → Prop where
  | refl (p : Prog S α) (s : σ) : Reaches env p s p s
  | step {e : S.Event} {k : S.Answer e → Prog S α} {s s' s'' : σ} {p : Prog S α}
      (answer : S.Answer e) (allowed : env s e answer s')
      (rest : Reaches env (k answer) s' p s'') : Reaches env (.perform e k) s p s''

def Always (env : Env S σ) (asserts : σ → S.Event → Prop) (post : σ → α → Prop) :
    Prog S α → σ → Prop
  | .ret a, s => post s a
  | .perform e k, s => asserts s e ∧
      ∀ answer s', env s e answer s' → Always env asserts post (k answer) s'

section Rules

variable {env : Env S σ} {asserts : σ → S.Event → Prop} {post : σ → α → Prop} {p : Prog S α}
  {s s' : σ}

theorem Always.sound {p' : Prog S α} (h : Always env asserts post p s)
    (hrun : Reaches env p s p' s') : Always env asserts post p' s' := by
  induction hrun with
  | refl p s => exact h
  | step answer allowed rest ih => exact ih (h.2 answer _ allowed)

theorem Always.returned {a : α} (h : Always env asserts post p s)
    (hrun : Reaches env p s (.ret a) s') : post s' a :=
  h.sound hrun

theorem Always.performed {e : S.Event} {k : S.Answer e → Prog S α}
    (h : Always env asserts post p s) (hrun : Reaches env p s (.perform e k) s') : asserts s' e :=
  (h.sound hrun).1

/-- What holds at every event that a run gets to. -/
theorem always_of_performed
    (h : ∀ e (k : S.Answer e → Prog S α) s', Reaches env p s (.perform e k) s' → asserts s' e) :
    Always env asserts (fun _ _ => True) p s := by
  induction p generalizing s with
  | ret a => exact trivial
  | perform e k ih =>
    refine ⟨h e k s (.refl _ _), ?_⟩
    intro answer s' allowed
    apply ih answer
    intro e' k' s'' hrun
    exact h e' k' s'' (.step answer allowed hrun)

theorem always_bind {post : σ → β → Prop} (p : Prog S α) (f : α → Prog S β) (s : σ) :
    Always env asserts post (p.bind f) s ↔
      Always env asserts (fun s a => Always env asserts post (f a) s) p s := by
  induction p generalizing s with
  | ret a => exact Iff.rfl
  | perform e k ih =>
    constructor
    · rintro ⟨hassert, hnext⟩
      exact ⟨hassert, fun answer s' allowed => (ih answer s').mp (hnext answer s' allowed)⟩
    · rintro ⟨hassert, hnext⟩
      exact ⟨hassert, fun answer s' allowed => (ih answer s').mpr (hnext answer s' allowed)⟩

variable {post' : σ → α → Prop} {asserts' : σ → S.Event → Prop}

section Held

variable (h : Always env asserts post p s)

include h

theorem Always.and (h' : Always env asserts' post' p s) :
    Always env asserts (fun s a => post s a ∧ post' s a) p s := by
  induction p generalizing s with
  | ret a => exact ⟨h, h'⟩
  | perform e k ih =>
    refine ⟨h.1, ?_⟩
    intro answer s' allowed
    exact ih answer (h.2 answer s' allowed) (h'.2 answer s' allowed)

/-- With fewer answers there are fewer runs. -/
theorem Always.restrict {env' : Env S σ}
    (henv : ∀ s e answer s', env' s e answer s' → env s e answer s') :
    Always env' asserts post p s := by
  induction p generalizing s with
  | ret a => exact h
  | perform e k ih =>
    refine ⟨h.1, ?_⟩
    intro answer s' allowed
    exact ih answer (h.2 answer s' (henv s e answer s' allowed))

/-- Consequence: weaken what is asserted at events and of the result. -/
theorem Always.mono (hasserts : ∀ s e, asserts s e → asserts' s e)
    (hpost : ∀ s a, post s a → post' s a) : Always env asserts' post' p s := by
  induction p generalizing s with
  | ret a => exact hpost s a h
  | perform e k ih =>
    refine ⟨hasserts s e h.1, ?_⟩
    intro answer s' allowed
    exact ih answer (h.2 answer s' allowed)

theorem Always.imp (hpost : ∀ s a, post s a → post' s a) :
    Always env asserts post' p s :=
  h.mono (fun _ _ h => h) hpost

end Held

end Rules

variable {p : Prog S α} {s s' : σ} {env : Env S σ} {f : α → Prog S β} {p' : Prog S α}
  {post : σ → α → Prop} {E : S.Event → Prop}

/-- A run of the first part, and then one of the rest. -/
theorem Reaches.bind {a : α} {q : Prog S β} {s'' : σ} (hp : Reaches env p s (.ret a) s')
    (hf : Reaches env (f a) s' q s'') : Reaches env (p.bind f) s q s'' := by
  generalize hr : Prog.ret a = r at hp
  induction hp with
  | refl p s =>
    subst hr
    exact hf
  | step answer allowed rest ih => exact .step answer allowed (ih hf hr)

variable {inv : σ → Prop}

section Invariant

variable (hstep : ∀ s e answer s', inv s → env s e answer s' → inv s')
  (hrun : Reaches env p s p' s') (hs : inv s)

include hstep hrun hs

/-- A run keeps every invariant that single answers keep. -/
theorem Reaches.invariant : inv s' := by
  induction hrun with
  | refl p s => exact hs
  | step answer allowed rest ih => exact ih (hstep _ _ _ _ hs allowed)

/-- So a specification may be proved with the invariant at hand. -/
theorem Reaches.within : Reaches (env.within inv) p s p' s' := by
  induction hrun with
  | refl p s => exact .refl p s
  | step answer allowed rest ih =>
    have hnext := hstep _ _ _ _ hs allowed
    exact .step answer ⟨hs, allowed, hnext⟩ (ih hnext)

end Invariant

/-- A run of the first part that has not finished is one of the whole. -/
theorem Reaches.bind_left {q : Prog S α} (f : α → Prog S β) (h : Reaches env p s q s') :
    Reaches env (p.bind f) s (q.bind f) s' := by
  induction h with
  | refl p s => exact .refl _ _
  | step answer allowed rest ih => exact .step answer allowed ih

/-- Some run performs `e`, and no event of its kind before. -/
def First (env : Env S σ) (kind : S.Event → Bool) (p : Prog S α) (s : σ) (e : S.Event) : Prop :=
  kind e = true ∧ ∃ k s', Reaches (env.before kind) p s (.perform e k) s'

theorem First.meets {kind : S.Event → Bool} {Q : S.Event → Prop} {e : S.Event}
    (h : First env kind p s e)
    (hp : Always (env.before kind) (fun _ e => kind e = true → Q e) post p s) : Q e := by
  obtain ⟨hkind, k, s', hrun⟩ := h
  exact hp.performed hrun hkind

/-! Generators: the events of a program that hand a value to its consumer. -/

/-- Run up to the next event that `yields`, and stop there with the rest of the
generator; or finish. -/
def anext (yields : S.Event → Bool) :
    Prog S α → Prog S (((e : S.Event) × (S.Answer e → Prog S α)) ⊕ α)
  | .ret a => .ret (.inr a)
  | .perform e k =>
    if yields e then .ret (.inl ⟨e, k⟩)
    else .perform e (fun answer => (k answer).anext yields)

def Performs (E : S.Event → Prop) : Prog S α → Prop
  | .ret _ => True
  | .perform e k => E e ∧ ∀ answer, (k answer).Performs E

theorem Performs.mono {E' : S.Event → Prop} (h : p.Performs E) (hE : ∀ e, E e → E' e) :
    p.Performs E' := by
  induction p with
  | ret a => exact trivial
  | perform e k ih => exact ⟨hE e h.1, fun answer => ih answer (h.2 answer)⟩

theorem Performs.bind (hp : p.Performs E) (hf : ∀ a, (f a).Performs E) : (p.bind f).Performs E := by
  induction p with
  | ret a => exact hf a
  | perform e k ih => exact ⟨hp.1, fun answer => ih answer (hp.2 answer)⟩

section Footprint

variable {asserts : σ → S.Event → Prop} {kind : S.Event → Bool}

/-- A run that is at an event outside the footprint of the first part has finished
that part. -/
theorem Reaches.past (hp : p.Performs E) {e : S.Event} (he : ¬ E e) {k : S.Answer e → Prog S β}
    (h : Reaches env (p.bind f) s (.perform e k) s') :
    ∃ a s₁, Reaches env p s (.ret a) s₁ ∧ Reaches env (f a) s₁ (.perform e k) s' := by
  induction p generalizing s with
  | ret a => exact ⟨a, s, .refl _ _, h⟩
  | perform e' next ih =>
    cases h with
    | refl => exact absurd hp.1 he
    | step answer allowed rest =>
      obtain ⟨a, s₁, hfirst, hrest⟩ := ih answer (hp.2 answer) rest
      exact ⟨a, s₁, .step answer allowed hfirst, hrest⟩

/-- An invariant that all events of the footprint keep holds throughout. -/
theorem Performs.always (h : p.Performs E) (hasserts : ∀ s e, inv s → E e → asserts s e)
    (hinv : ∀ s e answer s', inv s → E e → env s e answer s' → inv s') (hs : inv s) :
    Always env asserts (fun s _ => inv s) p s := by
  induction p generalizing s with
  | ret a => exact hs
  | perform e k ih =>
    refine ⟨hasserts s e hs h.1, ?_⟩
    intro answer s' allowed
    exact ih answer (h.2 answer) (hinv s e answer s' hs h.1 allowed)

/-- What follows the first event of a kind keeps to the footprint. -/
def ThenPerforms (kind : S.Event → Bool) (E : S.Event → Prop) : Prog S α → Prop
  | .ret _ => True
  | .perform e k => ∀ answer,
      if kind e then (k answer).Performs E else (k answer).ThenPerforms kind E

theorem Performs.thenPerforms (h : p.Performs E) (kind : S.Event → Bool) :
    p.ThenPerforms kind E := by
  induction p with
  | ret a => exact trivial
  | perform e k ih =>
    intro answer
    split
    · exact h.2 answer
    · exact ih answer (h.2 answer)

theorem ThenPerforms.bind (hp : p.ThenPerforms kind E)
    (hf : ∀ a, (f a).Performs E) : (p.bind f).ThenPerforms kind E := by
  induction p with
  | ret a => exact (hf a).thenPerforms kind
  | perform e k ih =>
    intro answer
    have hnext := hp answer
    split
    · next hkind =>
        rw [if_pos hkind] at hnext
        exact hnext.bind hf
    · next hkind =>
        rw [if_neg hkind] at hnext
        exact ih answer hnext

/-- The first event of the kind comes later. -/
theorem ThenPerforms.after (hp : p.Performs fun e => kind e = false)
    (hf : ∀ a, (f a).ThenPerforms kind E) : (p.bind f).ThenPerforms kind E := by
  induction p with
  | ret a => exact hf a
  | perform e k ih =>
    intro answer
    rw [hp.1]
    exact ih answer (hp.2 answer)

/-- A generator up to its first yield, and what may follow it. -/
theorem always_anext_first {yields : S.Event → Bool}
    (h : Always (env.before yields) asserts post p s) (hthen : p.ThenPerforms yields E) :
    Always env (fun _ _ => True) (fun s r => match r with
      | .inl ⟨e, k⟩ => asserts s e ∧ ∀ answer, (k answer).Performs E
      | .inr a => post s a) (p.anext yields) s := by
  induction p generalizing s with
  | ret a => exact h
  | perform e k ih =>
    unfold anext
    cases hyields : yields e with
    | true =>
      refine ⟨h.1, ?_⟩
      intro answer
      have hnext := hthen answer
      rwa [if_pos hyields] at hnext
    | false =>
      refine ⟨trivial, ?_⟩
      intro answer s' allowed
      have hnext := hthen answer
      rw [hyields] at hnext
      exact ih answer (h.2 answer s' ⟨hyields, allowed⟩) hnext

end Footprint

/-! One run, computed: a handler answers every event from its own state. -/

def interpret (handler : (e : S.Event) → σ → S.Answer e × σ) : Prog S α → σ → α × σ
  | .ret a, s => (a, s)
  | .perform e k, s =>
    let (answer, s) := handler e s
    (k answer).interpret handler s

/-- A handler that keeps to the environment computes one of the runs. -/
theorem interpret_reaches {handler : (e : S.Event) → σ → S.Answer e × σ}
    (hhandler : ∀ e s, env s e (handler e s).1 (handler e s).2) (p : Prog S α) (s : σ) :
    Reaches env p s (.ret (p.interpret handler s).1) (p.interpret handler s).2 := by
  induction p generalizing s with
  | ret a => exact .refl _ _
  | perform e k ih => exact .step _ (hhandler e s) (ih _ _)

end Prog

/-! Computations that may fail: what it takes to return. -/

section Except

variable {ε ε' α β : Type} {x : Except ε α} {f : α → Except ε β}

theorem bind_ok_iff {b : β} : (x >>= f) = .ok b ↔ ∃ a, x = .ok a ∧ f a = .ok b := by
  cases x with
  | error e | ok a => simp [bind, Except.bind]

theorem bind_ok {b : β} (h : (x >>= f) = .ok b) : ∃ a, x = .ok a ∧ f a = .ok b :=
  bind_ok_iff.mp h

variable {xs : List α} {ys : List β} {γ : Type} {k : α → γ}

/-- What is known of each result is known of the list of them. -/
theorem map_of_mapM {g : β → γ} (hf : ∀ x y, f x = .ok y → g y = k x)
    (h : xs.mapM f = .ok ys) : ys.map g = xs.map k := by
  induction xs generalizing ys with
  | nil =>
    cases h
    rfl
  | cons x xs ih =>
    rw [List.mapM_cons] at h
    obtain ⟨y, hy, h⟩ := bind_ok h
    obtain ⟨rest, hrest, ⟨⟩⟩ := bind_ok h
    rw [List.map_cons, List.map_cons, hf x y hy, ih hrest]

theorem ok_of_mapM (h : xs.mapM f = .ok ys) {a : α} (ha : a ∈ xs) : ∃ b, f a = .ok b := by
  induction xs generalizing ys with
  | nil => cases ha
  | cons x xs ih =>
    rw [List.mapM_cons] at h
    obtain ⟨y, hy, h⟩ := bind_ok h
    obtain ⟨rest, hrest, -⟩ := bind_ok h
    rcases List.mem_cons.mp ha with rfl | ha
    · exact ⟨y, hy⟩
    · exact ih hrest ha

/-- A loop that stops at what is not good comes to its end exactly if everything is. -/
theorem foldlM_map_ok_iff {σ : Type} {step : σ → β → Except ε σ} {read : α → β} {p : α → Prop}
    {g : σ → α → σ} (hok : ∀ s a, p a → step s (read a) = .ok (g s a))
    (hbad : ∀ s a, ¬ p a → ∃ e, step s (read a) = .error e) (xs : List α) (s t : σ) :
    (xs.map read).foldlM step s = .ok t ↔ (∀ a ∈ xs, p a) ∧ xs.foldl g s = t := by
  induction xs generalizing s with
  | nil => simp [pure, Except.pure]
  | cons a xs ih =>
    rw [List.map_cons, List.foldlM_cons, List.foldl_cons, List.forall_mem_cons]
    by_cases ha : p a
    · rw [hok s a ha]
      exact (ih _).trans (by simp [ha])
    · obtain ⟨e, he⟩ := hbad s a ha
      rw [he]
      exact iff_of_false nofun fun h => ha h.1.1

theorem mapM_map_ok {f : β → Except ε γ} {g : α → β} (xs : List α)
    (h : ∀ x, f (g x) = .ok (k x)) : (xs.map g).mapM f = .ok (xs.map k) := by
  have hpure : f ∘ g = fun x => pure (k x) := funext h
  rw [List.mapM_map, hpure, List.mapM_pure]
  rfl

theorem mapError_ok {f : ε → ε'} {a : α} (h : x.mapError f = .ok a) : x = .ok a := by
  cases x with
  | error e => cases h
  | ok b => exact congrArg Except.ok (Except.ok.inj h)

end Except

end ProductionStack.Lib

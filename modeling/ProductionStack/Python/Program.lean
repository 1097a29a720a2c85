import ProductionStack.Lib.Prog
import ProductionStack.Python.Exceptions

/-!
Python functions as programs: a body with local variables that survives its own
exceptions, so that `except`, `finally` and the exits of `async with` see the
locals as the raising statement left them.
-/

namespace ProductionStack.Python

open Lib

def Py (S : Signature) (L α : Type) := L → Prog S (Except Raised α × L)

variable {L' : Type}

namespace Py

variable {S : Signature} {σ L α β : Type}

protected def pure (a : α) : Py S L α := fun l => .ret (.ok a, l)

protected def bind (p : Py S L α) (f : α → Py S L β) : Py S L β := fun l =>
  (p l).bind fun
    | (.ok a, l) => f a l
    | (.error e, l) => .ret (.error e, l)

instance : Monad (Py S L) where
  pure := Py.pure
  bind := Py.bind

def raise (e : Raised) : Py S L α := fun l => .ret (.error e, l)

def ofExcept (r : Except Raised α) : Py S L α := fun l => .ret (r, l)

def locals : Py S L L := fun l => .ret (.ok l, l)

def update (f : L → L) : Py S L Unit := fun l => .ret (.ok (), f l)

def perform (e : S.Event) : Py S L (S.Answer e) := fun l =>
  .perform e fun answer => .ret (.ok answer, l)

/-- `try: body except ...: handler`. The handler re-raises what it does not
catch. -/
def tryExcept (body : Py S L α) (handler : Raised → Py S L α) : Py S L α := fun l =>
  (body l).bind fun
    | (.ok a, l) => .ret (.ok a, l)
    | (.error e, l) => handler e l

/-- Run `exit` however the body ends. What `exit` raises replaces the body's
outcome. -/
def withExit (body : Py S L α) (exit : Except Raised α → Py S L Unit) : Py S L α := fun l =>
  (body l).bind fun (r, l) => (exit r l).bind fun
    | (.ok (), l) => .ret (r, l)
    | (.error e, l) => .ret (.error e, l)

def tryFinally (body : Py S L α) (final : Py S L Unit) : Py S L α :=
  withExit body fun _ => final

/-- Call a function with locals of its own. -/
def call {L' : Type} (p : Py S L' α) (l' : L') : Py S L α := fun l =>
  (p l').bind fun (r, _) => .ret (r, l)

/-- Every run of `p` from locals `l` and state `s` meets `asserts` at its events
and `post` at its end. -/
def Ensures (env : Env S σ) (asserts : σ → S.Event → Prop) (p : Py S L α) (l : L) (s : σ)
    (post : Except Raised α → L → σ → Prop) : Prop :=
  Prog.Always env asserts (fun s r => post r.1 r.2 s) (p l) s

section Rules

variable {env : Env S σ} {asserts : σ → S.Event → Prop} {l : L} {s : σ}
  {post post' : Except Raised α → L → σ → Prop} {next : Except Raised β → L → σ → Prop}

theorem ensures_pure (a : α) (post : Except Raised α → L → σ → Prop) :
    Ensures env asserts (pure a : Py S L α) l s post ↔ post (.ok a) l s := Iff.rfl

variable {f : α → Py S L β} {body : Py S L α} {asserts' : σ → S.Event → Prop} {r : Except Raised α}

theorem ensures_bind {p : Py S L α} : Ensures env asserts (p >>= f) l s next ↔
      Ensures env asserts p l s fun r l s => match r with
        | .ok a => Ensures env asserts (f a) l s next
        | .error e => next (.error e) l s := by
  change Prog.Always _ _ _ ((p l).bind _) s ↔ _
  rw [Prog.always_bind]
  refine iff_of_eq (congrArg (fun q => Prog.Always env asserts q (p l) s) ?_)
  funext s r
  obtain ⟨r, l⟩ := r
  cases r <;> rfl

theorem ensures_tryExcept {handler : Raised → Py S L α} :
    Ensures env asserts (tryExcept body handler) l s post ↔
      Ensures env asserts body l s fun r l s => match r with
        | .ok a => post (.ok a) l s
        | .error e => Ensures env asserts (handler e) l s post := by
  unfold Ensures tryExcept
  rw [Prog.always_bind]
  refine iff_of_eq (congrArg (fun q => Prog.Always env asserts q (body l) s) ?_)
  funext s r
  obtain ⟨r, l⟩ := r
  cases r <;> rfl

theorem ensures_withExit {exit : Except Raised α → Py S L Unit} :
    Ensures env asserts (withExit body exit) l s post ↔ Ensures env asserts body l s fun r l s =>
        Ensures env asserts (exit r) l s fun r' l s => match r' with
          | .ok () => post r l s
          | .error e => post (.error e) l s := by
  unfold Ensures withExit
  rw [Prog.always_bind]
  refine iff_of_eq (congrArg (fun q => Prog.Always env asserts q (body l) s) ?_)
  funext s r
  obtain ⟨r, l⟩ := r
  rw [Prog.always_bind]
  congr 1
  funext s r'
  obtain ⟨r', l'⟩ := r'
  cases r' <;> rfl

theorem ensures_call {p : Py S L' α} {l' : L'} : Ensures env asserts (call p l') l s post ↔
      Ensures env asserts p l' s fun r _ s => post r l s := by
  unfold Ensures call
  rw [Prog.always_bind]
  exact Iff.rfl

variable {p : Py S L α}

section Held

variable (h : Ensures env asserts p l s post)

include h

theorem Ensures.mono (hasserts : ∀ s e, asserts s e → asserts' s e)
    (hpost : ∀ r l s, post r l s → post' r l s) :
    Ensures env asserts' p l s post' :=
  Prog.Always.mono h hasserts fun s r => hpost r.1 r.2 s

theorem Ensures.imp (hpost : ∀ r l s, post r l s → post' r l s) : Ensures env asserts p l s post' :=
  h.mono (fun _ _ h => h) hpost

theorem Ensures.and (h' : Ensures env asserts' p l s post') :
    Ensures env asserts p l s fun r l s => post r l s ∧ post' r l s :=
  Prog.Always.and h h'

/-- What every run ensures, every run up to the first event of a kind ensures. -/
theorem Ensures.before (kind : S.Event → Bool) :
    Ensures (env.before kind) asserts p l s post :=
  Prog.Always.restrict h fun _ _ _ _ hstep => hstep.2

theorem Ensures.returned {l' : L} {s' : σ} (hrun : Prog.Reaches env (p l) s (.ret (r, l')) s') :
    post r l' s' := by
  unfold Ensures at h
  exact h.returned hrun

end Held

theorem ensures_update_bind {f : L → L} {g : Unit → Py S L α}
    (h : Ensures env asserts (g ()) (f l) s post) :
    Ensures env asserts (update f >>= g) l s post := h

theorem ensures_locals_bind {f : L → Py S L α} (h : Ensures env asserts (f l) l s post) :
    Ensures env asserts (locals >>= f) l s post := h

theorem ensures_perform_bind {e : S.Event} {f : S.Answer e → Py S L α} (hassert : asserts s e)
    (h : ∀ answer s', env s e answer s' → Ensures env asserts (f answer) l s' post) :
    Ensures env asserts (perform e >>= f) l s post := by
  exact ⟨hassert, h⟩

theorem ensures_ofExcept_bind (hok : ∀ a, r = .ok a → Ensures env asserts (f a) l s next)
    (herror : ∀ e, r = .error e → next (.error e) l s) :
    Ensures env asserts (ofExcept r >>= f) l s next := by
  cases r with
  | ok a => exact hok a rfl
  | error e => exact herror e rfl

/-- Sequencing with a specification of the first part. -/
theorem ensures_seq (hp : Ensures env asserts p l s post)
    (hok : ∀ a l s, post (.ok a) l s → Ensures env asserts (f a) l s next)
    (herror : ∀ e l s, post (.error e) l s → next (.error e) l s) :
    Ensures env asserts (p >>= f) l s next := by
  apply ensures_bind.mpr
  refine hp.imp ?_
  intro r l s h
  cases r with
  | ok a => exact hok a l s h
  | error e => exact herror e l s h

end Rules

/-- Whatever the function is answered, a value that it returns meets `Q`. -/
structure Returns (Q : α → Prop) (p : Py S L α) : Prop where
  run : ∀ (σ : Type) (env : Env S σ) (l : L) (s : σ),
    Ensures env (fun _ _ => True) p l s fun r _ _ => ∀ a, r = .ok a → Q a

section Results

variable {Q : α → Prop}

theorem returns_pure {a : α} (h : Q a) : Returns Q (pure a : Py S L α) := by
  refine ⟨fun _ _ _ _ => ?_⟩
  rintro _ ⟨⟩
  exact h

theorem returns_raise (e : Raised) : Returns Q (raise e : Py S L α) := by
  refine ⟨fun _ _ _ _ => ?_⟩
  rintro _ ⟨⟩

theorem returns_any (p : Py S L α) : Returns (fun _ => True) p := by
  refine ⟨fun _ _ _ _ => ?_⟩
  exact Prog.Always.imp (Prog.always_of_performed fun _ _ _ _ => trivial) fun _ _ _ _ _ => trivial

variable {p : Py S L α} {R : β → Prop} {f : α → Py S L β}

theorem Returns.bind (hp : Returns Q p) (hf : ∀ a, Q a → Returns R (f a)) :
    Returns R (p >>= f) := by
  refine ⟨fun σ env l s => ?_⟩
  apply ensures_seq (hp.run σ env l s)
  · intro a l s ha
    exact (hf a (ha a rfl)).run σ env l s
  · rintro e l s - _ ⟨⟩

theorem Returns.mono {R : α → Prop} (hp : Returns Q p) (h : ∀ a, Q a → R a) : Returns R p := by
  refine ⟨fun σ env l s => (hp.run σ env l s).imp ?_⟩
  intro r _ _ hr a ha
  exact h a (hr a ha)

/-- Sequencing when nothing is known of the first part. -/
theorem returns_then (hf : ∀ a, Returns R (f a)) : Returns R (p >>= f) :=
  (returns_any p).bind fun a _ => hf a

variable {body : Py S L α}

theorem Returns.tryExcept {handler : Raised → Py S L α} (hbody : Returns Q body)
    (hhandler : ∀ e, Returns Q (handler e)) : Returns Q (tryExcept body handler) := by
  refine ⟨fun σ env l s => ?_⟩
  apply ensures_tryExcept.mpr
  refine (hbody.run σ env l s).imp ?_
  intro r l s h
  cases r with
  | ok a => exact h
  | error e => exact (hhandler e).run σ env l s

theorem Returns.withExit {exit : Except Raised α → Py S L Unit} (hbody : Returns Q body) :
    Returns Q (withExit body exit) := by
  refine ⟨fun σ env l s => ?_⟩
  apply ensures_withExit.mpr
  refine (hbody.run σ env l s).imp ?_
  intro r l s h
  refine ((returns_any (exit r)).run σ env l s).imp ?_
  intro r' _ _ _
  cases r' with
  | ok _ => exact h
  | error e => exact nofun

theorem Returns.tryFinally {final : Py S L Unit} (hbody : Returns Q body) :
    Returns Q (tryFinally body final) :=
  hbody.withExit

theorem Returns.call {p : Py S L' α} (hp : Returns Q p) (l' : L') :
    Returns Q (call p l' : Py S L α) := by
  refine ⟨fun σ env l s => ?_⟩
  apply ensures_call.mpr
  exact hp.run σ env l' s

end Results

/-- Whatever the function is answered, it performs only events that meet `E`. -/
structure Performs (E : S.Event → Prop) (p : Py S L α) : Prop where
  run : ∀ l, (p l).Performs E

section Footprint

variable {E : S.Event → Prop}

theorem performs_perform {e : S.Event} (he : E e) : Performs E (perform e : Py S L _) :=
  ⟨fun _ => ⟨he, fun _ => trivial⟩⟩

/-- What only returns or raises performs nothing. -/
theorem performs_ofExcept (r : Except Raised α) : Performs E (ofExcept r : Py S L α) :=
  ⟨fun _ => trivial⟩

theorem performs_locals : Performs E (locals : Py S L L) := ⟨fun _ => trivial⟩

theorem performs_update (f : L → L) : Performs E (update f : Py S L Unit) := ⟨fun _ => trivial⟩

variable {p : Py S L α}

theorem Performs.bind {f : α → Py S L β} (hp : Performs E p) (hf : ∀ a, Performs E (f a)) :
    Performs E (p >>= f) := by
  constructor
  intro l
  refine Prog.Performs.bind (hp.run l) ?_
  rintro ⟨r, l'⟩
  cases r with
  | ok a => exact (hf a).run l'
  | error e => exact trivial

variable {body : Py S L α}

theorem Performs.tryExcept {handler : Raised → Py S L α} (hbody : Performs E body)
    (hhandler : ∀ raised, Performs E (handler raised)) : Performs E (tryExcept body handler) := by
  constructor
  intro l
  refine Prog.Performs.bind (hbody.run l) ?_
  rintro ⟨r, l'⟩
  cases r with
  | ok a => exact trivial
  | error raised => exact (hhandler raised).run l'

theorem Performs.withExit {exit : Except Raised α → Py S L Unit} (hbody : Performs E body)
    (hexit : ∀ r, Performs E (exit r)) : Performs E (withExit body exit) := by
  constructor
  intro l
  refine Prog.Performs.bind (hbody.run l) ?_
  rintro ⟨r, l'⟩
  refine Prog.Performs.bind ((hexit r).run l') ?_
  rintro ⟨r', l''⟩
  cases r' <;> exact trivial

theorem Performs.tryFinally {final : Py S L Unit} (hbody : Performs E body)
    (hfinal : Performs E final) : Performs E (tryFinally body final) :=
  hbody.withExit fun _ => hfinal

theorem Performs.call {p : Py S L' α} (hp : Performs E p) (l' : L') :
    Performs E (call p l' : Py S L α) :=
  ⟨fun _ => (hp.run l').bind fun _ => trivial⟩

theorem Performs.ensures {env : Env S σ} {asserts : σ → S.Event → Prop} {inv : σ → Prop}
    (h : Performs E p) (hasserts : ∀ s e, inv s → E e → asserts s e)
    (hinv : ∀ s e answer s', inv s → E e → env s e answer s' → inv s') {l : L} {s : σ} (hs : inv s) :
    Ensures env asserts p l s fun _ _ s' => inv s' :=
  (h.run l).always hasserts hinv hs

/-- Whatever the function is answered, what follows its first event of a kind keeps to
the footprint. -/
structure ThenPerforms (kind : S.Event → Bool) (E : S.Event → Prop) (p : Py S L α) : Prop where
  run : ∀ l, (p l).ThenPerforms kind E

theorem Performs.thenPerforms (h : Performs E p) (kind : S.Event → Bool) : ThenPerforms kind E p :=
  ⟨fun l => (h.run l).thenPerforms kind⟩

section ThenPerforms

variable {kind : S.Event → Bool} {f : α → Py S L β}

theorem ThenPerforms.bind (hp : ThenPerforms kind E p)
    (hf : ∀ a, Performs E (f a)) : ThenPerforms kind E (p >>= f) := by
  constructor
  intro l
  refine Prog.ThenPerforms.bind (hp.run l) ?_
  rintro ⟨r, l'⟩
  cases r with
  | ok a => exact (hf a).run l'
  | error e => exact trivial

/-- The first event of the kind comes later. -/
theorem ThenPerforms.after
    (hp : Performs (fun e => kind e = false) p) (hf : ∀ a, ThenPerforms kind E (f a)) :
    ThenPerforms kind E (p >>= f) := by
  constructor
  intro l
  refine Prog.ThenPerforms.after (hp.run l) ?_
  rintro ⟨r, l'⟩
  cases r with
  | ok a => exact (hf a).run l'
  | error e => exact trivial

theorem ThenPerforms.tryExcept {handler : Raised → Py S L α}
    (hbody : ThenPerforms kind E body) (hhandler : ∀ raised, Performs E (handler raised)) :
    ThenPerforms kind E (tryExcept body handler) := by
  constructor
  intro l
  refine Prog.ThenPerforms.bind (hbody.run l) ?_
  rintro ⟨r, l'⟩
  cases r with
  | ok a => exact trivial
  | error raised => exact (hhandler raised).run l'

theorem ThenPerforms.tryFinally {final : Py S L Unit}
    (hbody : ThenPerforms kind E body) (hfinal : Performs E final) :
    ThenPerforms kind E (tryFinally body final) := by
  constructor
  intro l
  refine Prog.ThenPerforms.bind (hbody.run l) ?_
  rintro ⟨r, l'⟩
  refine Prog.Performs.bind (hfinal.run l') ?_
  rintro ⟨r', l''⟩
  cases r' <;> exact trivial

end ThenPerforms

end Footprint

/-- From every state that meets `inv` some run of `p` returns `a`, leaves the
locals alone and ends in such a state again. -/
structure May (env : Env S σ) (inv : σ → Prop) (p : Py S L α) (a : α) : Prop where
  run : ∀ l s, inv s → ∃ s', inv s' ∧ Prog.Reaches env (p l) s (.ret (.ok a, l)) s'

section SomeRun

variable {env : Env S σ} {inv : σ → Prop}

theorem may_pure (a : α) : May env inv (pure a : Py S L α) a :=
  ⟨fun _ s hs => ⟨s, hs, .refl _ _⟩⟩

variable {e : S.Event}

theorem may_perform {answer : S.Answer e} (h : ∀ s, inv s → ∃ s', inv s' ∧ env s e answer s') :
    May env inv (perform e : Py S L _) answer := by
  constructor
  intro l s hs
  obtain ⟨s', hs', allowed⟩ := h s hs
  exact ⟨s', hs', .step answer allowed (.refl _ _)⟩

variable {p : Py S L α} {f : α → Py S L β} {a : α}

theorem May.bind {b : β} (hp : May env inv p a) (hf : May env inv (f a) b) :
    May env inv (p >>= f) b := by
  constructor
  intro l s hs
  obtain ⟨s', hs', hfirst⟩ := hp.run l s hs
  obtain ⟨s'', hs'', hrest⟩ := hf.run l s' hs'
  exact ⟨s'', hs'', hfirst.bind hrest⟩

/-- From every state that meets `inv` some run of `p` gets to performing `e`. -/
structure Gets (env : Env S σ) (inv : σ → Prop) (p : Py S L α) (l : L) (e : S.Event) : Prop where
  run : ∀ s, inv s → ∃ k s', Prog.Reaches env (p l) s (.perform e k) s'

theorem gets_perform (e : S.Event) (l : L) : Gets env inv (perform e : Py S L _) l e :=
  ⟨fun s _ => ⟨_, s, .refl _ _⟩⟩

variable {l : L}

theorem Gets.bind (h : Gets env inv p l e) (f : α → Py S L β) : Gets env inv (p >>= f) l e := by
  constructor
  intro s hs
  obtain ⟨k, s', hrun⟩ := h.run s hs
  exact ⟨_, s', hrun.bind_left _⟩

theorem Gets.call {p : Py S L' α} {l' : L'} (h : Gets env inv p l' e) (l : L) :
    Gets env inv (Py.call p l') l e := by
  constructor
  intro s hs
  obtain ⟨k, s', hrun⟩ := h.run s hs
  exact ⟨_, s', hrun.bind_left _⟩

theorem May.gets (hp : May env inv p a) (hf : Gets env inv (f a) l e) :
    Gets env inv (p >>= f) l e := by
  constructor
  intro s hs
  obtain ⟨s', hs', hfirst⟩ := hp.run l s hs
  obtain ⟨k, s'', hrest⟩ := hf.run s' hs'
  exact ⟨k, s'', hfirst.bind hrest⟩

/-- What every run of a sequence ensures, the rest ensures after one run of the
first part. -/
theorem Ensures.after {asserts : σ → S.Event → Prop} {s : σ} {post : Except Raised β → L → σ → Prop}
    (h : Ensures env asserts (p >>= f) l s post) (hp : May env inv p a) (hs : inv s) :
    ∃ s', inv s' ∧ Ensures env asserts (f a) l s' post := by
  obtain ⟨s', hs', hrun⟩ := hp.run l s hs
  have hrest := (ensures_bind.mp h).returned hrun
  exact ⟨s', hs', hrest⟩

end SomeRun

end Py

end ProductionStack.Python

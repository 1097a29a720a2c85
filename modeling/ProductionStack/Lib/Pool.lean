import Mathlib.Data.List.Forall2
import Mathlib.Logic.Relation
import ProductionStack.Lib.Prog

/-!
Coroutines on one thread that share a state. A coroutine runs alone from one
await to the next; at an await any other may run. `pool_safe` is the rule for
them: if every coroutine keeps an invariant of the shared state at its awaits,
relying on nothing but that invariant when it goes on, then it is kept in every
interleaving, and every result meets its specification. `pool_evolves` is the
rule for coroutines that need more of the others: that each of their changes is
within a relation, so that what a coroutine knew before an await is still true
after it if the relation keeps it.
-/

namespace ProductionStack.Lib

/-- What a coroutine does: look at the shared state, replace it, ask for
something that is answered at once, or await. -/
inductive Act (σ : Type) (Q : Signature) where
  | get
  | put (s : σ)
  | ask (query : Q.Event)
  | await (query : Q.Event)

abbrev Act.Answer {σ : Type} {Q : Signature} : Act σ Q → Type
  | .get => σ
  | .put _ => Unit
  | .ask query => Q.Answer query
  | .await query => Q.Answer query

abbrev shared (σ : Type) (Q : Signature) : Signature := ⟨Act σ Q, Act.Answer⟩

variable {σ ι α : Type} {Q : Signature}

/-- Run a coroutine up to its next await, or to its end. -/
inductive RunsTo (allowed : (query : Q.Event) → Q.Answer query → Prop) :
    Prog (shared σ Q) α → σ → Prog (shared σ Q) α → σ → Prop where
  | ret (a : α) (s : σ) : RunsTo allowed (.ret a) s (.ret a) s
  | await (query : Q.Event) (next : Q.Answer query → Prog (shared σ Q) α) (s : σ) :
      RunsTo allowed (.perform (.await query) next) s (.perform (.await query) next) s
  | get {next : σ → Prog (shared σ Q) α} {s s' : σ} {p : Prog (shared σ Q) α}
      (rest : RunsTo allowed (next s) s p s') : RunsTo allowed (.perform .get next) s p s'
  | put {next : Unit → Prog (shared σ Q) α} {s t s' : σ} {p : Prog (shared σ Q) α}
      (rest : RunsTo allowed (next ()) t p s') : RunsTo allowed (.perform (.put t) next) s p s'
  | ask {query : Q.Event} {next : Q.Answer query → Prog (shared σ Q) α} {s s' : σ}
      {p : Prog (shared σ Q) α} (answer : Q.Answer query) (hanswer : allowed query answer)
      (rest : RunsTo allowed (next answer) s p s') :
      RunsTo allowed (.perform (.ask query) next) s p s'

/-- The shared state, and every call made so far with what is left of it. -/
structure Pool (σ ι α : Type) (Q : Signature) where
  state : σ
  calls : List (ι × Prog (shared σ Q) α)

/-- One step of the event loop: a new call starts, or an awaiting one goes on. -/
inductive Pool.Step (program : ι → Prog (shared σ Q) α)
    (allowed : (query : Q.Event) → Q.Answer query → Prop) :
    Pool σ ι α Q → Pool σ ι α Q → Prop where
  | start {pool : Pool σ ι α Q} (input : ι) {p : Prog (shared σ Q) α} {s : σ}
      (hrun : RunsTo allowed (program input) pool.state p s) :
      Step program allowed pool ⟨s, pool.calls ++ [(input, p)]⟩
  | resume {state : σ} {before after : List (ι × Prog (shared σ Q) α)} {input : ι}
      {query : Q.Event} {next : Q.Answer query → Prog (shared σ Q) α}
      (answer : Q.Answer query) (hanswer : allowed query answer) {p : Prog (shared σ Q) α} {s : σ}
      (hrun : RunsTo allowed (next answer) state p s) :
      Step program allowed ⟨state, before ++ (input, .perform (.await query) next) :: after⟩
        ⟨s, before ++ (input, p) :: after⟩

def Pool.Reachable (program : ι → Prog (shared σ Q) α)
    (allowed : (query : Q.Event) → Q.Answer query → Prop) (initial : σ) (pool : Pool σ ι α Q) :
    Prop :=
  Relation.ReflTransGen (Pool.Step program allowed) ⟨initial, []⟩ pool

/-- The environment of one coroutine among others: at an await the others leave
the state in any way that meets the invariant. -/
def relying (inv : σ → Prop) (allowed : (query : Q.Event) → Q.Answer query → Prop) :
    Env (shared σ Q) σ
  | s, .get, answer, s' => answer = s ∧ s' = s
  | _, .put t, _, s' => s' = t
  | s, .ask query, answer, s' => allowed query answer ∧ s' = s
  | _, .await query, answer, s' => allowed query answer ∧ inv s'

/-- The others find the invariant at every await. -/
def guaranteed (inv : σ → Prop) (s : σ) : Act σ Q → Prop
  | .await _ => inv s
  | _ => True

/-- A coroutine that keeps `inv` for the others and whose results meet `post`. -/
def Cooperates (inv : σ → Prop) (allowed : (query : Q.Event) → Q.Answer query → Prop)
    (post : α → Prop) (p : Prog (shared σ Q) α) (s : σ) : Prop :=
  Prog.Always (relying inv allowed) (guaranteed inv) (fun s a => inv s ∧ post a) p s

section Rule

variable {inv : σ → Prop} {allowed : (query : Q.Event) → Q.Answer query → Prop}

/-- What is left of a call: its result, or an await from which it can go on in
any state that meets the invariant. -/
def Pending (inv : σ → Prop) (allowed : (query : Q.Event) → Q.Answer query → Prop)
    (post : α → Prop) : Prog (shared σ Q) α → Prop
  | .ret a => post a
  | .perform (.await query) next => ∀ answer, allowed query answer → ∀ s, inv s →
      Cooperates inv allowed post (next answer) s
  | _ => False

/-- Where a coroutine stops running, the invariant holds and the rest of it can
be left pending. -/
theorem Cooperates.runsTo {post : α → Prop} {p p' : Prog (shared σ Q) α} {s s' : σ}
    (h : Cooperates inv allowed post p s) (hrun : RunsTo allowed p s p' s') :
    inv s' ∧ Pending inv allowed post p' := by
  induction hrun with
  | ret a s => exact h
  | await query next s => exact ⟨h.1, fun answer hanswer s hs => h.2 answer s ⟨hanswer, hs⟩⟩
  | get rest ih => exact ih (h.2 _ _ ⟨rfl, rfl⟩)
  | put rest ih => exact ih (h.2 () _ rfl)
  | ask answer hanswer rest ih => exact ih (h.2 answer _ ⟨hanswer, rfl⟩)

variable {program : ι → Prog (shared σ Q) α} {post : ι → α → Prop} {initial : σ}
  {pool : Pool σ ι α Q}

variable (hinitial : inv initial)
  (hprogram : ∀ input s, inv s → Cooperates inv allowed (post input) (program input) s)
  (hpool : Pool.Reachable program allowed initial pool)

include hinitial hprogram hpool

/-- Coroutines that cooperate do so in every interleaving. -/
theorem pool_safe :
    inv pool.state ∧ ∀ call ∈ pool.calls, Pending inv allowed (post call.1) call.2 := by
  induction hpool with
  | refl => exact ⟨hinitial, by simp⟩
  | tail _ hstep ih =>
    obtain ⟨hstate, hcalls⟩ := ih
    cases hstep with
    | start input hrun =>
      obtain ⟨hnext, hpending⟩ := (hprogram input _ hstate).runsTo hrun
      refine ⟨hnext, ?_⟩
      intro call member
      rw [List.mem_append, List.mem_singleton] at member
      rcases member with member | rfl
      · exact hcalls call member
      · exact hpending
    | resume answer hanswer hrun =>
      have hwaiting := hcalls _ (List.mem_append_right _ List.mem_cons_self)
      obtain ⟨hnext, hpending⟩ := (hwaiting answer hanswer _ hstate).runsTo hrun
      refine ⟨hnext, ?_⟩
      intro call member
      rw [List.mem_append, List.mem_cons] at member
      rcases member with member | rfl | member
      · exact hcalls call (List.mem_append_left _ member)
      · exact hpending
      · exact hcalls call (List.mem_append_right _ (List.mem_cons_of_mem _ member))

/-- In particular every result that was returned meets its specification. -/
theorem pool_returned {input : ι} {a : α} (hcall : (input, .ret a) ∈ pool.calls) : post input a :=
  (pool_safe hinitial hprogram hpool).2 _ hcall

end Rule

/-! Relying on how the others change the state. -/

/-- The environment of one coroutine among others: at an await the others change
the state within `R`. -/
def relyingOn (R : σ → σ → Prop) (allowed : (query : Q.Event) → Q.Answer query → Prop) :
    Env (shared σ Q) σ
  | s, .get, answer, s' => answer = s ∧ s' = s
  | _, .put t, _, s' => s' = t
  | s, .ask query, answer, s' => allowed query answer ∧ s' = s
  | s, .await query, answer, s' => allowed query answer ∧ R s s'

/-- Every change is within `R`. -/
def changing (R : σ → σ → Prop) (s : σ) : Act σ Q → Prop
  | .put t => R s t
  | _ => True

/-- A coroutine that changes the state within `R` only. What it returned meets
`post`, then and however the others change the state afterwards. -/
def Evolves (R : σ → σ → Prop) (allowed : (query : Q.Event) → Q.Answer query → Prop)
    (post : α → σ → Prop) (p : Prog (shared σ Q) α) (s : σ) : Prop :=
  Prog.Always (relyingOn R allowed) (changing R) (fun s a => ∀ s', R s s' → post a s') p s

/-- What is left of a call in a state: its result, or an await from which it can
go on in any state the others can get to. -/
def Awaiting (R : σ → σ → Prop) (allowed : (query : Q.Event) → Q.Answer query → Prop)
    (post : α → σ → Prop) : Prog (shared σ Q) α → σ → Prop
  | .ret a, s => ∀ s', R s s' → post a s'
  | .perform (.await query) next, s => ∀ answer, allowed query answer → ∀ s', R s s' →
      Evolves R allowed post (next answer) s'
  | _, _ => False

/-- Every call of the pool has a specification of its own. -/
def Pool.Awaits (R : σ → σ → Prop) (allowed : (query : Q.Event) → Q.Answer query → Prop)
    (posts : List (α → σ → Prop)) (pool : Pool σ ι α Q) : Prop :=
  List.Forall₂ (fun post call => Awaiting R allowed post call.2 pool.state) posts pool.calls

section Evolution

variable {R : σ → σ → Prop} {allowed : (query : Q.Event) → Q.Answer query → Prop}
  {program : ι → Prog (shared σ Q) α} {p : Prog (shared σ Q) α} {s : σ} {post : α → σ → Prop}

theorem Awaiting.stable (htrans : ∀ a b c, R a b → R b c → R a c) {s' : σ}
    (h : Awaiting R allowed post p s) (hs : R s s') : Awaiting R allowed post p s' := by
  match p, h with
  | .ret a, h => exact fun t ht => h t (htrans s s' t hs ht)
  | .perform (.await query) next, h =>
    exact fun answer hanswer t ht => h answer hanswer t (htrans s s' t hs ht)

theorem Evolves.runsTo (hrefl : ∀ s, R s s) (htrans : ∀ a b c, R a b → R b c → R a c)
    {p' : Prog (shared σ Q) α} {s' : σ} (h : Evolves R allowed post p s)
    (hrun : RunsTo allowed p s p' s') : R s s' ∧ Awaiting R allowed post p' s' := by
  induction hrun with
  | ret a s => exact ⟨hrefl s, h⟩
  | await query next s =>
    exact ⟨hrefl s, fun answer hanswer s' hs' => h.2 answer s' ⟨hanswer, hs'⟩⟩
  | get rest ih => exact ih (h.2 _ _ ⟨rfl, rfl⟩)
  | put rest ih =>
    obtain ⟨hchange, hwaiting⟩ := ih (h.2 () _ rfl)
    exact ⟨htrans _ _ _ h.1 hchange, hwaiting⟩
  | ask answer hanswer rest ih => exact ih (h.2 answer _ ⟨hanswer, rfl⟩)

variable {posts : List (α → σ → Prop)} {pool : Pool σ ι α Q}

/-- A change within `R` leaves every call where it can go on. -/
theorem Pool.Awaits.stable (htrans : ∀ a b c, R a b → R b c → R a c)
    (h : pool.Awaits R allowed posts) (hs : R pool.state s) :
    Pool.Awaits R allowed posts ⟨s, pool.calls⟩ :=
  List.Forall₂.imp (fun _ _ hcall => Awaiting.stable htrans hcall hs) h

variable {input : ι}

theorem Pool.Awaits.start (hrefl : ∀ s, R s s) (htrans : ∀ a b c, R a b → R b c → R a c)
    (h : pool.Awaits R allowed posts) (hinput : Evolves R allowed post (program input) pool.state)
    (hrun : RunsTo allowed (program input) pool.state p s) :
    R pool.state s ∧ Pool.Awaits R allowed (posts ++ [post]) ⟨s, pool.calls ++ [(input, p)]⟩ := by
  obtain ⟨hchange, hwaiting⟩ := hinput.runsTo hrefl htrans hrun
  have hnew : List.Forall₂ (fun post (call : ι × Prog (shared σ Q) α) =>
      Awaiting R allowed post call.2 s) [post] [(input, p)] := .cons hwaiting .nil
  exact ⟨hchange, List.rel_append (h.stable htrans hchange) hnew⟩

theorem Pool.Awaits.resume (hrefl : ∀ s, R s s) (htrans : ∀ a b c, R a b → R b c → R a c)
    {state : σ} {before after : List (ι × Prog (shared σ Q) α)} {query : Q.Event}
    {next : Q.Answer query → Prog (shared σ Q) α}
    (h : Pool.Awaits R allowed posts ⟨state, before ++ (input, .perform (.await query) next) :: after⟩)
    {answer : Q.Answer query} (hanswer : allowed query answer)
    (hrun : RunsTo allowed (next answer) state p s) :
    R state s ∧ Pool.Awaits R allowed posts ⟨s, before ++ (input, p) :: after⟩ := by
  have hbefore := List.forall₂_take_append posts before _ h
  have hrest := List.forall₂_drop_append posts before _ h
  obtain ⟨post, rest, hcall, hafter, hposts⟩ := List.forall₂_cons_right_iff.mp hrest
  have hnext : Evolves R allowed post (next answer) state := hcall answer hanswer state (hrefl state)
  obtain ⟨hchange, hwaiting⟩ := hnext.runsTo hrefl htrans hrun
  refine ⟨hchange, ?_⟩
  have hstable (post : α → σ → Prop) (call : ι × Prog (shared σ Q) α)
      (hcall : Awaiting R allowed post call.2 state) : Awaiting R allowed post call.2 s :=
    hcall.stable htrans hchange
  rw [← List.take_append_drop before.length posts, hposts]
  exact List.rel_append (hbefore.imp hstable) (.cons hwaiting (hafter.imp hstable))

variable {pool' : Pool σ ι α Q}

/-- A step after which there is one call more has started it. -/
theorem Pool.Step.started (hstep : Pool.Step program allowed pool pool')
    (hcalls : pool'.calls = pool.calls ++ [(input, p)]) :
    RunsTo allowed (program input) pool.state p pool'.state := by
  cases hstep with
  | start input' hrun =>
    obtain ⟨rfl, rfl⟩ := Prod.mk.inj (List.cons.inj (List.append_cancel_left hcalls)).1
    exact hrun
  | resume answer hanswer hrun =>
    have hlength := congrArg List.length hcalls
    simp at hlength

/-- The inputs of the calls, in the order in which they were started. -/
def Pool.inputs (pool : Pool σ ι α Q) : List ι := pool.calls.map Prod.fst

theorem Pool.Step.inputs (hstep : Pool.Step program allowed pool pool') :
    pool.inputs <+: pool'.inputs := by
  cases hstep with
  | start input hrun =>
    unfold Pool.inputs
    rw [List.map_append]
    exact List.prefix_append _ _
  | resume answer hanswer hrun => simp [Pool.inputs]

/-- No call is ever forgotten. -/
theorem inputs_of_run (hrun : Relation.ReflTransGen (Pool.Step program allowed) pool pool') :
    pool.inputs <+: pool'.inputs := by
  induction hrun with
  | refl => exact List.prefix_rfl
  | tail _ hstep ih => exact ih.trans hstep.inputs

/-- Coroutines that change the state within `R` only do so in every interleaving.
The calls of the first pool may have any specifications, those started later
have that of their input. -/
theorem pool_evolves (hrefl : ∀ s, R s s) (htrans : ∀ a b c, R a b → R b c → R a c) {inv : σ → Prop}
    (hinv : ∀ s s', R s s' → inv s → inv s') {ok : ι → Prop} {post : ι → α → σ → Prop}
    (hprogram : ∀ input, ok input → ∀ s, inv s → Evolves R allowed (post input) (program input) s)
    (hstate : inv pool.state) (hpool : pool.Awaits R allowed posts)
    (hrun : Relation.ReflTransGen (Pool.Step program allowed) pool pool')
    (hok : ∀ input ∈ pool'.inputs, ok input) :
    ∃ started, pool'.inputs = pool.inputs ++ started ∧ R pool.state pool'.state ∧
      pool'.Awaits R allowed (posts ++ started.map post) := by
  induction hrun with
  | refl => exact ⟨[], (List.append_nil _).symm, hrefl _, by simpa using hpool⟩
  | @tail mid _ _ hstep ih =>
    cases hstep with
    | @start _ input p s hrun =>
      have hinputs : Pool.inputs (⟨s, mid.calls ++ [(input, p)]⟩ : Pool σ ι α Q) =
          mid.inputs ++ [input] := List.map_append
      rw [hinputs] at hok
      obtain ⟨started, hstarted, hchange, hawaits⟩ :=
        ih fun input member => hok input (List.mem_append_left _ member)
      have hinput := hprogram input (hok input (List.mem_append_right _ List.mem_cons_self))
        _ (hinv _ _ hchange hstate)
      obtain ⟨hlast, hawaits⟩ := hawaits.start hrefl htrans hinput hrun
      refine ⟨started ++ [input], ?_, htrans _ _ _ hchange hlast, ?_⟩
      · rw [hinputs, hstarted, List.append_assoc]
      · rw [List.map_append, ← List.append_assoc]
        exact hawaits
    | @resume state before after input query next answer hanswer p s hrun =>
      have hinputs : Pool.inputs (⟨s, before ++ (input, p) :: after⟩ : Pool σ ι α Q) =
          Pool.inputs (⟨state, before ++ (input, .perform (.await query) next) :: after⟩ :
            Pool σ ι α Q) := by
        simp [Pool.inputs]
      rw [hinputs] at hok
      obtain ⟨started, hstarted, hchange, hawaits⟩ := ih hok
      obtain ⟨hlast, hawaits⟩ := hawaits.resume hrefl htrans hanswer hrun
      exact ⟨started, hinputs.trans hstarted, htrans _ _ _ hchange hlast, hawaits⟩

/-- What a returned call meets. -/
theorem Pool.Awaits.returned (hrefl : ∀ s, R s s) (h : pool.Awaits R allowed posts) {k : Nat}
    {a : α} (hpost : posts[k]? = some post) (hcall : pool.calls[k]? = some (input, .ret a)) :
    post a pool.state := by
  obtain ⟨hk, rfl⟩ := List.getElem?_eq_some_iff.mp hpost
  obtain ⟨hk', hcall⟩ := List.getElem?_eq_some_iff.mp hcall
  have hret := h.get hk hk'
  simp only [List.get_eq_getElem, hcall] at hret
  exact hret pool.state (hrefl _)

end Evolution

/-! A call that is run to its end while the others wait. -/

/-- What a coroutine comes to if nobody else runs and every query is answered as
`answers` says. It comes to nothing if it has a query without an answer. -/
def alone (answers : (query : Q.Event) → Option (Q.Answer query)) :
    Prog (shared σ Q) α → σ → Option (α × σ)
  | .ret a, s => some (a, s)
  | .perform .get next, s => alone answers (next s) s
  | .perform (.put t) next, _ => alone answers (next ()) t
  | .perform (.ask query) next, s =>
    match answers query with
    | none => none
    | some answer => alone answers (next answer) s
  | .perform (.await query) next, s =>
    match answers query with
    | none => none
    | some answer => alone answers (next answer) s

section Alone

variable {allowed : (query : Q.Event) → Q.Answer query → Prop}
  {answers : (query : Q.Event) → Option (Q.Answer query)}

/-- The pool gets to that end, await by await. -/
theorem finishes_alone (program : ι → Prog (shared σ Q) α)
    (hanswers : ∀ query answer, answers query = some answer → allowed query answer)
    (input : ι) (before after : List (ι × Prog (shared σ Q) α)) {p : Prog (shared σ Q) α}
    {s t : σ} {a : α} (h : alone answers p s = some (a, t)) : ∃ p' s', RunsTo allowed p s p' s' ∧
      Relation.ReflTransGen (Pool.Step program allowed) ⟨s', before ++ (input, p') :: after⟩
        ⟨t, before ++ (input, .ret a) :: after⟩ := by
  induction p generalizing s with
  | ret b =>
    obtain ⟨rfl, rfl⟩ := Prod.mk.inj (Option.some.inj h)
    exact ⟨.ret b, s, .ret b s, .refl⟩
  | perform act next ih =>
    cases act with
    | get =>
      obtain ⟨p', s', hrun, hrest⟩ := ih s h
      exact ⟨p', s', .get hrun, hrest⟩
    | put u =>
      obtain ⟨p', s', hrun, hrest⟩ := ih () h
      exact ⟨p', s', .put hrun, hrest⟩
    | ask query =>
      unfold alone at h
      split at h
      · cases h
      · next answer hanswer =>
          obtain ⟨p', s', hrun, hrest⟩ := ih answer h
          exact ⟨p', s', .ask answer (hanswers query answer hanswer) hrun, hrest⟩
    | await query =>
      unfold alone at h
      split at h
      · cases h
      · next answer hanswer =>
          obtain ⟨p', s', hrun, hrest⟩ := ih answer h
          have hallowed := hanswers query answer hanswer
          exact ⟨_, s, .await query next s, .head (.resume answer hallowed hrun) hrest⟩

/-- A new call can be run to its end. -/
theorem pool_finishes {program : ι → Prog (shared σ Q) α}
    (hanswers : ∀ query answer, answers query = some answer → allowed query answer)
    (pool : Pool σ ι α Q) (input : ι) {t : σ} {a : α}
    (h : alone answers (program input) pool.state = some (a, t)) :
    ∃ p s, Pool.Step program allowed pool ⟨s, pool.calls ++ [(input, p)]⟩ ∧
      Relation.ReflTransGen (Pool.Step program allowed) ⟨s, pool.calls ++ [(input, p)]⟩
        ⟨t, pool.calls ++ [(input, .ret a)]⟩ := by
  obtain ⟨p, s, hrun, hrest⟩ := finishes_alone program hanswers input pool.calls [] h
  exact ⟨p, s, .start input hrun, hrest⟩

end Alone

end ProductionStack.Lib

import ProductionStack.Lib.Sequence
import ProductionStack.Routing.Interface

/-!
Calls of a router that are made one after another. The calls that never await are
always so. Those of the hash trie are so too, as a node's lock is only held where
nothing is awaited: whoever asks for it finds it free and is not suspended.
-/

namespace ProductionStack.Routing

open Lib Python Request Py

/-- What `route_request` returns: a URL, and the body that is sent there. -/
abbrev RouteReply := Except Raised (Option String × JsonObject) × Unit

section Rules

variable {σ α β : Type} {answers : (query : Query) → Option query.Answer} {s : σ}
  {post : Except Raised α → σ → Prop}

/-- The coroutine `p`, run alone from `s`, comes to an end; what it returns and the
state it returns in meet `post`. -/
def Finishes (answers : (query : Query) → Option query.Answer) (p : Co σ α) (s : σ)
    (post : Except Raised α → σ → Prop) : Prop :=
  Ends (Q := routing) answers (p ()) s fun r s' => post r.1 s'

theorem finishes_pure {a : α} (h : post (.ok a) s) : Finishes answers (pure a) s post :=
  ⟨_, s, rfl, h⟩

theorem finishes_raise {cls : ExcClass} {message : String}
    (h : post (.error (.error (.new cls message))) s) :
    Finishes answers (raiseExc cls message) s post :=
  ⟨_, s, rfl, h⟩

variable {p : Co σ α} {post' : Except Raised α → σ → Prop} {f : α → Co σ β}
  {query : Query} {answer : query.Answer}

theorem Finishes.seq {mid : Except Raised α → σ → Prop} {post : Except Raised β → σ → Prop}
    (hp : Finishes answers p s mid) (hok : ∀ a s', mid (.ok a) s' → Finishes answers (f a) s' post)
    (herror : ∀ e s', mid (.error e) s' → post (.error e) s') :
    Finishes answers (p >>= f) s post := by
  apply Ends.bind hp
  intro r s' hmid
  obtain ⟨r, _⟩ := r
  cases r with
  | ok a => exact hok a s' hmid
  | error e => exact ⟨_, s', rfl, herror e s' hmid⟩

theorem Finishes.mono (h : Finishes answers p s post) (hpost : ∀ r s', post r s' → post' r s') :
    Finishes answers p s post' :=
  Ends.mono h fun r s' => hpost r.1 s'

theorem finishes_get {f : σ → Co σ α} (h : Finishes answers (f s) s post) :
    Finishes answers (get >>= f) s post := h

theorem finishes_put {t : σ} {f : Unit → Co σ α} (h : Finishes answers (f ()) t post) :
    Finishes answers (put t >>= f) s post := h

theorem finishes_ask {f : query.Answer → Co σ α}
    (hanswer : answers query = some answer) (h : Finishes answers (f answer) s post) :
    Finishes answers (ask query >>= f) s post :=
  Ends.ask hanswer h

theorem finishes_await {f : query.Answer → Co σ α}
    (hanswer : answers query = some answer) (h : Finishes answers (f answer) s post) :
    Finishes answers (await query >>= f) s post :=
  Ends.await hanswer h

theorem finishes_ofExcept_bind {r : Except Raised α}
    {post : Except Raised β → σ → Prop} (hok : ∀ a, r = .ok a → Finishes answers (f a) s post)
    (herror : ∀ e, r = .error e → post (.error e) s) :
    Finishes answers (Py.ofExcept r >>= f) s post := by
  cases r with
  | ok a => exact hok a rfl
  | error e => exact ⟨_, s, rfl, herror e rfl⟩

/-- What the coroutine meets among others it meets alone. -/
theorem Finishes.moves {R : σ → σ → Prop} (hrefl : ∀ s, R s s)
    (hanswers : ∀ query answer, answers query = some answer → query.allowed answer)
    (h : Finishes answers p s post) (hmoves : Moves R p s post') :
    Finishes answers p s fun r s' => post r s' ∧ post' r s' := by
  obtain ⟨r, s', halone, hpost⟩ := h
  exact ⟨r, s', halone, hpost, Prog.Always.of_alone hrefl hanswers hmoves halone⟩

end Rules

end ProductionStack.Routing

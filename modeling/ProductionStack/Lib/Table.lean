import Mathlib.Data.List.Induction
import ProductionStack.Lib.Dict

/-!
Tables kept by a stream of events. Each event is about one key, and does one of
three things to that key's entry. A table should show, for every key, what the
latest event about it asks for; it does exactly when no event that should have
removed an entry left it in place instead.
-/

namespace ProductionStack.Lib

variable {κ ν μ ε : Type} [DecidableEq κ]

inductive Effect (ν : Type) where
  | set (value : ν)
  | remove
  | keep

def Effect.on : Effect ν → Option ν → Option ν
  | .set value, _ => some value
  | .remove, _ => none
  | .keep, old => old

/-- The entry an event with this effect asks for, seen through `view`. -/
def Effect.asks (view : ν → μ) : Effect ν → Option μ
  | .set value => some (view value)
  | .remove => none
  | .keep => none

def Dict.apply (d : Dict κ ν) (k : κ) : Effect ν → Dict κ ν
  | .set value => d.set k value
  | .remove => d.erase k
  | .keep => d

theorem Dict.get?_apply (d : Dict κ ν) (k k' : κ) (effect : Effect ν) :
    (d.apply k effect).get? k' = if k' = k then effect.on (d.get? k) else d.get? k' := by
  cases effect with
  | set value => exact d.get?_set k k' value
  | remove => exact d.get?_erase k k'
  | keep =>
    by_cases h : k' = k
    · simp [apply, Effect.on, h]
    · simp [apply, h]

variable {d : Dict κ ν} {effect : Effect ν}

/-- An effect changes no other key's entry. -/
theorem Dict.mem_of_mem_apply {k k' : κ} (h : k' ∈ d.apply k effect) : k' = k ∨ k' ∈ d := by
  rw [Dict.mem_iff_get?, Dict.get?_apply] at h
  by_cases hk : k' = k
  · exact Or.inl hk
  · rw [if_neg hk, ← Dict.mem_iff_get?] at h
    exact Or.inr h

section Replay

variable (key : ε → κ) (effect : ε → Effect ν)

def replay (d : Dict κ ν) (events : List ε) : Dict κ ν :=
  events.foldl (fun d e => d.apply (key e) (effect e)) d

/-- The latest event about a key. -/
def latest (k : κ) (events : List ε) : Option ε :=
  events.foldl (fun found e => if key e = k then some e else found) none

variable {key effect}

variable {before after : List ε} (d : Dict κ ν)

theorem replay_append (before after : List ε) : replay key effect d (before ++ after) =
      replay key effect (replay key effect d before) after := List.foldl_append

theorem get?_replay_of_unmentioned {k : κ} {events : List ε} (h : ∀ e ∈ events, key e ≠ k) :
    (replay key effect d events).get? k = d.get? k := by
  induction events generalizing d with
  | nil => rfl
  | cons e rest ih =>
    obtain ⟨he, hrest⟩ := List.forall_mem_cons.mp h
    change (replay key effect (d.apply (key e) (effect e)) rest).get? k = _
    rw [ih _ hrest, Dict.get?_apply, if_neg (Ne.symm he)]

theorem latest_append (k : κ) (before : List ε) (e : ε) :
    latest key k (before ++ [e]) = if key e = k then some e else latest key k before := by
  simp only [latest, List.foldl_append, List.foldl_cons, List.foldl_nil]

variable (key) in
/-- Where the latest event about a key stands, if there is one. -/
theorem latest_cases (k : κ) (events : List ε) :
    (latest key k events = none ∧ ∀ e ∈ events, key e ≠ k) ∨
      ∃ before e after, events = before ++ e :: after ∧ key e = k ∧
        (∀ later ∈ after, key later ≠ key e) ∧ latest key k events = some e := by
  induction events using List.reverseRecOn with
  | nil => exact Or.inl ⟨rfl, by simp⟩
  | append_singleton events e ih =>
    rw [latest_append]
    by_cases he : key e = k
    · exact Or.inr ⟨events, e, [], rfl, he, by simp, if_pos he⟩
    · rw [if_neg he]
      rcases ih with ⟨hnone, hunmentioned⟩ | ⟨before, found, after, rfl, hkey, hafter, hfound⟩
      · refine Or.inl ⟨hnone, ?_⟩
        intro other member
        rw [List.mem_append, List.mem_singleton] at member
        rcases member with member | rfl
        · exact hunmentioned other member
        · exact he
      · refine Or.inr ⟨before, found, after ++ [e], by simp, hkey, ?_, hfound⟩
        intro later member
        rw [List.mem_append, List.mem_singleton] at member
        rcases member with member | rfl
        · exact hafter later member
        · rw [hkey]
          exact he

theorem latest_of_split {e : ε} (hafter : ∀ later ∈ after, key later ≠ key e) :
    latest key (key e) (before ++ e :: after) = some e := by
  induction after using List.reverseRecOn with
  | nil => rw [latest_append, if_pos rfl]
  | append_singleton after last ih =>
    have hlast : key last ≠ key e := hafter last (by simp)
    rw [← List.cons_append, ← List.append_assoc, latest_append, if_neg hlast]
    exact ih fun later member => hafter later (List.mem_append_left _ member)

/-- The entry of the key an event is about, when no later event is about it. -/
theorem get?_replay_of_split {e : ε} (hafter : ∀ later ∈ after, key later ≠ key e) :
    (replay key effect .empty (before ++ e :: after)).get? (key e) =
      (effect e).on ((replay key effect .empty before).get? (key e)) := by
  rw [replay_append]
  change (replay key effect (Dict.apply _ (key e) (effect e)) after).get? _ = _
  rw [get?_replay_of_unmentioned _ hafter, Dict.get?_apply, if_pos rfl]

/-- The table shows what the latest events ask for exactly when no latest event
of a key leaves an entry that it does not ask for. -/
theorem replay_shows_latest_iff {view : ν → μ} {wanted : ε → Option μ}
    (hwanted : ∀ e, wanted e = (effect e).asks view) (events : List ε) :
    (∀ k, ((replay key effect .empty events).get? k).map view = (latest key k events).bind wanted) ↔
    ∀ before e after, events = before ++ e :: after →
      (∀ later ∈ after, key later ≠ key e) → effect e = .keep →
      key e ∉ replay key effect .empty before := by
  have hsplit (before : List ε) (e : ε) (after : List ε)
      (hafter : ∀ later ∈ after, key later ≠ key e) :
      ((replay key effect .empty (before ++ e :: after)).get? (key e)).map view =
        (latest key (key e) (before ++ e :: after)).bind wanted ↔
      (effect e = .keep → key e ∉ replay key effect .empty before) := by
    rw [get?_replay_of_split hafter, latest_of_split hafter, Option.bind_some, hwanted e]
    cases heffect : effect e with
    | set value | remove => simp [Effect.on, Effect.asks]
    | keep =>
      rw [← Dict.get?_eq_none_iff]
      simp [Effect.on, Effect.asks]
  constructor
  · rintro hshows before e after rfl hafter
    exact (hsplit before e after hafter).mp (hshows (key e))
  · intro hlags k
    rcases latest_cases key k events with
      ⟨hnone, hunmentioned⟩ | ⟨before, e, after, rfl, rfl, hafter, -⟩
    · rw [hnone, get?_replay_of_unmentioned _ hunmentioned]
      rfl
    · exact (hsplit before e after hafter).mpr (hlags before e after rfl hafter)

end Replay

end ProductionStack.Lib

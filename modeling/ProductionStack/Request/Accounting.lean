import ProductionStack.Request.ProcessRequest
import ProductionStack.Request.World

/-!
The token accounting that follows a complete response. What the accounting does
to a body is a pure function of it; `Accountable` says in terms of the JSON in
the body when it raises nothing.
-/

namespace ProductionStack.Request

open Lib Python Stats Py

/-- `if key in usage: counter.inc(usage[key])`, without the counter. -/
def countResult (usage : Json) (key : String) : Except PyExc Unit := do
  let present ← usage.contains key
  if present then do
    let amount ← usage.item key
    counterInc amount
  else pure ()

def accountResult (limit : Nat) (body : Bytes) : Except PyExc Unit := do
  let responseData ← jsonLoads limit body
  let usage ← responseData.get "usage" (.obj [])
  countResult usage "prompt_tokens"
  countResult usage "completion_tokens"

/-- What the accounting lets out: everything it raises that is not one of the
three classes it catches. -/
def accountingError (limit : Nat) (body : Bytes) : Option PyExc :=
  match accountResult limit body with
  | .ok () => none
  | .error e =>
    if e.isInstance [.jsonDecodeError, .unicodeDecodeError, .valueError] then none else some e

/-! When the accounting raises nothing. -/

variable {amount usage : Json} {message : String} (limit : Nat) (fields : List (String × Json))
  (j : Json) (key : String) (body : Bytes)

/-- A computation that does not raise a timeout. -/
def Untimed {α : Type} (x : Except PyExc α) : Prop :=
  ∀ e, x = .error e → e.isInstance [.timeoutError] = false

theorem Untimed.bind {α β : Type} {x : Except PyExc α} {f : α → Except PyExc β}
    (hx : Untimed x) (hf : ∀ a, Untimed (f a)) : Untimed (x >>= f) := by
  cases x with
  | ok a => exact hf a
  | error e' =>
    intro e h
    cases h
    exact hx e' rfl

theorem untimed_jsonLoads : Untimed (jsonLoads limit body) := by
  intro e he
  have hcls := onlyLoadsErrors_jsonLoads limit body e he
  simp only [LoadsError, List.mem_cons, List.not_mem_nil, or_false] at hcls
  rcases hcls with h | h | h | h <;> simp [PyExc.isInstance, h, ExcClass.mro]

theorem untimed_get (fallback : Json) : Untimed (j.get key fallback) := by
  cases j <;> rintro e ⟨⟩ <;> rfl

theorem untimed_contains : Untimed (j.contains key) := by
  cases j <;> rintro e ⟨⟩ <;> rfl

theorem untimed_item : Untimed (j.item key) := by
  unfold Json.item
  repeat' split
  all_goals
    rintro e ⟨⟩
    try rfl

theorem untimed_counterInc (amount : Json) : Untimed (counterInc amount) := by
  unfold counterInc
  repeat' split
  all_goals
    rintro e ⟨⟩
    try rfl

theorem untimed_countResult (usage : Json) (key : String) : Untimed (countResult usage key) := by
  apply (untimed_contains usage key).bind
  intro present
  cases present with
  | false => exact nofun
  | true => exact (untimed_item usage key).bind untimed_counterInc

theorem untimed_accountResult : Untimed (accountResult limit body) := by
  apply (untimed_jsonLoads limit body).bind
  intro data
  apply (untimed_get data _ _).bind
  intro usage
  apply (untimed_countResult usage _).bind
  intro _
  exact untimed_countResult usage _

/-- What the accounting lets out is never a timeout. -/
theorem accountingError_not_timeout {limit : Nat} {body : Bytes} {e : PyExc}
    (h : accountingError limit body = some e) : e.isInstance [.timeoutError] = false := by
  unfold accountingError at h
  split at h
  · cases h
  · next e' hresult =>
      split at h
      · cases h
      · obtain rfl := Option.some.inj h
        exact untimed_accountResult limit body e' hresult

section Specs

variable {asserts : World → Event → Prop} {l : Locals} {w : World}

theorem countTokens_spec (usage : Json) (key : String) (metric : Json → Metric)
    (hquiet : Quiet asserts) :
    Ensures tracked asserts (BackendCall.countTokens usage key metric) l w fun r l' w' =>
      l' = l ∧ digest w'.log = digest w.log ∧ r = (countResult usage key).mapError .error := by
  cases hpresent : usage.contains key with
  | error e =>
    apply ensures_eval_error hpresent
    refine ⟨rfl, rfl, ?_⟩
    simp only [countResult, hpresent]
    rfl
  | ok present =>
    apply ensures_eval_ok hpresent
    cases present with
    | false =>
      refine ⟨rfl, rfl, ?_⟩
      simp only [countResult, hpresent]
      rfl
    | true =>
      cases hitem : usage.item key with
      | error e =>
        refine ⟨rfl, rfl, ?_⟩
        simp only [countResult, hpresent, hitem]
        rfl
      | ok amount =>
        apply ensures_eval_ok rfl
        have hresult : countResult usage key = counterInc amount := by
          simp only [countResult, hpresent, hitem]
          rfl
        rw [hresult]
        cases hinc : counterInc amount with
        | error e =>
          exact ⟨rfl, rfl, rfl⟩
        | ok _ =>
          refine (silent_note rfl asserts l w hquiet).imp ?_
          rintro r l' w' ⟨⟨_, rfl⟩, rfl, h⟩
          exact ⟨rfl, h, rfl⟩

/-- The accounting changes nothing but the counters, and raises what
`accountingError` says. -/
theorem trackTokens_spec (a : BackendCall) (body : Bytes) (hquiet : Quiet asserts) :
    Ensures tracked asserts (a.trackTokens body) l w fun r l' w' =>
      l' = l ∧ digest w'.log = digest w.log ∧
        r = match accountingError a.app.recursionLimit body with
          | none => .ok ()
          | some e => .error (.error e) := by
  have hcaught (e : PyExc) (hresult : accountResult a.app.recursionLimit body = .error e)
      {w' : World} (hw' : digest w'.log = digest w.log) :
      Ensures tracked asserts (BackendCall.onAccountingError (.error e)) l w' fun r l' w' =>
        l' = l ∧ digest w'.log = digest w.log ∧
          r = match accountingError a.app.recursionLimit body with
            | none => .ok ()
            | some e => .error (.error e) := by
    unfold accountingError BackendCall.onAccountingError
    rw [hresult]
    dsimp only
    split <;> exact ⟨rfl, hw', rfl⟩
  apply ensures_tryExcept.mpr
  cases hloads : jsonLoads a.app.recursionLimit body with
  | error e =>
    apply hcaught e _ rfl
    simp only [accountResult, hloads]
    rfl
  | ok responseData =>
    apply ensures_eval_ok rfl
    cases husage : responseData.get "usage" (.obj []) with
    | error e =>
      apply hcaught e _ rfl
      simp only [accountResult, hloads, husage, bind, Except.bind]
    | ok usage =>
      have hresult : accountResult a.app.recursionLimit body = (do
          countResult usage "prompt_tokens"
          countResult usage "completion_tokens") := by
        simp only [accountResult, hloads, husage, bind, Except.bind]
      apply ensures_seq (countTokens_spec usage "prompt_tokens" _ hquiet)
      · rintro _ l₁ w₁ ⟨rfl, h₁, hprompt⟩
        refine (countTokens_spec usage "completion_tokens" _ hquiet).imp ?_
        rintro r l₂ w₂ ⟨rfl, h₂, rfl⟩
        cases hfirst : countResult usage "prompt_tokens" with
        | error e =>
          rw [hfirst] at hprompt
          cases hprompt
        | ok _ =>
          rw [hfirst] at hresult
          cases hsecond : countResult usage "completion_tokens" with
          | error e =>
            rw [hsecond] at hresult
            exact hcaught e hresult (h₂.trans h₁)
          | ok _ =>
            rw [hsecond] at hresult
            refine ⟨rfl, h₂.trans h₁, ?_⟩
            rw [accountingError, hresult]
            rfl
      · rintro e l₁ w₁ ⟨rfl, h₁, hprompt⟩
        cases hfirst : countResult usage "prompt_tokens" with
        | ok _ =>
          rw [hfirst] at hprompt
          cases hprompt
        | error e =>
          rw [hfirst] at hprompt hresult
          cases hprompt
          exact hcaught e hresult h₁

end Specs

end ProductionStack.Request

import ProductionStack.Routing.Immediate

/-!
What priority a request asks for, and when `extract_priority` reads it so.
-/

namespace ProductionStack.Routing

open Lib Python Request

/-! Integer literals. -/

/-- The text is an integer literal for `n`. -/
def Writes (s : String) (n : Int) : Prop := ∃ ds, literal s = some (ds, n)

/-- The literal has more digits than `int` takes. -/
def Overlong (s : String) (n : Int) : Prop :=
  ∃ ds, literal s = some (ds, n) ∧ maxIntDigits < ds.length

variable {s : String} {n : Int} {v : Json}

theorem Writes.unique {n' : Int} (h : Writes s n) (h' : Writes s n') : n = n' := by
  obtain ⟨ds, h⟩ := h
  obtain ⟨ds', h'⟩ := h'
  cases h.symm.trans h'
  rfl

theorem Overlong.writes (h : Overlong s n) : Writes s n := by
  obtain ⟨ds, h, -⟩ := h
  exact ⟨ds, h⟩

theorem Overlong.unread (h : Overlong s n) : intOfString s = none := by
  obtain ⟨ds, h, hlong⟩ := h
  rw [intOfString, h]
  exact if_pos hlong

/-- A literal is read, or too long to be. -/
theorem Writes.read_or_overlong (h : Writes s n) : intOfString s = some n ∨ Overlong s n := by
  obtain ⟨ds, h⟩ := h
  rcases Nat.lt_or_ge maxIntDigits ds.length with hlong | hshort
  · exact .inr ⟨ds, h, hlong⟩
  · rw [intOfString, h]
    exact .inl (if_neg (Nat.not_lt.mpr hshort))

theorem writes_of_intOfString (h : intOfString s = some n) : Writes s n := by
  obtain ⟨⟨ds, m⟩, hliteral, hread⟩ := Option.bind_eq_some_iff.mp h
  split at hread
  · cases hread
  · obtain rfl := Option.some.inj hread
    exact ⟨ds, hliteral⟩

/-! Priorities. -/

/-- The value is this integer, or a literal for it. -/
def IntegerValue : Json → Int → Prop
  | .int n, m => n = m
  | .float (.finite q), m => q = m
  | .str s, m => Writes s m
  | _, _ => False

/-- The values that `int` turns into another integer, or into an error that is neither a
`TypeError` nor a `ValueError`. -/
def Coerced : Json → Prop
  | .bool _ => True
  | .float (.finite q) => ∀ m : Int, q ≠ m
  | .float .inf | .float .negInf => True
  | _ => False

/-- The source names this priority, or it names none and `rest` does. -/
def Given (source : Option Json) (rest : Int → Prop) (n : Int) : Prop :=
  (∃ v, source = some v ∧ IntegerValue v n) ∨
    (∀ v m, source = some v → ¬ IntegerValue v m) ∧ rest n

theorem IntegerValue.unique {m : Int} (h : IntegerValue v n) (h' : IntegerValue v m) : n = m := by
  unfold IntegerValue at h h'
  split at h
  · exact h.symm.trans h'
  · exact Int.cast_injective (h.symm.trans h')
  · exact Writes.unique h h'
  · exact h.elim

theorem Coerced.not_integerValue (h : Coerced v) (m : Int) : ¬ IntegerValue v m := by
  unfold Coerced at h
  split at h
  · exact id
  · exact h m
  · exact id
  · exact id
  · exact h.elim

theorem given_of_missing (h : ∀ m, ¬ IntegerValue v m) (rest : Int → Prop) (n : Int) :
    Given (some v) rest n ↔ rest n := by
  constructor
  · rintro (⟨_, ⟨⟩, hvalue⟩ | ⟨-, hrest⟩)
    · exact absurd hvalue (h n)
    · exact hrest
  · intro hrest
    refine .inr ⟨?_, hrest⟩
    rintro _ m ⟨⟩
    exact h m

/-- What `int` says to a value, as `extract_priority` tells the answers apart. -/
inductive Reading (v : Json) : Prop
  | integer {n : Int} : IntegerValue v n → intOf v = .ok n → Reading v
  | overlong {s : String} {n : Int} {e : PyExc} : v = .str s → Overlong s n → intOf v = .error e →
      e.isInstance [.typeError, .valueError] → Reading v
  | coerced : Coerced v → Reading v
  | refused {e : PyExc} : (∀ m, ¬ IntegerValue v m) → ¬ Coerced v → intOf v = .error e →
      e.isInstance [.typeError, .valueError] → Reading v

theorem intOf_str_of_none (h : intOfString s = none) :
    intOf (.str s) = .error (.new .valueError "invalid literal for int() with base 10") := by
  simp only [intOf, h]

theorem reading_str (s : String) : Reading (.str s) := by
  cases hread : intOfString s with
  | some n =>
    refine .integer (writes_of_intOfString hread) ?_
    simp only [intOf, hread]
  | none =>
    by_cases hwrites : ∃ n, Writes s n
    · obtain ⟨n, hwrites⟩ := hwrites
      rcases hwrites.read_or_overlong with hsome | hlong
      · rw [hread] at hsome
        cases hsome
      · exact .overlong rfl hlong (intOf_str_of_none hread) rfl
    · refine .refused ?_ id (intOf_str_of_none hread) rfl
      intro m hm
      exact hwrites ⟨m, hm⟩

theorem reading_finite (q : ℚ) : Reading (.float (.finite q)) := by
  by_cases hinteger : ∃ m : Int, q = m
  · obtain ⟨m, rfl⟩ := hinteger
    exact .integer (n := m) rfl (by simp [intOf])
  · exact .coerced (not_exists.mp hinteger)

theorem reading (v : Json) : Reading v := by
  cases v with
  | null => exact .refused (fun _ => id) id rfl rfl
  | bool b => exact .coerced trivial
  | int n => exact .integer rfl rfl
  | float x =>
    cases x with
    | finite q => exact reading_finite q
    | inf | negInf => exact .coerced trivial
    | nan => exact .refused (fun _ => id) id rfl rfl
  | str s => exact reading_str s
  | arr items | obj fields => exact .refused (fun _ => id) id rfl rfl

namespace PriorityRouter

theorem resolve_of_ok (h : intOf v = .ok n) (otherwise : Except PyExc Int) :
    resolve (some v) otherwise = .ok n := by
  unfold resolve
  split
  · next heq => cases heq
  · next heq =>
      cases heq
      cases h
  · next heq =>
      cases heq
      rw [h]

theorem resolve_of_error {e : PyExc} (h : intOf v = .error e)
    (hcaught : e.isInstance [.typeError, .valueError]) (otherwise : Except PyExc Int) :
    resolve (some v) otherwise = otherwise := by
  unfold resolve
  split
  · next heq => cases heq
  · rfl
  · next heq =>
      cases heq
      rw [h]
      exact if_pos hcaught

theorem resolve_of_coerced (h : Coerced v) (otherwise : Except PyExc Int) :
    resolve (some v) otherwise = intOf v := by
  unfold Coerced at h
  split at h
  · rfl
  · rfl
  · rfl
  · rfl
  · exact h.elim

/-- How one source is read, by what it holds. -/
theorem resolve_given_iff (source : Option Json) (otherwise : Except PyExc Int)
    (rest : Int → Prop) : (∃ n, resolve source otherwise = .ok n ∧ Given source rest n) ↔
      (∀ v, source = some v → Coerced v → ∃ n, intOf v = .ok n ∧ rest n) ∧
      (∀ s n, source = some (.str s) → Overlong s n → otherwise = .ok n) ∧
      ((∀ v, source = some v → (∀ m, ¬ IntegerValue v m) ∧ ¬ Coerced v) →
        ∃ n, otherwise = .ok n ∧ rest n) := by
  cases source with
  | none => simp [resolve, Given]
  | some v =>
    cases reading v with
    | @integer n hvalue hread =>
      -- the source is read, and nothing is asked of the rest
      have hgiven : Given (some v) rest n := .inl ⟨v, rfl, hvalue⟩
      simp only [resolve_of_ok hread, Option.some.injEq, forall_eq']
      refine ⟨fun _ => ⟨?_, ?_, ?_⟩, fun _ => ⟨n, rfl, hgiven⟩⟩
      · intro hcoerced
        exact absurd hvalue (hcoerced.not_integerValue n)
      · rintro s m rfl hlong
        have hnone := intOf_str_of_none hlong.unread
        rw [hread] at hnone
        cases hnone
      · intro hmissing
        exact absurd hvalue (hmissing.1 n)
    | @overlong s n e hstr hlong hread hcaught =>
      subst hstr
      have hvalue : IntegerValue (.str s) n := hlong.writes
      rw [resolve_of_error hread hcaught]
      constructor
      · rintro ⟨m, hm, ⟨_, ⟨⟩, hvalue'⟩ | ⟨hmissing, -⟩⟩
        · obtain rfl := hvalue.unique hvalue'
          refine ⟨?_, ?_, ?_⟩
          · rintro _ ⟨⟩ hcoerced
            exact hcoerced.elim
          · rintro _ k ⟨⟩ hlong'
            obtain rfl := hvalue.unique hlong'.writes
            exact hm
          · intro hmissing
            exact absurd hvalue ((hmissing _ rfl).1 n)
        · exact absurd hvalue (hmissing _ n rfl)
      · rintro ⟨-, hotherwise, -⟩
        exact ⟨n, hotherwise s n rfl hlong, .inl ⟨_, rfl, hvalue⟩⟩
    | coerced hcoerced =>
      simp only [resolve_of_coerced hcoerced, given_of_missing hcoerced.not_integerValue, Option.some.injEq, forall_eq']
      refine ⟨fun h => ⟨fun _ => h, ?_, ?_⟩, fun h => h.1 hcoerced⟩
      · rintro s n rfl -
        exact hcoerced.elim
      · intro hclear
        exact absurd hcoerced hclear.2
    | refused hmissing huncoerced hread hcaught =>
      simp only [resolve_of_error hread hcaught, given_of_missing hmissing, Option.some.injEq, forall_eq']
      refine ⟨fun h => ⟨?_, ?_, fun _ => h⟩, fun h => h.2.2 ⟨hmissing, huncoerced⟩⟩
      · intro hcoerced
        exact absurd hcoerced huncoerced
      · rintro s n rfl hlong
        exact absurd hlong.writes (hmissing n)

variable (router : PriorityRouter) (args : RouteArgs)

/-- The header the priority is looked for in. -/
def headerValue (args : RouteArgs) : Option String :=
  (args.headers.find? fun entry => lower entry.1 = lower router.priorityHeader).map (·.2)

def bodyValue (args : RouteArgs) : Option Json := args.requestJson.lookup router.priorityField

/-- The priority as it is read from a request without the header. -/
def bodyPriority (args : RouteArgs) : Except PyExc Int :=
  resolve (router.bodyValue args) (.ok router.priorityDefault)

/-- The priority a request asks for: the header's integer, else the body's, else the
default. -/
def Asked (args : RouteArgs) : Int → Prop :=
  Given ((router.headerValue args).map Json.str)
    (Given (router.bodyValue args) (· = router.priorityDefault))

theorem extractPriority_eq : router.extractPriority args =
      resolve ((router.headerValue args).map Json.str) (router.bodyPriority args) := by
  rw [headerValue, Option.map_map]
  rfl

theorem bodyPriority_given_iff : (∃ n, router.bodyPriority args = .ok n ∧
        Given (router.bodyValue args) (· = router.priorityDefault) n) ↔
      ∀ v, router.bodyValue args = some v → (Coerced v → intOf v = .ok router.priorityDefault) ∧
        (∀ s n, v = .str s → Overlong s n → router.priorityDefault = n) := by
  rw [bodyPriority, resolve_given_iff]
  simp only [exists_eq_right, Except.ok.injEq]
  constructor
  · rintro ⟨hcoerced, hlong, -⟩ v hv
    refine ⟨hcoerced v hv, ?_⟩
    rintro s n rfl
    exact hlong s n hv
  · intro h
    refine ⟨fun v hv => (h v hv).1, fun s n hs => (h _ hs).2 s n rfl, ?_⟩
    intro _
    trivial

/-- The priority is the one asked for, unless a literal has more digits than `int`
takes or, with no integer in the header, the body holds a boolean, a fraction or an
infinity; then it is right only by coincidence. -/
theorem extractPriority_asked_iff (args : RouteArgs) :
    (∃ n, router.extractPriority args = .ok n ∧ router.Asked args n) ↔
      (∀ h n, router.headerValue args = some h → Overlong h n →
        router.bodyPriority args = .ok n) ∧
      ((∀ h n, router.headerValue args = some h → ¬ Writes h n) →
        ∀ v, router.bodyValue args = some v →
          (Coerced v → intOf v = .ok router.priorityDefault) ∧
          (∀ s n, v = .str s → Overlong s n → router.priorityDefault = n)) := by
  unfold Asked
  rw [extractPriority_eq, resolve_given_iff, bodyPriority_given_iff]
  cases router.headerValue args with
  | none => simp
  | some h =>
    simp only [Option.map_some, Option.some.injEq, forall_eq', Json.str.injEq]
    constructor
    · rintro ⟨-, hlong, hrest⟩
      refine ⟨hlong, fun hmissing => hrest ⟨fun m => hmissing h m rfl, id⟩⟩
    · rintro ⟨hlong, hrest⟩
      refine ⟨False.elim, hlong, fun hclear => hrest ?_⟩
      rintro _ n rfl
      exact hclear.1 n

def callWith (headers : Headers) (v : Json) : RouteArgs :=
  ⟨[], .empty, headers, [("priority", v)]⟩

theorem intOfString_seven : intOfString " +7 " = some 7 := by decide

/-- The header decides, whatever the body holds. -/
theorem extractPriority_asked_by_header :
    ∃ n, standard.extractPriority (callWith [("X-Request-Priority", " +7 ")] (.float .inf)) = .ok n ∧
      standard.Asked (callWith [("X-Request-Priority", " +7 ")] (.float .inf)) n := by
  apply (extractPriority_asked_iff standard _).mpr
  have hheader : standard.headerValue (callWith [("X-Request-Priority", " +7 ")] (.float .inf)) =
      some " +7 " := by decide
  constructor
  · rintro h n ⟨⟩ hlong
    have hnone := hlong.unread
    cases hnone
  · intro hmissing
    exact absurd (writes_of_intOfString intOfString_seven) (hmissing _ 7 rfl)

theorem not_given_coerced (h : Coerced v) (hn : n ≠ 0) : ¬ standard.Asked (callWith [] v) n := by
  intro hasked
  rcases hasked with ⟨_, hheader, -⟩ | ⟨-, hbody⟩
  · cases hheader
  · exact hn ((given_of_missing h.not_integerValue _ n).mp hbody)

/-- An infinite priority raises, and a boolean or a fraction is read as an integer that
was not asked for. -/
theorem extractPriority_coerces :
    (∃ e, standard.extractPriority (callWith [] (.float .inf)) = .error e) ∧
    (standard.extractPriority (callWith [] (.bool true)) = .ok 1 ∧
      ¬ standard.Asked (callWith [] (.bool true)) 1) ∧
    (standard.extractPriority (callWith [] (.float (.finite (5 / 2)))) = .ok 2 ∧
      ¬ standard.Asked (callWith [] (.float (.finite (5 / 2)))) 2) := by
  have hbool : Coerced (.bool true) := trivial
  have hfraction : Coerced (.float (.finite (5 / 2))) := by
    intro m hm
    have hden := congrArg Rat.den hm
    rw [Rat.den_intCast, show (5 / 2 : ℚ).den = 2 by decide +kernel] at hden
    cases hden
  refine ⟨⟨_, rfl⟩, ⟨rfl, not_given_coerced hbool (by decide)⟩, ?_, ?_⟩
  · decide +kernel
  · exact not_given_coerced hfraction (by decide)

end PriorityRouter

end ProductionStack.Routing

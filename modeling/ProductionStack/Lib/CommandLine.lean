import Mathlib.Init

/-!
Command lines of a positional argument and options, read as `argparse` reads them. Which
arguments are options, and how many values each option takes, is given by a grammar.
-/

namespace ProductionStack.Lib

/-- How many values an option takes. -/
inductive Arity where
  | zero
  | one
  | oneOrMore

/-- What an argument is: an option, with the value behind its equals sign, or a value. -/
inductive Token (Opt : Type) where
  | option (name : Opt) (assigned : Option String)
  | value
  deriving DecidableEq

structure Grammar (Opt : Type) where
  classify : String → Token Opt
  arity : Opt → Arity

/-- An option that was given, and its values. -/
structure Given (Opt : Type) where
  option : Opt
  values : List String

/-- The values of an option, of the one it is assigned and those that follow it. What it
does not take would be a second positional argument. -/
def Arity.takes : Arity → Option String → List String → Option (List String)
  | .zero, none, [] => some []
  | .one, none, [value] | .one, some value, [] | .oneOrMore, some value, [] => some [value]
  | .oneOrMore, none, value :: values => some (value :: values)
  | _, _, _ => none

namespace Grammar

variable {Opt : Type} (g : Grammar Opt)

/-- The values in front of the first option, and the options. -/
def options : List String → Option (List String × List (Given Opt))
  | [] => some ([], [])
  | arg :: rest => (options rest).bind fun (values, given) =>
    match g.classify arg with
    | .value => some (arg :: values, given)
    | .option name assigned =>
      ((g.arity name).takes assigned values).map fun taken => ([], ⟨name, taken⟩ :: given)

/-- The options behind the positional argument, if the line is accepted. -/
def parse : List String → Option (List (Given Opt))
  | [] => none
  | positional :: rest =>
    match g.classify positional, g.options rest with
    | .value, some ([], given) => some given
    | _, _ => none

variable {g} {arg : String} {args rest values : List String} {given : List (Given Opt)}

theorem parse_cons (h : g.parse (arg :: rest) = some given) : g.options rest = some ([], given) := by
  simp only [parse] at h
  split at h
  · next hrest =>
      cases h
      exact hrest
  · cases h

/-- Every option of the line is given. -/
theorem given_of_mem {name : Opt} {assigned : Option String}
    (h : g.options args = some (values, given)) (harg : arg ∈ args)
    (hclass : g.classify arg = .option name assigned) : ∃ a ∈ given, a.option = name := by
  induction args generalizing values given with
  | nil => cases harg
  | cons first rest ih =>
    obtain ⟨⟨values', given'⟩, hrest, h⟩ := Option.bind_eq_some_iff.mp h
    rcases List.mem_cons.mp harg with rfl | harg
    · simp only [hclass] at h
      obtain ⟨taken, -, h⟩ := Option.map_eq_some_iff.mp h
      cases h
      exact ⟨_, List.mem_cons_self, rfl⟩
    · obtain ⟨a, ha, hname⟩ := ih hrest harg
      dsimp only at h
      split at h
      · cases h
        exact ⟨a, ha, hname⟩
      · obtain ⟨taken, -, h⟩ := Option.map_eq_some_iff.mp h
        cases h
        exact ⟨a, List.mem_cons_of_mem _ ha, hname⟩

end Grammar

end ProductionStack.Lib

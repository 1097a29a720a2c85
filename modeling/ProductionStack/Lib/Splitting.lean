import Mathlib.Data.List.DropRight
import Mathlib.Data.List.Infix

/-!
Sequences taken apart at the elements that satisfy a predicate.
-/

namespace ProductionStack.Lib

variable {α : Type*}

section Separator

variable [DecidableEq α]

/-- What stands before and behind the first occurrence of the separator. -/
def cut (sep : List α) : List α → Option (List α × List α)
  | [] => none
  | x :: xs =>
    if sep.isPrefixOf (x :: xs) then some ([], (x :: xs).drop sep.length)
    else (cut sep xs).map (Prod.map (x :: ·) id)

/-- The pieces between the occurrences, after `skip` more elements of a separator. -/
def splitFrom (sep : List α) : Nat → List α → List (List α)
  | _, [] => [[]]
  | skip + 1, _ :: xs => splitFrom sep skip xs
  | 0, x :: xs =>
    if sep.isPrefixOf (x :: xs) then [] :: splitFrom sep (sep.length - 1) xs
    else (splitFrom sep 0 xs).modifyHead (x :: ·)

/-- The pieces between the occurrences of the separator, from the left. -/
def splitBy (sep l : List α) : List (List α) := splitFrom sep 0 l

variable {sep : List α}

theorem splitFrom_eq_drop (skip : Nat) (l : List α) :
    splitFrom sep skip l = splitBy sep (l.drop skip) := by
  induction l generalizing skip with
  | nil => simp [splitBy, splitFrom]
  | cons x xs ih =>
    cases skip with
    | zero => rfl
    | succ skip => simpa [splitFrom] using ih skip

/-- The first piece ends at the first occurrence, and the others are those of what is
behind it. -/
theorem splitBy_eq_cut (hsep : sep ≠ []) (l : List α) :
    splitBy sep l = (cut sep l).elim [l] fun parts => parts.1 :: splitBy sep parts.2 := by
  induction l with
  | nil => rfl
  | cons x xs ih =>
    rw [splitBy, splitFrom, cut]
    split
    · have hdrop : (x :: xs).drop sep.length = xs.drop (sep.length - 1) := by
        have hpos := List.length_pos_of_ne_nil hsep
        rw [show sep.length = sep.length - 1 + 1 by omega]
        rfl
      rw [splitFrom_eq_drop, Option.elim_some, hdrop]
    · change (splitBy sep xs).modifyHead (x :: ·) = _
      rw [ih]
      cases cut sep xs <;> rfl

variable {l : List α} {c : α} {xs a : List α}

theorem cut_of_isPrefix (hl : l ≠ []) (h : sep <+: l) :
    cut sep l = some ([], l.drop sep.length) := by
  cases l with
  | nil => exact absurd rfl hl
  | cons x xs => rw [cut, if_pos (List.isPrefixOf_iff_prefix.mpr h)]

theorem cut_of_not_isPrefix {x : α} (h : ¬ sep <+: x :: xs) :
    cut sep (x :: xs) = (cut sep xs).map (Prod.map (x :: ·) id) := by
  rw [cut, if_neg (mt List.isPrefixOf_iff_prefix.mp h)]

/-- Nothing is cut where the separator cannot begin. -/
theorem cut_append_of_notMem (h : c ∉ a) (l : List α) :
    cut (c :: sep) (a ++ l) = (cut (c :: sep) l).map (Prod.map (a ++ ·) id) := by
  induction a with
  | nil =>
    change _ = (cut (c :: sep) l).map id
    rw [Option.map_id]
    rfl
  | cons x xs ih =>
    obtain ⟨hx, hxs⟩ := not_or.mp (mt List.mem_cons.mpr h)
    have hstart : ¬ c :: sep <+: x :: (xs ++ l) := by
      rw [List.cons_prefix_cons]
      exact fun hstart => hx hstart.1
    rw [List.cons_append, cut_of_not_isPrefix hstart, ih hxs, Option.map_map]
    rfl

theorem cut_eq_none_of_notMem (h : c ∉ l) : cut (c :: sep) l = none := by
  have hcut : cut (c :: sep) (l ++ []) = _ := cut_append_of_notMem h []
  rwa [List.append_nil] at hcut

theorem splitBy_singleton (c : α) (l : List α) : splitBy [c] l = l.splitOn c := by
  induction l with
  | nil => rfl
  | cons x xs ih =>
    have hstart : [c].isPrefixOf (x :: xs) = (x == c) := by
      simp [List.isPrefixOf, Bool.beq_comm]
    rw [List.splitOn, List.splitOnP_cons_eq_if_modifyHead, splitBy, splitFrom, hstart]
    split
    · exact congrArg ([] :: ·) ih
    · exact congrArg (List.modifyHead (x :: ·)) ih

/-- The last piece is what follows the last separator. -/
theorem getLast?_splitBy_singleton {last : List α} (h : c ∉ last) (front : List α) :
    (splitBy [c] (front ++ c :: last)).getLast? = some last := by
  have hlast : last.splitOnP (· == c) = [last] := by
    rw [← List.splitOn, ← splitBy_singleton, splitBy_eq_cut (List.cons_ne_nil c []),
      cut_eq_none_of_notMem h]
    rfl
  have hc : (c == c) = true := beq_self_eq_true c
  have happend := List.splitOnP_append_cons (p := (· == c)) front last hc
  rw [splitBy_singleton, List.splitOn, happend, hlast]
  exact List.getLast?_concat

/-- The first of the pieces. -/
def firstPiece (sep l : List α) : List α := (cut sep l).elim l (·.1)

theorem splitBy_eq_firstPiece (hsep : sep ≠ []) (l : List α) :
    ∃ pieces, splitBy sep l = firstPiece sep l :: pieces := by
  rw [splitBy_eq_cut hsep, firstPiece]
  cases cut sep l with
  | none => exact ⟨[], rfl⟩
  | some parts => exact ⟨splitBy sep parts.2, rfl⟩

theorem splitBy_of_cut_none (hsep : sep ≠ []) (h : cut sep l = none) : splitBy sep l = [l] := by
  rw [splitBy_eq_cut hsep, h]
  rfl

theorem splitBy_of_cut (hsep : sep ≠ []) {before after : List α}
    (h : cut sep l = some (before, after)) :
    ∃ pieces, splitBy sep l = before :: firstPiece sep after :: pieces := by
  obtain ⟨pieces, hpieces⟩ := splitBy_eq_firstPiece hsep after
  refine ⟨pieces, ?_⟩
  rw [splitBy_eq_cut hsep, h, ← hpieces]
  rfl

theorem firstPiece_of_isPrefix (hl : l ≠ []) (h : sep <+: l) : firstPiece sep l = [] := by
  rw [firstPiece, cut_of_isPrefix hl h]
  rfl

theorem firstPiece_of_not_isPrefix {x : α} (h : ¬ sep <+: x :: xs) :
    firstPiece sep (x :: xs) = x :: firstPiece sep xs := by
  rw [firstPiece, firstPiece, cut_of_not_isPrefix h]
  cases cut sep xs <;> rfl

theorem firstPiece_append_of_notMem (h : c ∉ a) (l : List α) :
    firstPiece (c :: sep) (a ++ l) = a ++ firstPiece (c :: sep) l := by
  rw [firstPiece, firstPiece, cut_append_of_notMem h]
  cases cut (c :: sep) l <;> rfl

/-- Up to where the separator may begin, the first piece is the sequence. -/
theorem takeWhile_firstPiece (c : α) (l : List α) :
    (firstPiece (c :: sep) l).takeWhile (· ≠ c) = l.takeWhile (· ≠ c) := by
  induction l with
  | nil => rfl
  | cons x xs ih =>
    by_cases hstart : c :: sep <+: x :: xs
    · obtain rfl := (List.cons_prefix_cons.mp hstart).1
      rw [firstPiece_of_isPrefix (List.cons_ne_nil _ _) hstart]
      simp
    · rw [firstPiece_of_not_isPrefix hstart, List.takeWhile_cons, List.takeWhile_cons, ih]

theorem firstPiece_singleton (c : α) (l : List α) : firstPiece [c] l = l.takeWhile (· ≠ c) := by
  induction l with
  | nil => rfl
  | cons x xs ih =>
    by_cases hx : x = c
    · rw [hx, firstPiece_of_isPrefix (List.cons_ne_nil _ _) (by simp)]
      simp
    · rw [firstPiece_of_not_isPrefix, ih]
      · simp [hx]
      · rw [List.cons_prefix_cons]
        exact fun hstart => hx hstart.1.symm

end Separator

theorem rtakeWhile_append_of_notMem [DecidableEq α] {c : α} {last : List α} (h : c ∉ last)
    (front : List α) : (front ++ [c] ++ last).rtakeWhile (· ≠ c) = last := by
  have hlast : ∀ x ∈ last.reverse, decide (x ≠ c) = true := by
    intro x hx
    rw [decide_eq_true_eq]
    rintro rfl
    exact h (List.mem_reverse.mp hx)
  have hstop : (front ++ [c]).reverse.takeWhile (· ≠ c) = [] := by
    rw [List.reverse_concat, List.takeWhile_cons_of_neg (by simp)]
  rw [List.rtakeWhile, List.reverse_append, List.takeWhile_append_of_pos hlast, hstop,
    List.append_nil, List.reverse_reverse]

/-- A sequence ends, behind the last `c`, with what has no `c` in it. -/
theorem eq_append_rtakeWhile [DecidableEq α] {c : α} {l : List α} (h : c ∈ l) :
    ∃ front, l = front ++ c :: l.rtakeWhile (· ≠ c) := by
  have hsplit : l.rdropWhile (· ≠ c) ++ l.rtakeWhile (· ≠ c) = l :=
    List.rdropWhile_append_rtakeWhile
  have hne : l.rdropWhile (· ≠ c) ≠ [] := by
    rw [Ne, List.rdropWhile_eq_nil_iff]
    intro hall
    simpa using hall c h
  have hlast := List.rdropWhile_last_not (· ≠ c) l hne
  refine ⟨(l.rdropWhile (· ≠ c)).dropLast, ?_⟩
  have hc : (l.rdropWhile (· ≠ c)).getLast hne = c := by simpa using hlast
  have hfront := List.dropLast_append_getLast hne
  rw [hc] at hfront
  rw [← List.singleton_append, ← List.append_assoc, hfront, hsplit]

theorem intercalate_cons (sep first : List α) (parts : List (List α)) :
    sep.intercalate (first :: parts) = first ++ (parts.map (sep ++ ·)).flatten := by
  induction parts generalizing first with
  | nil => simp [List.intercalate]
  | cons part parts ih =>
    rw [List.intercalate_cons_cons, ih]
    simp

theorem isInfix_intercalate {sep part : List α} {parts : List (List α)} (h : part ∈ parts) :
    part <:+: sep.intercalate parts := by
  obtain ⟨before, after, rfl⟩ := List.append_of_mem h
  cases before with
  | nil =>
    rw [List.nil_append, intercalate_cons]
    exact (List.prefix_append _ _).isInfix
  | cons first before =>
    have hmem : sep ++ part ∈ (before ++ part :: after).map (sep ++ ·) :=
      List.mem_map.mpr ⟨part, by simp, rfl⟩
    rw [List.cons_append, intercalate_cons]
    have hpart : part <:+: sep ++ part := (List.suffix_append sep part).isInfix
    have hrest := List.infix_of_mem_flatten hmem
    exact (hpart.trans hrest).trans (List.suffix_append first _).isInfix

end ProductionStack.Lib

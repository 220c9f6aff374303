import Mathlib.Data.List.Infix

/-! Searching a text for a pattern: replacing every occurrence, and cutting the text at the first.
Occurrences are taken from left to right, and do not overlap.
-/

namespace ControlPlane.Library

variable {α : Type*} [DecidableEq α]

/-- The text with the pattern replaced. The number is what is left of an occurrence to be skipped. -/
def replaceFrom (pattern replacement : List α) : Nat → List α → List α
  | _, [] => []
  | skip + 1, _ :: rest => replaceFrom pattern replacement skip rest
  | 0, c :: rest =>
      if pattern.isPrefixOf (c :: rest) then
        replacement ++ replaceFrom pattern replacement (pattern.length - 1) rest
      else c :: replaceFrom pattern replacement 0 rest

def replaceAll (pattern replacement text : List α) : List α :=
  replaceFrom pattern replacement 0 text

/-- What lies before the first occurrence of a pattern, and what lies behind it. -/
def cutAt (pattern : List α) : List α → Option (List α × List α)
  | [] => none
  | c :: rest =>
      if pattern.isPrefixOf (c :: rest) then some ([], (c :: rest).drop pattern.length)
      else (cutAt pattern rest).map fun cut => (c :: cut.1, cut.2)

-----------------------------------------------------------------------------------------
-- Where an occurrence can begin
-----------------------------------------------------------------------------------------

theorem isPrefixOf_cons_of_ne {first c : α} (apart : first ≠ c) (pattern rest : List α)
    : (first :: pattern).isPrefixOf (c :: rest) = false := by
  simp [List.isPrefixOf, apart]

theorem replaceFrom_skip (pattern replacement : List α) {skipped : List α} (rest : List α)
    : replaceFrom pattern replacement skipped.length (skipped ++ rest)
      = replaceFrom pattern replacement 0 rest := by
  induction skipped with
  | nil => rfl
  | cons c skipped ih => exact ih

/-- An occurrence at the front is replaced. -/
theorem replaceAll_pattern (first : α) (pattern replacement rest : List α)
    : replaceAll (first :: pattern) replacement (first :: pattern ++ rest)
      = replacement ++ replaceAll (first :: pattern) replacement rest := by
  have occurs : (first :: pattern).isPrefixOf (first :: (pattern ++ rest)) = true :=
    List.isPrefixOf_iff_prefix.mpr ⟨rest, rfl⟩
  rw [replaceAll, List.cons_append, replaceFrom, if_pos occurs, List.length_cons,
    Nat.add_sub_cancel, replaceFrom_skip]
  rfl

/-- A text stays as far as no occurrence begins in it, by induction on the text. -/
theorem replaceAll_append {first : α} {before : List α} (absent : first ∉ before)
    (pattern replacement rest : List α)
    : replaceAll (first :: pattern) replacement (before ++ rest)
      = before ++ replaceAll (first :: pattern) replacement rest := by
  induction before with
  | nil => rfl
  | cons c before ih =>
      simp only [List.mem_cons, not_or] at absent
      have front : (first :: pattern).isPrefixOf (c :: (before ++ rest)) = false :=
        isPrefixOf_cons_of_ne absent.1 pattern _
      have later := ih absent.2
      rw [replaceAll] at later ⊢
      rw [List.cons_append, replaceFrom, front, later]
      rfl

/-- Replacing one character goes character by character. -/
theorem replaceAll_singleton (c : α) (replacement text : List α)
    : replaceAll [c] replacement text
      = text.flatMap fun other => if other = c then replacement else [other] := by
  induction text with
  | nil => rfl
  | cons other rest ih =>
      rw [List.flatMap_cons, ← ih]
      by_cases same : other = c
      · rw [if_pos same, same]
        exact replaceAll_pattern c [] replacement rest
      · have absent : c ∉ [other] := by simp [Ne.symm same]
        rw [if_neg same]
        exact replaceAll_append absent [] replacement rest

/-- A text before the first place where an occurrence can begin lies before the cut. -/
theorem cutAt_append {first : α} {before : List α} (absent : first ∉ before)
    (pattern rest : List α)
    : cutAt (first :: pattern) (before ++ rest)
      = (cutAt (first :: pattern) rest).map fun cut => (before ++ cut.1, cut.2) := by
  induction before with
  | nil => simp
  | cons c before ih =>
      simp only [List.mem_cons, not_or] at absent
      have front : (first :: pattern).isPrefixOf (c :: (before ++ rest)) = false :=
        isPrefixOf_cons_of_ne absent.1 pattern _
      rw [List.cons_append, cutAt, front, ih absent.2]
      simp [Function.comp_def]

/-- The text is cut where the pattern is at the front. -/
theorem cutAt_pattern (first : α) (pattern rest : List α)
    : cutAt (first :: pattern) (first :: pattern ++ rest) = some ([], rest) := by
  have occurs : (first :: pattern).isPrefixOf (first :: (pattern ++ rest)) = true :=
    List.isPrefixOf_iff_prefix.mpr ⟨rest, rfl⟩
  rw [List.cons_append, cutAt, if_pos occurs]
  simp

end ControlPlane.Library

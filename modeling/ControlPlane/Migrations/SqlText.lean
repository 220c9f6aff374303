import ControlPlane.Kek.TokenCrypto

/-! The SQL texts of the migration runner: a migration without its comments, and a name as an
SQL string.
-/

namespace ControlPlane.Migrations

open ControlPlane.Kek (trim)

/-- The closer of each kind of quoted text, by the character that opens it. -/
def closers : List (Char × Char) :=
  "'\"`[".toList.zip "'\"`]".toList

/-- (cutAfter mark text) cuts a text right after the first occurrence of the mark. -/
def cutAfter (mark : List Char) : List Char → Option (List Char × List Char)
  | [] => none
  | c :: rest =>
      if mark.isPrefixOf (c :: rest) then some (mark, (c :: rest).drop mark.length)
      else (cutAfter mark rest).map fun cut => (c :: cut.1, cut.2)

/-- What is left after a nonempty mark is shorter, by induction on the text. -/
theorem cutAfter_shorter {mark text before after : List Char} (marked : mark ≠ [])
    (cut : cutAfter mark text = some (before, after))
    : after.length < text.length := by
  induction text generalizing before with
  | nil => simp [cutAfter] at cut
  | cons c rest ih =>
      rw [cutAfter] at cut
      split at cut
      · obtain ⟨-, rfl⟩ := Prod.mk.inj (Option.some.inj cut)
        have positive := List.length_pos_iff.mpr marked
        simp only [List.length_drop, List.length_cons]
        omega
      · obtain ⟨⟨inner, tail⟩, found, same⟩ := Option.map_eq_some_iff.mp cut
        obtain ⟨-, rfl⟩ := Prod.mk.inj same
        exact Nat.lt_trans (ih found) (by simp)

/-- The text without its comments; it has no result when a quote or a block comment is left
open.
-/
def stripFrom : List Char → Option (List Char)
  | [] => some []
  | ch :: rest =>
      match closers.lookup ch with
      | some closer =>
          -- a doubled quote reads as two adjacent quoted runs
          match _cut : cutAfter [closer] rest with
          | none => none
          | some (quoted, after) => (stripFrom after).map fun out => ch :: (quoted ++ out)
      | none =>
          if "--".toList.isPrefixOf (ch :: rest) then stripFrom (rest.dropWhile (· ≠ '\n'))
          else if "/*".toList.isPrefixOf (ch :: rest) then
            match _cut : cutAfter "*/".toList (rest.drop 1) with
            | none => none
            | some (_, after) => (stripFrom after).map fun out => ' ' :: out
          else (stripFrom rest).map fun out => ch :: out
termination_by text => text.length
decreasing_by
  · have := cutAfter_shorter (by simp) _cut
    simp only [List.length_cons]
    omega
  · have := (List.dropWhile_sublist (· ≠ '\n') (l := rest)).length_le
    simp only [List.length_cons]
    omega
  · have := cutAfter_shorter (by decide) _cut
    simp only [List.length_drop] at this
    simp only [List.length_cons]
    omega
  · simp

/-- Remove SQL comments from a migration before it goes to the D1 query endpoint. -/
def stripSqlComments (sql : String) : String :=
  match stripFrom sql.toList with
  | none => sql
  | some out => trim (String.ofList out)

/-- A character that opens neither a quoted text nor a comment. -/
def Plain (c : Char) : Prop :=
  closers.lookup c = none ∧ c ≠ '-' ∧ c ≠ '/'

instance (c : Char) : Decidable (Plain c) :=
  inferInstanceAs (Decidable (closers.lookup c = none ∧ c ≠ '-' ∧ c ≠ '/'))

/-- Text of plain characters has nothing to remove, by induction on it. -/
theorem stripFrom_plain {text : List Char} (plain : ∀ c ∈ text, Plain c)
    : stripFrom text = some text := by
  induction text with
  | nil => rw [stripFrom]
  | cons c rest ih =>
      obtain ⟨unquoted, noDash, noSlash⟩ := plain c List.mem_cons_self
      have line : "--".toList.isPrefixOf (c :: rest) = false := by
        simp [List.isPrefixOf, Ne.symm noDash]
      have block : "/*".toList.isPrefixOf (c :: rest) = false := by
        simp [List.isPrefixOf, Ne.symm noSlash]
      rw [stripFrom, unquoted]
      simp only [line, block, Bool.false_eq_true, if_false,
        ih fun other member => plain other (List.mem_cons_of_mem _ member), Option.map_some]

/-- A name between quotes. A quote inside it is refused. -/
def sqlString (value : String) : Except String String :=
  if '\'' ∈ value.toList then .error s!"migration name must not contain a quote: {value}"
  else .ok ("'" ++ value ++ "'")

end ControlPlane.Migrations

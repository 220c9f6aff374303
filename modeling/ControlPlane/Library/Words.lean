import Mathlib.Data.List.Basic

/-! The words of a text: what stands between the runs of its separators. -/

namespace ControlPlane.Library.Words

variable {α : Type*} (separates : α → Bool)

/-- The parts of a text between the runs of its separators, inside a run or behind one. A separator
in front, and one at the end, has an empty part beside it.
-/
def between : Bool → List α → List (List α)
  | _, [] => [[]]
  | inRun, item :: rest =>
      if separates item then
        if inRun then between true rest else [] :: between true rest
      else (between false rest).modifyHead (item :: ·)

/-- text.split(/[separators]+/). -/
def split (text : List α) : List (List α) :=
  between separates false text

/-- Something is written, and nothing that separates. -/
structure IsWord (word : List α) : Prop where
  written : word ≠ []
  whole : ∀ item ∈ word, separates item = false

variable {separates}

/-- The first part goes up to the first separator, by induction on it. -/
theorem between_front {front : List α} (whole : ∀ item ∈ front, separates item = false)
    (rest : List α)
    : between separates false (front ++ rest)
      = (between separates false rest).modifyHead (front ++ ·) := by
  induction front with
  | nil =>
      simp only [List.nil_append]
      cases between separates false rest <;> rfl
  | cons item front ih =>
      have onFront := ih fun other member => whole other (List.mem_cons_of_mem _ member)
      have plain := whole item List.mem_cons_self
      rw [List.cons_append, between, if_neg (by simp [plain]), onFront, List.modifyHead_modifyHead]
      rfl

/-- A word behind a run is a part like any other. -/
theorem between_word {word : List α} (isWord : IsWord separates word) (inRun : Bool)
    (rest : List α)
    : between separates inRun (word ++ rest)
      = (between separates false rest).modifyHead (word ++ ·) := by
  cases word with
  | nil => exact absurd rfl isWord.written
  | cons item later =>
      have plain := isWord.whole item List.mem_cons_self
      have ofLater : ∀ other ∈ later, separates other = false := fun other member =>
        isWord.whole other (List.mem_cons_of_mem item member)
      have onLater := between_front ofLater rest
      rw [List.cons_append, between, if_neg (by simp [plain]), onLater, List.modifyHead_modifyHead]
      rfl

/-- Words with a separator between each two are the parts of what they make, by induction on the
words.
-/
theorem between_intercalate {separator : α} (isSeparator : separates separator = true)
    {first : List α} {others : List (List α)}
    (words : ∀ word ∈ first :: others, IsWord separates word) (inRun : Bool)
    : between separates inRun ([separator].intercalate (first :: others)) = first :: others := by
  induction others generalizing first inRun with
  | nil =>
      have isWord := words first List.mem_cons_self
      rw [List.intercalate_singleton, ← List.append_nil first, between_word isWord]
      simp [between]
  | cons next others ih =>
      have isWord := words first List.mem_cons_self
      have onward := ih (fun word member => words word (List.mem_cons_of_mem _ member)) true
      rw [List.intercalate_cons_cons, List.append_assoc, between_word isWord]
      rw [List.singleton_append, between, if_pos isSeparator, if_neg Bool.false_ne_true, onward]
      simp

theorem split_intercalate {separator : α} (isSeparator : separates separator = true)
    {first : List α} {others : List (List α)}
    (words : ∀ word ∈ first :: others, IsWord separates word)
    : split separates ([separator].intercalate (first :: others)) = first :: others :=
  between_intercalate isSeparator words false

end ControlPlane.Library.Words

import Mathlib.Data.List.DropRight

/-! Lists cut at a separator and stripped of their margins, as a parser of delimited text does.
-/

namespace ControlPlane.Library.TextParts

variable {α : Type*}

section Strip

variable (p : α → Bool)

/-- What is left without the items at both ends that fit. -/
def strip (list : List α) : List α :=
  (list.dropWhile p).rdropWhile p

/-- Nothing is left to take in front. -/
theorem strip_front (list : List α) : (strip p list).dropWhile p = strip p list := by
  rw [List.dropWhile_eq_self_iff]
  intro nonempty
  have shorter : strip p list <+: list.dropWhile p := List.rdropWhile_prefix p _
  have longer : 0 < (list.dropWhile p).length :=
    Nat.lt_of_lt_of_le nonempty shorter.length_le
  have same : (strip p list)[0] = (list.dropWhile p)[0] := shorter.getElem nonempty
  rw [same]
  exact List.dropWhile_get_zero_not p list longer

/-- Nothing is left to take behind. -/
theorem strip_behind (list : List α) : (strip p list).rdropWhile p = strip p list :=
  List.rdropWhile_idempotent p _

/-- Stripping takes everything there is to take. -/
@[simp] theorem strip_strip (list : List α) : strip p (strip p list) = strip p list := by
  rw [strip, strip_front, strip_behind]

/-- A list in which nothing fits is left as it is. -/
theorem strip_eq_self {list : List α} (unfit : ∀ item ∈ list, p item = false)
    : strip p list = list := by
  have front : list.dropWhile p = list := by
    rw [List.dropWhile_eq_self_iff]
    intro nonempty
    simp [unfit _ (List.getElem_mem nonempty)]
  rw [strip, front, List.rdropWhile_eq_self_iff]
  intro nonempty
  simp [unfit _ (List.getLast_mem nonempty)]

/-- An item that does not fit stays. -/
theorem strip_ne_nil {list : List α} {item : α} (held : item ∈ list) (unfit : p item = false)
    : strip p list ≠ [] := by
  intro nothing
  rw [strip, List.rdropWhile_eq_nil_iff] at nothing
  have front : list.dropWhile p = [] := by
    rw [← List.dropWhile_idempotent, List.dropWhile_eq_nil_iff]
    exact nothing
  rw [List.dropWhile_eq_nil_iff.mp front item held] at unfit
  cases unfit

/-- What is left begins with no item that fits. -/
theorem strip_head {list rest : List α} {item : α} (isLeft : strip p list = item :: rest)
    : p item = false := by
  have front := strip_front p list
  rw [isLeft] at front
  by_contra fits
  rw [List.dropWhile_cons_of_pos (by simpa using fits)] at front
  have shorter := (List.dropWhile_sublist p (l := rest)).length_le
  rw [front, List.length_cons] at shorter
  omega

/-- What is left ends with no item that fits. -/
theorem strip_last {list before : List α} {item : α} (isLeft : strip p list = before ++ [item])
    : p item = false := by
  have behind := strip_behind p list
  rw [isLeft] at behind
  by_contra fits
  rw [List.rdropWhile_concat_pos _ _ _ (by simpa using fits)] at behind
  have shorter := (List.rdropWhile_prefix p before).length_le
  rw [behind, List.length_append, List.length_singleton] at shorter
  omega

/-- A fitting item in front makes no difference. -/
theorem strip_cons_of_pos {item : α} (fits : p item) (list : List α)
    : strip p (item :: list) = strip p list := by
  rw [strip, List.dropWhile_cons_of_pos fits, strip]

/-- What is left was there. -/
theorem strip_sublist (list : List α) : (strip p list).Sublist list :=
  (List.rdropWhile_prefix p _).sublist.trans (List.dropWhile_sublist p)

/-- What is dropped behind an item: all there is, or what is dropped of the items behind it. -/
theorem rdropWhile_cons (item : α) (list : List α)
    : ((item :: list).rdropWhile p = [] ∧ list.rdropWhile p = [])
      ∨ (item :: list).rdropWhile p = item :: list.rdropWhile p := by
  simp only [List.rdropWhile, List.reverse_cons, List.dropWhile_append, List.reverse_eq_nil_iff]
  by_cases all : list.reverse.dropWhile p = []
  · by_cases fits : p item <;> simp [all, fits]
  · simp [all]

/-- What is dropped behind a part of a list is dropped of what follows the part, by induction on
the part.
-/
theorem rdropWhile_append {part list left : List α}
    (isLeft : (part ++ list).rdropWhile p = part ++ left)
    : left = list.rdropWhile p := by
  induction part with
  | nil => exact isLeft.symm
  | cons item part ih =>
      rcases rdropWhile_cons p item (part ++ list) with ⟨nothing, _⟩ | kept
      · exact nomatch nothing.symm.trans isLeft
      · exact ih (List.cons.inj (kept.symm.trans isLeft)).2

end Strip

/-- A padded separator between parts is a separator between parts that start with the padding.
-/
theorem intercalate_padded (separator pad : α) (first : List α) (others : List (List α))
    : [separator, pad].intercalate (first :: others)
      = [separator].intercalate (first :: others.map (pad :: ·)) := by
  induction others generalizing first with
  | nil => simp
  | cons next others ih =>
      rw [List.intercalate_cons_cons, ih, List.map_cons, List.intercalate_cons_cons]
      cases others with
      | nil => simp
      | cons another others => simp [List.intercalate_cons_cons]

/-- Parts that follow each other stand in the whole as they are joined: by induction on them in
front of what comes behind, and by induction on what comes before.
-/
theorem infix_of_parts {separator : α} {parts all : List (List α)} (some_ : parts ≠ [])
    (inside : parts <:+: all)
    : [separator].intercalate parts <:+: [separator].intercalate all := by
  obtain ⟨before, after, rfl⟩ := inside
  have front : [separator].intercalate parts <+: [separator].intercalate (parts ++ after) := by
    clear some_
    induction parts with
    | nil => exact List.nil_prefix
    | cons first others ih =>
        cases others with
        | nil =>
            cases after with
            | nil => exact List.prefix_rfl
            | cons next after =>
                rw [List.singleton_append, List.intercalate_cons_cons,
                  List.intercalate_singleton, List.append_assoc]
                exact List.prefix_append _ _
        | cons next others =>
            rw [List.cons_append, List.cons_append, List.intercalate_cons_cons,
              List.intercalate_cons_cons]
            exact (List.prefix_append_right_inj _).mpr ih
  have back
      : [separator].intercalate (parts ++ after)
        <:+ [separator].intercalate (before ++ (parts ++ after)) := by
    clear front
    induction before with
    | nil => exact List.suffix_rfl
    | cons first before ih =>
        rw [List.cons_append, List.intercalate_cons_of_ne_nil (by simp [some_])]
        exact ih.trans (List.suffix_append _ _)
  rw [List.append_assoc]
  exact front.isInfix.trans back.isInfix

variable [DecidableEq α]

/-- No part holds the separator, by induction on what is cut. -/
theorem not_mem_of_mem_splitOn {separator : α} {list part : List α}
    (isPart : part ∈ list.splitOn separator)
    : separator ∉ part := by
  induction list generalizing part with
  | nil =>
      rw [List.splitOn_nil, List.mem_singleton] at isPart
      rw [isPart]
      exact List.not_mem_nil
  | cons item rest ih =>
      rw [List.splitOn_cons_eq_if_modifyHead] at isPart
      split at isPart
      next =>
        rcases List.mem_cons.mp isPart with isEmpty | later
        · rw [isEmpty]
          exact List.not_mem_nil
        · exact ih later
      next differs =>
        cases parts : rest.splitOn separator with
        | nil => exact absurd parts (List.splitOn_ne_nil separator rest)
        | cons first others =>
            rw [parts] at isPart
            rcases List.mem_cons.mp isPart with isFirst | later
            · have clean : separator ∉ first := ih (by rw [parts]; exact List.mem_cons_self ..)
              rw [isFirst]
              intro held
              rcases List.mem_cons.mp held with here | there
              · exact differs (by simp [here])
              · exact clean there
            · exact ih (by rw [parts]; exact List.mem_cons_of_mem _ later)

/-- Parts that hold no separator are cut apart again, with the padding in front of all but the
first.
-/
theorem splitOn_intercalate_padded {separator pad : α} (apart : pad ≠ separator)
    {first : List α} {others : List (List α)}
    (clean : ∀ part ∈ first :: others, separator ∉ part)
    : ([separator, pad].intercalate (first :: others)).splitOn separator
      = first :: others.map (pad :: ·) := by
  rw [intercalate_padded]
  refine List.splitOn_intercalate separator ?_ (List.cons_ne_nil _ _)
  intro part isPart
  rcases List.mem_cons.mp isPart with isFirst | later
  · rw [isFirst]
    exact clean first (List.mem_cons_self ..)
  · obtain ⟨other, isOther, padded⟩ := List.mem_map.mp later
    rw [← padded]
    intro held
    rcases List.mem_cons.mp held with here | there
    · exact apart here.symm
    · exact clean other (List.mem_cons_of_mem _ isOther) there

/-- There is more than one part exactly where a separator follows the first. -/
theorem splitOn_eq_cons_cons {separator : α} {list first next : List α} {others : List (List α)}
    : list.splitOn separator = first :: next :: others
      ↔ ∃ later, list = first ++ separator :: later ∧ separator ∉ first
          ∧ later.splitOn separator = next :: others := by
  constructor
  · intro parts
    have whole : [separator].intercalate (list.splitOn separator) = list :=
      List.intercalate_splitOn separator
    have clean : ∀ part ∈ list.splitOn separator, separator ∉ part :=
      fun part isPart => not_mem_of_mem_splitOn isPart
    rw [parts] at whole clean
    refine ⟨[separator].intercalate (next :: others), ?_, clean first List.mem_cons_self, ?_⟩
    · rw [← whole, List.intercalate_cons_cons, List.append_assoc, List.singleton_append]
    · refine List.splitOn_intercalate separator ?_ (List.cons_ne_nil _ _)
      exact fun part isPart => clean part (List.mem_cons_of_mem _ isPart)
  · intro h
    obtain ⟨later, rfl, clean, parts⟩ := h
    rw [List.splitOn_append_cons_self_of_not_mem clean, parts]

end ControlPlane.Library.TextParts

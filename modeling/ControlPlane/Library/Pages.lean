import Mathlib.Data.List.Lex
import Mathlib.Order.Lattice

/-! Reading an append-only log page by page. A page is a slice of fixed size; pages read one
after the other make up a prefix, and a sorted log has no row before a prefix's last one that
the prefix does not have.
-/

namespace ControlPlane.Library

variable {α : Type*}

/-- The number-th page of rows, counted from 1. -/
def page (rows : List α) (number size : Nat) : List α :=
  (rows.drop ((number - 1) * size)).take size

/-- Every row is on some page. -/
theorem mem_some_page {rows : List α} {row : α} {size : Nat} (positive : 0 < size)
    (member : row ∈ rows)
    : ∃ number, 1 ≤ number ∧ row ∈ page rows number size := by
  obtain ⟨index, found⟩ := List.getElem?_of_mem member
  refine ⟨index / size + 1, Nat.le_add_left _ _, ?_⟩
  have split := Nat.div_add_mod' index size
  have within := Nat.mod_lt index positive
  refine List.mem_of_getElem? (i := index % size) ?_
  rw [page, Nat.add_sub_cancel, List.getElem?_take_of_lt within, List.getElem?_drop, split, found]

/-- The page after the rows read so far extends them to a longer prefix. -/
theorem prefix_append_page {rows got : List α} {number size : Nat} (sofar : got <+: rows)
    (full : got.length = (number - 1) * size)
    : got ++ page rows number size <+: rows := by
  obtain ⟨rest, whole⟩ := sofar
  refine ⟨rest.drop size, ?_⟩
  rw [page, ← full, ← whole, List.drop_left, List.append_assoc, List.take_append_drop]

/-- A prefix of a log is one of the grown log. -/
theorem prefix_of_filter_append {rows added got : List α} {keep : α → Bool}
    (sofar : got <+: rows.filter keep)
    : got <+: (rows ++ added).filter keep := by
  rw [List.filter_append]
  exact sofar.trans (List.prefix_append _ _)

/-- In a sorted log, what lies strictly below a row of a prefix is in the prefix. -/
theorem mem_prefix_of_lt {κ : Type*} [LinearOrder κ] {key : α → κ} {rows got : List α}
    {row below : α} (sorted : rows.Pairwise fun first second => key first ≤ key second)
    (sofar : got <+: rows) (read : row ∈ got) (member : below ∈ rows) (less : key below < key row)
    : below ∈ got := by
  obtain ⟨rest, whole⟩ := sofar
  rw [← whole] at member sorted
  rcases List.mem_append.mp member with inPrefix | later
  · exact inPrefix
  · have ordered := (List.pairwise_append.mp sorted).2.2 row read below later
    exact absurd less (not_lt.mpr ordered)

/-- A difference within the first characters decides the order, by induction on the first
text.
-/
theorem lt_of_take_lt [LinearOrder α] {first second : List α} {length : Nat}
    (less : first.take length < second.take length)
    : first < second := by
  induction first generalizing second length with
  | nil =>
      cases second with
      | nil => simp at less
      | cons other tail => exact List.nil_lt_cons other tail
  | cons head rest ih =>
      cases length with
      | zero => simp at less
      | succ length =>
          cases second with
          | nil => simp at less
          | cons other tail =>
              rw [List.take_succ_cons, List.take_succ_cons, List.cons_lt_cons_iff] at less
              exact List.cons_lt_cons_iff.mpr (less.imp_right fun onward => ⟨onward.1, ih onward.2⟩)

/-- Cutting two texts to one length keeps their order. -/
theorem take_le_take [LinearOrder α] {first second : List α} (ordered : first ≤ second)
    (length : Nat)
    : first.take length ≤ second.take length :=
  not_lt.mp fun less => not_lt.mpr ordered (lt_of_take_lt less)

end ControlPlane.Library

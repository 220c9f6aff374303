import Mathlib.Data.List.Sort

/-! Lists sorted by a key. -/

namespace ControlPlane.Library

variable {α β : Type*} [LinearOrder β] (key : α → β)

def sortBy (list : List α) : List α :=
  list.insertionSort fun a b => key a ≤ key b

theorem sortBy_perm (list : List α) : (sortBy key list).Perm list :=
  List.perm_insertionSort _ list

theorem pairwise_sortBy (list : List α) : (sortBy key list).Pairwise fun a b => key a ≤ key b := by
  have total : Std.Total fun a b : α => key a ≤ key b := ⟨fun a b => le_total (key a) (key b)⟩
  have trans : IsTrans α fun a b => key a ≤ key b := ⟨fun _ _ _ => le_trans⟩
  exact List.pairwise_insertionSort _ list

variable {key}

/-- A list that is in order, and has the same items, is the sorted list. -/
theorem eq_sortBy {list sorted : List α}
    (distinct : ∀ a ∈ list, ∀ b ∈ list, key a = key b → a = b) (same : sorted.Perm list)
    (ordered : sorted.Pairwise fun a b => key a ≤ key b)
    : sorted = sortBy key list := by
  refine List.Perm.eq_of_pairwise ?_ ordered (pairwise_sortBy key list)
    (same.trans (sortBy_perm key list).symm)
  intro a b inside other below above
  exact distinct a (same.subset inside) b ((sortBy_perm key list).subset other)
    (le_antisymm below above)

/-- With distinct keys the order of the list makes no difference. -/
theorem sortBy_eq_of_perm_of_distinct {list other : List α}
    (distinct : ∀ a ∈ list, ∀ b ∈ list, key a = key b → a = b) (same : list.Perm other)
    : sortBy key list = sortBy key other :=
  (eq_sortBy distinct ((sortBy_perm key other).trans same.symm) (pairwise_sortBy key other)).symm

theorem sortBy_eq_of_perm (distinct : Function.Injective key) {list other : List α}
    (same : list.Perm other)
    : sortBy key list = sortBy key other :=
  sortBy_eq_of_perm_of_distinct (fun _ _ _ _ equal => distinct equal) same

/-- Items that are distinct are sorted strictly. -/
theorem pairwise_lt_sortBy {list : List α}
    (distinct : ∀ a ∈ list, ∀ b ∈ list, key a = key b → a = b) (nodup : list.Nodup)
    : (sortBy key list).Pairwise fun a b => key a < key b := by
  have apart : (sortBy key list).Nodup := (sortBy_perm key list).nodup_iff.mpr nodup
  have both := (pairwise_sortBy key list).and apart
  refine both.imp_of_mem fun {a b} inside other ⟨below, differ⟩ => ?_
  have listed := (sortBy_perm key list).subset inside
  have otherListed := (sortBy_perm key list).subset other
  exact lt_of_le_of_ne below fun same => differ (distinct a listed b otherListed same)

/-- A part sorted by itself is the front of the whole exactly where no item of it comes after an item
that is left out.
-/
theorem sortBy_prefix_iff {list part left : List α}
    (distinct : ∀ a ∈ list, ∀ b ∈ list, key a = key b → a = b)
    (split : list.Perm (part ++ left))
    : sortBy key part <+: sortBy key list ↔ ∀ a ∈ part, ∀ b ∈ left, key a ≤ key b := by
  constructor
  · intro h a inside b outside
    obtain ⟨rest, whole⟩ := h
    have perm : (sortBy key part ++ rest).Perm (part ++ left) := by
      rw [whole]
      exact (sortBy_perm key list).trans split
    have others : rest.Perm left :=
      (List.perm_append_left_iff part).mp
        (((sortBy_perm key part).symm.append_right rest).trans perm)
    have ordered := pairwise_sortBy key list
    rw [← whole, List.pairwise_append] at ordered
    exact ordered.2.2 a ((sortBy_perm key part).symm.subset inside) b (others.symm.subset outside)
  · intro before
    refine ⟨sortBy key left, ?_⟩
    refine eq_sortBy distinct ?_ ?_
    · exact ((sortBy_perm key part).append (sortBy_perm key left)).trans split.symm
    · rw [List.pairwise_append]
      refine ⟨pairwise_sortBy key part, pairwise_sortBy key left, ?_⟩
      intro a inside b outside
      exact before a ((sortBy_perm key part).subset inside) b ((sortBy_perm key left).subset outside)

end ControlPlane.Library

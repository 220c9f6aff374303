import ControlPlane.Library.KeyedTables

/-! Unique indexes over some of the rows of a table: CREATE UNIQUE INDEX ... WHERE covers. -/

namespace ControlPlane.Library

variable {ρ : Type*} {κ : Type*} {covers : ρ → Bool} {column : ρ → κ} {rows : List ρ}

/-- The values in an index. -/
def indexed (covers : ρ → Bool) (column : ρ → κ) (rows : List ρ) : List κ :=
  (rows.filter covers).map column

theorem mem_indexed {value : κ}
    : value ∈ indexed covers column rows ↔ ∃ row ∈ rows, covers row ∧ column row = value := by
  simp [indexed, and_assoc]

/-- A row may follow if none that the index covers has its value. -/
theorem nodup_indexed_append {row : ρ} (distinct : (indexed covers column rows).Nodup)
    (new : ∀ old ∈ rows, covers old → column old ≠ column row)
    : (indexed covers column (rows ++ [row])).Nodup := by
  unfold indexed at distinct ⊢
  rw [List.filter_append]
  cases covered : covers row with
  | true =>
      have alone : [row].filter covers = [row] := by simp [covered]
      rw [alone]
      refine nodup_append_singleton distinct fun old member => ?_
      obtain ⟨isRow, isCovered⟩ := List.mem_filter.mp member
      exact new old isRow isCovered
  | false =>
      have nothing : [row].filter covers = [] := by simp [covered]
      rw [nothing, List.append_nil]
      exact distinct

/-- Where each row keeps its value and none comes under the index, the values are some of those
there were. By induction on the rows.
-/
theorem indexed_map_sublist {change : ρ → ρ}
    (kept : ∀ row, column (change row) = column row)
    (uncovered : ∀ row, covers (change row) → covers row)
    : (indexed covers column (rows.map change)).Sublist (indexed covers column rows) := by
  unfold indexed
  induction rows with
  | nil => exact .slnil
  | cons row rest ih =>
      rw [List.map_cons, List.filter_cons, List.filter_cons]
      by_cases after : covers (change row)
      · rw [if_pos after, if_pos (uncovered row after), List.map_cons, List.map_cons, kept]
        exact ih.cons_cons _
      · rw [if_neg after]
        split
        · exact ih.cons _
        · exact ih

end ControlPlane.Library

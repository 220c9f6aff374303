import Mathlib.Data.List.Induction

/-! A trailing count bounds every window. Each item is admitted only while fewer than a cap of the
items before it lie less than a window back, and so no window holds more than the cap.
-/

namespace ControlPlane.Library

variable {α : Type*}

/-- (TrailingBelow time window cap items) says that each item had fewer than cap items before it
in the window that ends with it.
-/
def TrailingBelow (time : α → Nat) (window cap : Nat) (items : List α) : Prop :=
  ∀ before last after, items = before ++ last :: after
    → before.countP (fun item => time last < time item + window) < cap

/-- The next item extends an admitted list exactly when its own count is below the cap. -/
theorem TrailingBelow.snoc {time : α → Nat} {window cap : Nat} {items : List α} {last : α}
    (admitted : TrailingBelow time window cap items)
    (below : items.countP (fun item => time last < time item + window) < cap)
    : TrailingBelow time window cap (items ++ [last]) := by
  intro before other after cut
  rcases List.eq_nil_or_concat after with isEnd | ⟨init, final, isMore⟩
  · subst isEnd
    obtain ⟨same, isLast⟩ := List.append_inj' cut rfl
    rw [← List.head_eq_of_cons_eq isLast, ← same]
    exact below
  · subst isMore
    have cut' : items ++ [last] = (before ++ other :: init) ++ [final] := by
      simpa using cut
    exact admitted before other init (List.append_inj' cut' rfl).1

/-- No half-open window holds more items than the cap, by induction on the last one: if it is in
the window, then those of the window before it are in its own trailing window.
-/
theorem TrailingBelow.window_le {time : α → Nat} {window cap : Nat} {items : List α}
    (admitted : TrailingBelow time window cap items) (start : Nat)
    : items.countP (fun item => start ≤ time item ∧ time item < start + window) ≤ cap := by
  induction items using List.reverseRecOn with
  | nil => exact Nat.zero_le cap
  | append_singleton init last ih =>
      have earlier : TrailingBelow time window cap init := by
        intro before other after cut
        exact admitted before other (after ++ [last]) (by simp [cut])
      rw [List.countP_append, List.countP_singleton]
      by_cases inside : start ≤ time last ∧ time last < start + window
      · have trailing := admitted init last [] rfl
        have among : init.countP (fun item => start ≤ time item ∧ time item < start + window)
            ≤ init.countP (fun item => time last < time item + window) := by
          refine List.countP_mono_left fun item _ inWindow => ?_
          simp only [decide_eq_true_eq] at inWindow ⊢
          omega
        rw [if_pos (decide_eq_true inside)]
        omega
      · rw [if_neg (by simpa using inside)]
        exact ih earlier

end ControlPlane.Library

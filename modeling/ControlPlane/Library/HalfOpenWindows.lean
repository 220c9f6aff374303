import Mathlib.Algebra.BigOperators.Group.List.Basic
import Mathlib.Order.Lattice

/-! Half-open windows over a linear order. Consecutive windows share no instant and leave none
out, so a total over their union is the sum of the totals over each of them.
-/

namespace ControlPlane.Library

variable {τ : Type*} {ι : Type*} {M : Type*}

/-- The windows that the instants between a first and a last one cut. -/
def windows : τ → List τ → τ → List (τ × τ)
  | first, [], last => [(first, last)]
  | first, next :: rest, last => (first, next) :: windows next rest last

variable [LinearOrder τ]

/-- What has an instant falls in a window that holds it. The end is not in the window. -/
def falls (window : τ × τ) (instant : Option τ) : Bool :=
  instant.any fun at' => window.1 ≤ at' ∧ at' < window.2

/-- A window that is cut in two holds an instant when one of the two parts does. -/
theorem falls_cut {first middle last : τ} (before : first ≤ middle) (after : middle ≤ last)
    (instant : Option τ)
    : falls (first, last) instant
      = (falls (first, middle) instant || falls (middle, last) instant) := by
  cases instant with
  | none => rfl
  | some at' =>
      rw [Bool.eq_iff_iff, Bool.or_eq_true]
      simp only [falls, Option.any_some, decide_eq_true_eq]
      constructor
      · intro held
        rcases lt_or_ge at' middle with early | late
        · exact .inl ⟨held.1, early⟩
        · exact .inr ⟨late, held.2⟩
      · intro held
        rcases held with early | late
        · exact ⟨early.1, early.2.trans_le after⟩
        · exact ⟨before.trans late.1, late.2⟩

/-- Adjacent windows share no instant. -/
theorem falls_apart {first middle last : τ} {instant : Option τ}
    (early : falls (first, middle) instant)
    : falls (middle, last) instant = false := by
  cases instant with
  | none => rfl
  | some at' =>
      simp only [falls, Option.any_some, decide_eq_true_eq] at early
      simp only [falls, Option.any_some, decide_eq_false_iff_not, not_and]
      exact fun late => absurd early.2 (not_lt.mpr late)

variable [AddCommMonoid M]

/-- A total over what one of two exclusive tests selects is the sum of the two totals, by
induction on the items.
-/
theorem sum_filter_or {whole one other : ι → Bool} {items : List ι} (measure : ι → M)
    (either : ∀ item ∈ items, whole item = (one item || other item))
    (apart : ∀ item ∈ items, one item → other item = false)
    : ((items.filter whole).map measure).sum
      = ((items.filter one).map measure).sum + ((items.filter other).map measure).sum := by
  induction items with
  | nil => simp
  | cons head rest ih =>
      have onRest := ih (fun item member => either item (List.mem_cons_of_mem _ member))
        fun item member => apart item (List.mem_cons_of_mem _ member)
      have onHead := either head List.mem_cons_self
      by_cases isOne : one head
      · have notOther := apart head List.mem_cons_self isOne
        simp [onHead, isOne, notOther, onRest, add_assoc]
      · by_cases isOther : other head
        · simp [onHead, isOne, isOther, onRest, add_left_comm]
        · simp [onHead, isOne, isOther, onRest]

/-- The totals over consecutive windows add up to the total from the first instant to the last,
by induction on the instants between them.
-/
theorem sum_windows (instant : ι → Option τ) (measure : ι → M) (items : List ι) {first last : τ}
    {between : List τ} (increasing : (first :: (between ++ [last])).Pairwise (· < ·))
    : ((windows first between last).map fun window =>
        ((items.filter fun item => falls window (instant item)).map measure).sum).sum
      = ((items.filter fun item => falls (first, last) (instant item)).map measure).sum := by
  induction between generalizing first with
  | nil => simp [windows]
  | cons next rest ih =>
      obtain ⟨fromFirst, later⟩ := List.pairwise_cons.mp increasing
      have toNext : first < next := fromFirst next (by simp)
      have toLast : next < last := (List.pairwise_cons.mp later).1 last (by simp)
      rw [windows, List.map_cons, List.sum_cons, ih later]
      refine (sum_filter_or measure ?_ ?_).symm
      · exact fun item _ => falls_cut toNext.le toLast.le (instant item)
      · exact fun item _ => falls_apart

end ControlPlane.Library

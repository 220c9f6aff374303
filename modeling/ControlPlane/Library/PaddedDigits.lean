import Mathlib.Data.List.Lex
import Mathlib.Data.Nat.Digits.Defs
import Mathlib.Order.Defs.LinearOrder
import Mathlib.Tactic.Linarith

/-! Numbers written with a fixed number of decimal digits: texts of one width are in the order of
the numbers.
-/

namespace ControlPlane.Library

/-- The last digits of a number. -/
def padded : Nat → Nat → List Char
  | 0, _ => []
  | width + 1, n => padded width (n / 10) ++ [(n % 10).digitChar]

@[simp] theorem length_padded (width n : Nat) : (padded width n).length = width := by
  induction width generalizing n with
  | zero => rfl
  | succ width ih => simp [padded, ih]

@[simp] theorem padded_zero (width : Nat) : padded width 0 = List.replicate width '0' := by
  induction width with
  | zero => rfl
  | succ width ih =>
      simp only [padded, Nat.zero_div, ih, List.replicate_succ']
      rfl

/-- All that is written is a digit, by induction on the width. -/
theorem exists_of_mem_padded {width n : Nat} {c : Char} (written : c ∈ padded width n)
    : ∃ digit < 10, c = Nat.digitChar digit := by
  induction width generalizing n with
  | zero => exact nomatch written
  | succ width ih =>
      rcases List.mem_append.mp written with front | last
      · exact ih front
      · exact ⟨n % 10, Nat.mod_lt n (by decide), List.mem_singleton.mp last⟩

theorem leftpad_append (width : Nat) (c pad : Char) (digits : List Char)
    : (digits ++ [c]).leftpad (width + 1) pad = digits.leftpad width pad ++ [c] := by
  simp [List.leftpad]

/-- A number that fits its width is its digits with zeros in front, by induction on the width. -/
theorem leftpad_toDigits {width n : Nat} (fits : n < 10 ^ (width + 1))
    : (Nat.toDigits 10 n).leftpad (width + 1) '0' = padded (width + 1) n := by
  induction width generalizing n with
  | zero =>
      have small : n < 10 := by simpa using fits
      simp [padded, Nat.toDigits_of_lt_base small, Nat.mod_eq_of_lt small, List.leftpad]
  | succ width ih =>
      have shorter : n / 10 < 10 ^ (width + 1) := by
        rw [Nat.pow_succ] at fits
        omega
      rw [padded, ← ih shorter]
      by_cases small : n < 10
      · simp [Nat.toDigits_of_lt_base small, Nat.div_eq_of_lt small, Nat.mod_eq_of_lt small,
          List.leftpad, ← List.replicate_succ']
      · rw [Nat.toDigits_of_base_le (by decide) (Nat.le_of_not_lt small), leftpad_append]

/-- The digits are read back as the number, by induction on the width. -/
theorem ofDigitChars_padded (width : Nat) {n : Nat} (fits : n < 10 ^ width)
    : Nat.ofDigitChars 10 (padded width n) 0 = n := by
  induction width generalizing n with
  | zero =>
      have nothing : n = 0 := by simpa using fits
      rw [nothing]
      rfl
  | succ width ih =>
      have shorter : n / 10 < 10 ^ width := by
        rw [Nat.pow_succ] at fits
        omega
      have last : n % 10 < 10 := Nat.mod_lt n (by decide)
      rw [padded, Nat.ofDigitChars_append, ih shorter,
        Nat.ofDigitChars_cons_digitChar_of_lt_ten last, Nat.ofDigitChars_nil]
      omega

-----------------------------------------------------------------------------------------
-- Order
-----------------------------------------------------------------------------------------

theorem digitChar_lt {low high : Nat} (less : low < high) (digit : high < 10)
    : low.digitChar < high.digitChar := by
  have all : ∀ high < 10, ∀ low < high, low.digitChar < high.digitChar := by decide
  exact all high digit low less

/-- What follows makes no difference to texts of one length that differ. -/
theorem lex_append {α : Type*} {less : α → α → Prop} {first second : List α}
    (before : List.Lex less first second) (sameLength : first.length = second.length)
    (x y : List α)
    : List.Lex less (first ++ x) (second ++ y) := by
  induction before with
  | nil => exact nomatch sameLength
  | cons _ ih => exact .cons (ih (Nat.succ.inj sameLength))
  | rel here => exact .rel here

/-- Texts of one width are in the order of their numbers, by induction on the width. -/
theorem lex_padded {width n m : Nat} (less : n < m) (fits : m < 10 ^ width)
    : List.Lex (· < ·) (padded width n) (padded width m) := by
  induction width generalizing n m with
  | zero => omega
  | succ width ih =>
      have shorter : m / 10 < 10 ^ width := by
        rw [Nat.pow_succ] at fits
        omega
      rcases Nat.lt_or_ge (n / 10) (m / 10) with front | back
      · exact lex_append (ih front shorter) (by simp) _ _
      · have same : n / 10 = m / 10 := by omega
        rw [padded, padded, same]
        refine List.Lex.append_left _ (.rel ?_) _
        exact digitChar_lt (by omega) (Nat.mod_lt m (by decide))

/-- A field and what follows it: the number decides, and then the rest. -/
theorem lex_field {width n m : Nat} {x y : List Char} (fits : m < 10 ^ width)
    (before : n < m ∨ n = m ∧ List.Lex (· < ·) x y)
    : List.Lex (· < ·) (padded width n ++ x) (padded width m ++ y) := by
  rcases before with less | ⟨same, later⟩
  · exact lex_append (lex_padded less fits) (by simp) x y
  · rw [same]
    exact List.Lex.append_left _ later _

theorem padded_injective {width n m : Nat} (small : n < 10 ^ width) (fits : m < 10 ^ width)
    (same : padded width n = padded width m)
    : n = m := by
  rw [← ofDigitChars_padded width small, same, ofDigitChars_padded width fits]

end ControlPlane.Library

import ControlPlane.LlmSpend.Rollup

/-! Amounts as PayPal spells them, and as the ledger counts them. The conversions are in doubles, and
exact where every number on the way is a safe integer.
-/

namespace ControlPlane.PayPal

open ControlPlane.LlmSpend (nearestDouble roundHalfEven)

def MICRO_PER_USD : ℚ := 1000000

/-- Whole cents in micro-USD. -/
def MICRO_PER_CENT : ℚ := 10000

def MAX_SAFE_INTEGER : ℚ := 2 ^ 53 - 1

/-- Number.isSafeInteger. -/
def isSafeInteger (value : ℚ) : Bool :=
  value.den = 1 ∧ |value| ≤ MAX_SAFE_INTEGER

/-- Number of a run of decimal digits. What is Infinity for the source is finite here, and no safe
integer either.
-/
def numberOf (digits : List Char) : ℚ :=
  nearestDouble (Nat.ofDigitChars 10 digits 0)

/-- Integer micro-USD to a PayPal value. Leftover micros that are not whole cents are refused. -/
def microUsdToPayPalValue (micro : Int) : Option String :=
  if !isSafeInteger micro ∨ micro ≤ 0 ∨ micro % 10000 ≠ 0 then none
  else
    let dollars := ⌊nearestDouble (micro / MICRO_PER_USD)⌋
    let cents := ⌊nearestDouble ((micro % 1000000 : Int) / MICRO_PER_CENT)⌋
    some (toString dollars ++ "." ++ String.ofList ((toString cents).toList.leftpad 2 '0'))

/-- A PayPal value to micro-USD: /^([0-9]+)\.([0-9]{2})$/. -/
def paypalValueToMicroUsd (value : String) : Option Int :=
  match value.toList.splitOn '.' with
  | [whole, [tens, units]] =>
      if whole ≠ [] ∧ whole.all Char.isDigit ∧ tens.isDigit ∧ units.isDigit then
        let dollars := numberOf whole
        let cents := numberOf [tens, units]
        let micro :=
          nearestDouble
            (nearestDouble (dollars * MICRO_PER_USD) + nearestDouble (cents * MICRO_PER_CENT))
        if isSafeInteger micro then some ⌊micro⌋ else none
      else none
  | _ => none

/-- An amount of cents as PayPal spells it. -/
def twoDecimals (cents : Nat) : String :=
  String.ofList
    (Nat.toDigits 10 (cents / 100)
      ++ ['.', (cents % 100 / 10).digitChar, (cents % 10).digitChar])

-----------------------------------------------------------------------------------------
-- Safe integers are exact
-----------------------------------------------------------------------------------------

theorem roundHalfEven_intCast (n : ℤ) : roundHalfEven n = n := by
  simp [roundHalfEven]

/-- A whole number below 2^53 is a double, by its quantum being a power of two that divides one. -/
theorem nearestDouble_natCast {n : ℕ} (small : n < 2 ^ 53) : nearestDouble n = n := by
  have log : Int.log 2 (n : ℚ) ≤ 52 := by
    rw [Int.log_natCast]
    exact_mod_cast Nat.lt_succ_iff.mp (Nat.log_lt_of_lt_pow' (by decide) small)
  obtain ⟨k, isExponent⟩ : ∃ k : ℕ, max (Int.log 2 (n : ℚ) - 52) (-1074) = -(k : ℤ) :=
    ⟨(-max (Int.log 2 (n : ℚ) - 52) (-1074)).toNat, by omega⟩
  have positive : (2 : ℚ) ^ k ≠ 0 := pow_ne_zero k two_ne_zero
  have scaled : (n : ℚ) / (2 ^ k)⁻¹ = ((n * 2 ^ k : ℕ) : ℤ) := by
    push_cast
    rw [div_inv_eq_mul]
  rw [nearestDouble, isExponent, zpow_neg, zpow_natCast, scaled, roundHalfEven_intCast]
  push_cast
  exact mul_inv_cancel_right₀ positive _

theorem isSafeInteger_natCast {n : ℕ} (small : n < 2 ^ 53) : isSafeInteger n = true := by
  have within : (n : ℚ) ≤ 2 ^ 53 - 1 := by
    have bound : n + 1 ≤ 2 ^ 53 := small
    have cast : ((n + 1 : ℕ) : ℚ) ≤ ((2 ^ 53 : ℕ) : ℚ) := by exact_mod_cast bound
    push_cast at cast
    linarith
  simp [isSafeInteger, MAX_SAFE_INTEGER, within]

theorem le_of_isSafeInteger {value : ℚ} (safe : isSafeInteger value = true)
    : value ≤ 2 ^ 53 - 1 :=
  (le_abs_self value).trans (of_decide_eq_true safe).2

/-- The digits of two places are read back. -/
theorem ofDigitChars_two {cents : ℕ} (small : cents < 100)
    : Nat.ofDigitChars 10 [(cents / 10).digitChar, (cents % 10).digitChar] 0 = cents := by
  rw [Nat.ofDigitChars_cons_digitChar_of_lt_ten (by omega),
    Nat.ofDigitChars_cons_digitChar_of_lt_ten (by omega), Nat.ofDigitChars_nil]
  omega

theorem isDigit_digitChar {n : ℕ} (small : n < 10) : n.digitChar.isDigit = true := by
  rw [Nat.isDigit_digitChar]
  exact decide_eq_true small

/-- The two places behind the point. -/
def places (cents : ℕ) : List Char :=
  [(cents % 100 / 10).digitChar, (cents % 10).digitChar]

/-- What PayPal spells is cut at its one point. -/
theorem splitOn_twoDecimals (cents : ℕ)
    : (twoDecimals cents).toList.splitOn '.' = [Nat.toDigits 10 (cents / 100), places cents] := by
  have noPoint : ∀ c : Char, c.isDigit = true → c ≠ '.' := by
    intro c digit h
    obtain rfl := h
    exact absurd digit (by decide)
  have joined
      : (twoDecimals cents).toList
        = ['.'].intercalate [Nat.toDigits 10 (cents / 100), places cents] := by
    simp [twoDecimals, places, List.intercalate]
  rw [joined]
  refine List.splitOn_intercalate '.' ?_ (List.cons_ne_nil _ _)
  intro part isPart point
  have digit : ('.' : Char).isDigit = true := by
    rcases List.mem_cons.mp isPart with isWhole | isPlaces
    · exact Nat.isDigit_of_mem_toDigits (by decide) (Nat.le_refl 10) (isWhole ▸ point)
    · rw [List.mem_singleton.mp isPlaces] at point
      rcases List.mem_cons.mp point with isTens | isUnits
      · rw [isTens]
        exact isDigit_digitChar (by omega)
      · rw [List.mem_singleton.mp isUnits]
        exact isDigit_digitChar (by omega)
  exact noPoint '.' digit rfl

/-- What PayPal spells is read back exactly, up to the largest safe integer. -/
theorem paypalValueToMicroUsd_twoDecimals {cents : ℕ} (safe : cents * 10000 < 2 ^ 53)
    : paypalValueToMicroUsd (twoDecimals cents) = some ((cents * 10000 : ℕ) : ℤ) := by
  have dollarsPart : cents / 100 * 1000000 ≤ cents * 10000 := by omega
  have leftPart : cents % 100 * 10000 ≤ cents * 10000 :=
    Nat.mul_le_mul_right 10000 (Nat.mod_le cents 100)
  have whole : numberOf (Nat.toDigits 10 (cents / 100)) = (cents / 100 : ℕ) := by
    rw [numberOf, Nat.ofDigitChars_ten_toDigits]
    exact nearestDouble_natCast (by omega)
  have behind : numberOf (places cents) = (cents % 100 : ℕ) := by
    have same : cents % 10 = cents % 100 % 10 := by omega
    rw [numberOf, places, same, ofDigitChars_two (Nat.mod_lt cents (by decide))]
    exact nearestDouble_natCast (by omega)
  have dollars : ((cents / 100 : ℕ) : ℚ) * MICRO_PER_USD = (cents / 100 * 1000000 : ℕ) := by
    rw [MICRO_PER_USD]
    push_cast
    rfl
  have left : ((cents % 100 : ℕ) : ℚ) * MICRO_PER_CENT = (cents % 100 * 10000 : ℕ) := by
    rw [MICRO_PER_CENT]
    push_cast
    rfl
  have sum
      : ((cents / 100 * 1000000 : ℕ) : ℚ) + (cents % 100 * 10000 : ℕ) = (cents * 10000 : ℕ) := by
    rw [← Nat.cast_add]
    exact congrArg Nat.cast (by omega)
  have digits
      : Nat.toDigits 10 (cents / 100) ≠ []
        ∧ (Nat.toDigits 10 (cents / 100)).all Char.isDigit = true
        ∧ (cents % 100 / 10).digitChar.isDigit = true ∧ (cents % 10).digitChar.isDigit = true :=
    ⟨Nat.toDigits_ne_nil,
      List.all_eq_true.mpr fun c member =>
        Nat.isDigit_of_mem_toDigits (by decide) (Nat.le_refl 10) member,
      isDigit_digitChar (by omega), isDigit_digitChar (by omega)⟩
  rw [paypalValueToMicroUsd, splitOn_twoDecimals, places]
  dsimp only
  rw [if_pos digits, ← places, whole, behind, dollars, left,
    nearestDouble_natCast (dollarsPart.trans_lt safe),
    nearestDouble_natCast (leftPart.trans_lt safe), sum, nearestDouble_natCast safe,
    if_pos (isSafeInteger_natCast safe), Int.floor_natCast]

end ControlPlane.PayPal

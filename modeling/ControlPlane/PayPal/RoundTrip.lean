import ControlPlane.PayPal.Amounts

/-! Amounts there and back. Whatever is rounded on the way, an amount that passes the safe-integer
test at the end was exact at every step before.
-/

namespace ControlPlane.PayPal

open ControlPlane.LlmSpend (nearestDouble roundHalfEven)

-----------------------------------------------------------------------------------------
-- How far a double is from what it stands for
-----------------------------------------------------------------------------------------

/-- The distance between the doubles around a number. -/
def quantum (value : ℚ) : ℚ :=
  2 ^ max (Int.log 2 value - 52) (-1074)

theorem quantum_pos (value : ℚ) : 0 < quantum value :=
  zpow_pos two_pos _

theorem nearestDouble_eq (value : ℚ)
    : nearestDouble value = roundHalfEven (value / quantum value) * quantum value := rfl

theorem floor_le_roundHalfEven (value : ℚ) : ⌊value⌋ ≤ roundHalfEven value := by
  unfold roundHalfEven
  dsimp only
  split_ifs <;> omega

theorem roundHalfEven_le (value : ℚ) : (roundHalfEven value : ℚ) ≤ value + 1 / 2 := by
  have below := Int.floor_le value
  unfold roundHalfEven
  dsimp only
  split_ifs with near far even
  · linarith
  · push_cast
    linarith
  · linarith
  · push_cast
    linarith

/-- A multiple of the distance that is not above a number is not above its double. -/
theorem le_nearestDouble {value : ℚ} {k : ℤ} (below : k * quantum value ≤ value)
    : k * quantum value ≤ nearestDouble value := by
  have scaled : (k : ℚ) ≤ value / quantum value := (le_div_iff₀ (quantum_pos value)).mpr below
  have rounded : k ≤ roundHalfEven (value / quantum value) :=
    (Int.le_floor.mpr scaled).trans (floor_le_roundHalfEven _)
  rw [nearestDouble_eq]
  exact mul_le_mul_of_nonneg_right (by exact_mod_cast rounded) (quantum_pos value).le

/-- A double is half a distance above its number at most. -/
theorem nearestDouble_le (value : ℚ) : nearestDouble value ≤ value + quantum value / 2 := by
  have positive := quantum_pos value
  have rounded := mul_le_mul_of_nonneg_right (roundHalfEven_le (value / quantum value))
    positive.le
  have same : (value / quantum value + 1 / 2) * quantum value = value + quantum value / 2 := by
    field_simp
  rw [nearestDouble_eq]
  exact rounded.trans_eq same

/-- From 2^53 on, a double stays there: the power of two below a number is a double. -/
theorem two_pow_le_nearestDouble {value : ℚ} (large : 2 ^ 53 ≤ value)
    : 2 ^ 53 ≤ nearestDouble value := by
  have positive : 0 < value := lt_of_lt_of_le (by norm_num) large
  have log : 53 ≤ Int.log 2 value := by
    refine (Int.zpow_le_iff_le_log (by norm_num) positive).mp ?_
    exact_mod_cast large
  have isQuantum : quantum value = 2 ^ (Int.log 2 value - 52) := by
    rw [quantum, max_eq_left (by omega)]
  have isPower : ((2 ^ 52 : ℤ) : ℚ) * quantum value = 2 ^ Int.log 2 value := by
    have shifted : (2 : ℚ) ^ (Int.log 2 value) = 2 ^ (52 : ℤ) * 2 ^ (Int.log 2 value - 52) := by
      rw [← zpow_add₀ two_ne_zero]
      congr 1
      omega
    rw [isQuantum, shifted]
    norm_cast
  have below : ((2 ^ 52 : ℤ) : ℚ) * quantum value ≤ value := by
    rw [isPower]
    exact_mod_cast Int.zpow_log_le_self (by norm_num : 1 < 2) positive
  refine le_trans ?_ (le_nearestDouble below)
  rw [isPower]
  have grows : (2 : ℚ) ^ (53 : ℤ) ≤ 2 ^ Int.log 2 value :=
    zpow_le_zpow_right₀ (by norm_num) log
  exact_mod_cast grows

/-- What is rounded to less than 2^53 was less than that. -/
theorem lt_of_nearestDouble_lt {value : ℚ} (small : nearestDouble value < 2 ^ 53)
    : value < 2 ^ 53 := by
  by_contra large
  exact absurd (two_pow_le_nearestDouble (not_lt.mp large)) (not_le.mpr small)

/-- A whole number that is rounded to less than 2^53 is not rounded at all. -/
theorem nearestDouble_exact {n : ℕ} (small : nearestDouble n < 2 ^ 53)
    : nearestDouble n = n ∧ n < 2 ^ 53 := by
  have less : n < 2 ^ 53 := by exact_mod_cast lt_of_nearestDouble_lt small
  exact ⟨nearestDouble_natCast less, less⟩

/-- A number a hundredth short of the next whole number at least is not rounded up to it. -/
theorem floor_nearestDouble {n : ℕ} {value : ℚ} (positive : 0 < value) (below : n ≤ value)
    (above : value ≤ n + 99 / 100) (small : value < 2 ^ 34)
    : ⌊nearestDouble value⌋ = n := by
  have log : Int.log 2 value ≤ 33 := by
    have less := (Int.lt_zpow_iff_log_lt (b := 2) (x := 34) (by norm_num) positive).mp
      (by exact_mod_cast small)
    omega
  obtain ⟨k, isExponent, fine⟩
      : ∃ k : ℕ, max (Int.log 2 value - 52) (-1074) = -(k : ℤ) ∧ 19 ≤ k :=
    ⟨(-max (Int.log 2 value - 52) (-1074)).toNat, by omega, by omega⟩
  have isQuantum : quantum value = (2 ^ k)⁻¹ := by
    rw [quantum, isExponent, zpow_neg, zpow_natCast]
  have nonzero : (2 : ℚ) ^ k ≠ 0 := pow_ne_zero k two_ne_zero
  have whole : (n : ℚ) = ((n * 2 ^ k : ℕ) : ℤ) * quantum value := by
    rw [isQuantum]
    push_cast
    exact (mul_inv_cancel_right₀ nonzero _).symm
  have atLeast : (n : ℚ) ≤ nearestDouble value := by
    rw [whole]
    refine le_nearestDouble ?_
    rw [← whole]
    exact below
  have tiny : quantum value ≤ (2 ^ 19)⁻¹ := by
    rw [isQuantum]
    exact inv_anti₀ (by norm_num) (pow_le_pow_right₀ (by norm_num) fine)
  have lessThan : nearestDouble value < n + 1 := by
    have close := nearestDouble_le value
    have bound : (2 ^ 19 : ℚ)⁻¹ / 2 < 1 / 100 := by norm_num
    linarith
  exact Int.floor_eq_iff.mpr ⟨by exact_mod_cast atLeast, by exact_mod_cast lessThan⟩

-----------------------------------------------------------------------------------------
-- Digits
-----------------------------------------------------------------------------------------

/-- A digit is the digit of its value. -/
theorem digitChar_of_isDigit {c : Char} (digit : c.isDigit = true)
    : c.toNat - 48 < 10 ∧ (c.toNat - 48).digitChar = c := by
  have between : 48 ≤ c.toNat ∧ c.toNat ≤ 57 := by
    simpa [Char.isDigit, UInt32.le_iff_toNat_le] using digit
  have back : ∀ code ∈ List.range' 48 10, (code - 48).digitChar = Char.ofNat code := by decide
  have member : c.toNat ∈ List.range' 48 10 := List.mem_range'_1.mpr ⟨between.1, by omega⟩
  refine ⟨by omega, ?_⟩
  rw [back c.toNat member, Char.ofNat_toNat]

/-- Digits behind a number that is not zero are its further digits, by induction on them. -/
theorem toDigits_ofDigitChars {digits : List Char} (all : digits.all Char.isDigit = true)
    {front : ℕ} (positive : 0 < front)
    : Nat.toDigits 10 (Nat.ofDigitChars 10 digits front) = Nat.toDigits 10 front ++ digits := by
  induction digits generalizing front with
  | nil => simp
  | cons c rest ih =>
      rw [List.all_cons, Bool.and_eq_true] at all
      obtain ⟨isDigit, others⟩ := all
      obtain ⟨small, back⟩ := digitChar_of_isDigit isDigit
      have code : '0'.toNat = 48 := rfl
      rw [Nat.ofDigitChars_cons, ih others (by omega), code,
        ← Nat.toDigits_append_toDigits (by decide) positive small,
        Nat.toDigits_of_lt_base small, back, List.append_assoc]
      rfl

/-- A text without zeros that have a digit behind them at its front. -/
def withoutLeadingZeros : List Char → List Char
  | '0' :: c :: rest => if c.isDigit then withoutLeadingZeros (c :: rest) else '0' :: c :: rest
  | chars => chars

/-- What is left of digits without leading zeros is the number that they are, by induction on the
digits.
-/
theorem withoutLeadingZeros_eq {whole : List Char} (filled : whole ≠ [])
    (all : whole.all Char.isDigit = true) (behind : List Char)
    : withoutLeadingZeros (whole ++ '.' :: behind)
      = Nat.toDigits 10 (Nat.ofDigitChars 10 whole 0) ++ '.' :: behind := by
  induction whole with
  | nil => exact absurd rfl filled
  | cons c rest ih =>
      rw [List.all_cons, Bool.and_eq_true] at all
      obtain ⟨isDigit, others⟩ := all
      obtain ⟨small, back⟩ := digitChar_of_isDigit isDigit
      by_cases zero : c = '0'
      · subst zero
        have skipped : Nat.ofDigitChars 10 ('0' :: rest) 0 = Nat.ofDigitChars 10 rest 0 := by
          rw [Nat.ofDigitChars_cons]
          rfl
        cases rest with
        | nil => rfl
        | cons next later =>
            have nextDigit : next.isDigit = true := by
              rw [List.all_cons, Bool.and_eq_true] at others
              exact others.1
            rw [skipped, ← ih (List.cons_ne_nil _ _) others, List.cons_append, List.cons_append,
              withoutLeadingZeros, if_pos nextDigit]
      · have positive : 0 < c.toNat - 48 := by
          by_contra none
          rw [Nat.eq_zero_of_not_pos none] at back
          exact zero back.symm
        have unchanged : withoutLeadingZeros (c :: (rest ++ '.' :: behind))
            = c :: (rest ++ '.' :: behind) := by
          rw [withoutLeadingZeros]
          exact fun _ _ same => absurd (List.cons.inj same).1 zero
        have code : '0'.toNat = 48 := rfl
        rw [List.cons_append, unchanged, Nat.ofDigitChars_cons, Nat.mul_zero, Nat.zero_add, code,
          toDigits_ofDigitChars others positive, Nat.toDigits_of_lt_base small, back]
        rfl

-----------------------------------------------------------------------------------------
-- Dollars and cents
-----------------------------------------------------------------------------------------

theorem toString_natCast (n : ℕ) : toString (n : ℤ) = String.ofList (Nat.toDigits 10 n) := rfl

/-- Cents are spelled with two digits. -/
theorem leftpad_cents {cents : ℕ} (small : cents < 100)
    : (toString ((cents : ℕ) : ℤ)).toList.leftpad 2 '0'
      = [(cents / 10).digitChar, (cents % 10).digitChar] := by
  have each : ∀ cents < 100, (Nat.toDigits 10 cents).leftpad 2 '0'
      = [(cents / 10).digitChar, (cents % 10).digitChar] := by
    decide
  rw [toString_natCast, String.toList_ofList, each cents small]

/-- An amount that passes is spelled in dollars and cents. -/
theorem microUsdToPayPalValue_natCast {cents : ℕ} (positive : 0 < cents)
    (safe : cents * 10000 < 2 ^ 53)
    : microUsdToPayPalValue ((cents * 10000 : ℕ) : ℤ) = some (twoDecimals cents) := by
  have isSafe : isSafeInteger (((cents * 10000 : ℕ) : ℤ) : ℚ) = true := by
    exact_mod_cast isSafeInteger_natCast safe
  have allowed : ¬ ((!isSafeInteger (((cents * 10000 : ℕ) : ℤ) : ℚ)) = true
      ∨ ((cents * 10000 : ℕ) : ℤ) ≤ 0 ∨ ((cents * 10000 : ℕ) : ℤ) % 10000 ≠ 0) := by
    rw [isSafe]
    intro h
    rcases h with unsafeAmount | negative | split
    · exact nomatch unsafeAmount
    · omega
    · omega
  have dollars : ⌊nearestDouble ((((cents * 10000 : ℕ) : ℤ) : ℚ) / MICRO_PER_USD)⌋
      = ((cents / 100 : ℕ) : ℤ) := by
    have isQuotient : (((cents * 10000 : ℕ) : ℤ) : ℚ) / MICRO_PER_USD = cents / 100 := by
      rw [MICRO_PER_USD]
      push_cast
      ring
    have parts : (cents : ℚ) = (cents / 100 : ℕ) * 100 + (cents % 100 : ℕ) := by
      exact_mod_cast (Nat.div_add_mod' cents 100).symm
    have left : ((cents % 100 : ℕ) : ℚ) ≤ 99 := by
      exact_mod_cast Nat.le_of_lt_succ (Nat.mod_lt cents (by decide))
    have small : (cents : ℚ) < 2 ^ 40 := by
      have less : cents < 2 ^ 40 := by omega
      exact_mod_cast less
    have above : (0 : ℚ) < cents := by exact_mod_cast positive
    have nonneg : (0 : ℚ) ≤ (cents % 100 : ℕ) := by positivity
    rw [isQuotient]
    refine floor_nearestDouble (by positivity) ?_ ?_ ?_
    · linarith
    · linarith
    · linarith
  have left : ⌊nearestDouble (((((cents * 10000 : ℕ) : ℤ) % 1000000 : ℤ) : ℚ) / MICRO_PER_CENT)⌋
      = ((cents % 100 : ℕ) : ℤ) := by
    have isRest : ((cents * 10000 : ℕ) : ℤ) % 1000000 = ((cents % 100 * 10000 : ℕ) : ℤ) := by
      omega
    have isQuotient : ∀ rest : ℕ, (((rest * 10000 : ℕ) : ℤ) : ℚ) / MICRO_PER_CENT = rest := by
      intro rest
      rw [MICRO_PER_CENT]
      push_cast
      ring
    rw [isRest, isQuotient, nearestDouble_natCast (by omega), Int.floor_natCast]
  have same : cents % 10 = cents % 100 % 10 := by omega
  rw [microUsdToPayPalValue, if_neg allowed, dollars, left]
  dsimp only
  rw [leftpad_cents (Nat.mod_lt cents (by decide)), toString_natCast, twoDecimals, same]
  refine congrArg some (String.toList_inj.mp ?_)
  simp

-----------------------------------------------------------------------------------------
-- What is read of a value
-----------------------------------------------------------------------------------------

/-- The number that digits, a point and further digits are, of any length. -/
def decimalValue (value : String) : ℚ :=
  match value.toList.splitOn '.' with
  | [whole, fraction] =>
      Nat.ofDigitChars 10 whole 0 + Nat.ofDigitChars 10 fraction 0 / 10 ^ fraction.length
  | _ => 0

/-- The sum of whole dollars and cents is rounded to a safe integer only if nothing is rounded. -/
theorem sum_exact {dollars cents : ℕ} (small : cents < 100)
    (safe
      : isSafeInteger
          (nearestDouble
            (nearestDouble (nearestDouble dollars * MICRO_PER_USD)
              + nearestDouble (nearestDouble cents * MICRO_PER_CENT)))
        = true)
    : nearestDouble
          (nearestDouble (nearestDouble dollars * MICRO_PER_USD)
            + nearestDouble (nearestDouble cents * MICRO_PER_CENT))
        = ((dollars * 100 + cents) * 10000 : ℕ)
      ∧ (dollars * 100 + cents) * 10000 < 2 ^ 53 := by
  have isCents : nearestDouble (nearestDouble cents * MICRO_PER_CENT) = (cents * 10000 : ℕ) := by
    have product : (cents : ℚ) * MICRO_PER_CENT = (cents * 10000 : ℕ) := by
      rw [MICRO_PER_CENT]
      push_cast
      rfl
    rw [nearestDouble_natCast (by omega), product, nearestDouble_natCast (by omega)]
  rw [isCents] at safe ⊢
  have nonneg : (0 : ℚ) ≤ (cents * 10000 : ℕ) := Nat.cast_nonneg _
  have total : nearestDouble (nearestDouble (nearestDouble dollars * MICRO_PER_USD)
      + (cents * 10000 : ℕ)) < 2 ^ 53 := by
    have bound := le_of_isSafeInteger safe
    linarith
  have sum := lt_of_nearestDouble_lt total
  have scaled : nearestDouble dollars * MICRO_PER_USD < 2 ^ 53 :=
    lt_of_nearestDouble_lt (by linarith)
  have few : nearestDouble dollars < 2 ^ 53 := by
    rw [MICRO_PER_USD] at scaled
    linarith
  obtain ⟨isDollars, _⟩ := nearestDouble_exact few
  have product : (dollars : ℚ) * MICRO_PER_USD = (dollars * 1000000 : ℕ) := by
    rw [MICRO_PER_USD]
    push_cast
    rfl
  rw [isDollars, product] at sum total scaled ⊢
  have whole : dollars * 1000000 < 2 ^ 53 := by exact_mod_cast scaled
  rw [nearestDouble_natCast whole, ← Nat.cast_add] at sum total ⊢
  have isSum : dollars * 1000000 + cents * 10000 = (dollars * 100 + cents) * 10000 := by ring
  rw [isSum] at sum total ⊢
  exact nearestDouble_exact total

/-- A value that is read is digits, a point and two digits, and it is read as what it says. -/
theorem paypalValueToMicroUsd_eq_some {value : String} {micro : ℤ}
    (isRead : paypalValueToMicroUsd value = some micro)
    : ∃ whole tens units, value.toList.splitOn '.' = [whole, [tens, units]] ∧ whole ≠ []
        ∧ whole.all Char.isDigit = true ∧ tens.isDigit = true ∧ units.isDigit = true
        ∧ micro = (((Nat.ofDigitChars 10 whole 0 * 100 + Nat.ofDigitChars 10 [tens, units] 0)
            * 10000 : ℕ) : ℤ)
        ∧ (Nat.ofDigitChars 10 whole 0 * 100 + Nat.ofDigitChars 10 [tens, units] 0) * 10000
            < 2 ^ 53 := by
  unfold paypalValueToMicroUsd at isRead
  split at isRead
  next whole tens units cut =>
    split at isRead
    next shaped =>
      obtain ⟨filled, all, tensDigit, unitsDigit⟩ := shaped
      dsimp only at isRead
      split at isRead
      next safe =>
        have small : Nat.ofDigitChars 10 [tens, units] 0 < 100 := by
          have tensSmall := (digitChar_of_isDigit tensDigit).1
          have unitsSmall := (digitChar_of_isDigit unitsDigit).1
          have code : '0'.toNat = 48 := rfl
          rw [Nat.ofDigitChars_cons, Nat.ofDigitChars_cons, Nat.ofDigitChars_nil, code]
          omega
        obtain ⟨isSum, below⟩ := sum_exact small safe
        simp only [numberOf] at isRead
        rw [isSum, Int.floor_natCast] at isRead
        exact ⟨whole, tens, units, cut, filled, all, tensDigit, unitsDigit,
          (Option.some.inj isRead).symm, below⟩
      next => cases isRead
    next => cases isRead
  next => cases isRead

-----------------------------------------------------------------------------------------
-- There and back
-----------------------------------------------------------------------------------------

/-- Whole cents that are a safe integer are spelled, and read back; what is read is exact, and is
spelled again without leading zeros.
-/
structure AmountsRoundTrip : Prop where
  spelled
    : ∀ micro : ℤ, (microUsdToPayPalValue micro).isSome = true
      ↔ 0 < micro ∧ isSafeInteger micro = true ∧ micro % 10000 = 0
  readBack
    : ∀ micro value, microUsdToPayPalValue micro = some value
      → paypalValueToMicroUsd value = some micro
  exact
    : ∀ value micro, paypalValueToMicroUsd value = some micro
      → isSafeInteger micro = true ∧ (micro : ℚ) = decimalValue value * MICRO_PER_USD
  spelledAgain
    : ∀ value micro, paypalValueToMicroUsd value = some micro → 0 < micro
      → microUsdToPayPalValue micro = some (String.ofList (withoutLeadingZeros value.toList))

/-- What is spelled is an amount of cents that passes. -/
theorem microUsdToPayPalValue_eq_some {micro : ℤ} {value : String}
    (isSpelled : microUsdToPayPalValue micro = some value)
    : ∃ cents : ℕ, micro = ((cents * 10000 : ℕ) : ℤ) ∧ 0 < cents ∧ cents * 10000 < 2 ^ 53 := by
  unfold microUsdToPayPalValue at isSpelled
  split at isSpelled
  next => exact nomatch isSpelled
  next allowed =>
    simp only [not_or, not_le, not_not, Bool.not_eq_true', Bool.not_eq_false] at allowed
    obtain ⟨safe, positive, whole⟩ := allowed
    have bound : (micro : ℚ) ≤ ((2 ^ 53 - 1 : ℤ) : ℚ) := by
      refine (le_of_isSafeInteger safe).trans_eq ?_
      norm_num
    have below : micro ≤ 2 ^ 53 - 1 := by exact_mod_cast bound
    exact ⟨(micro / 10000).toNat, by omega, by omega, by omega⟩

/-- PayPal amounts round-trip. -/
theorem amountsRoundTrip : AmountsRoundTrip where
  spelled micro := by
    constructor
    · intro isSome
      obtain ⟨value, isSpelled⟩ := Option.isSome_iff_exists.mp isSome
      obtain ⟨cents, isMicro, positive, below⟩ := microUsdToPayPalValue_eq_some isSpelled
      subst isMicro
      refine ⟨by omega, ?_, by omega⟩
      exact_mod_cast isSafeInteger_natCast below
    · intro h
      obtain ⟨positive, safe, whole⟩ := h
      have allowed : ¬ ((!isSafeInteger micro) = true ∨ micro ≤ 0 ∨ micro % 10000 ≠ 0) := by
        rw [safe]
        intro h
        rcases h with unsafeAmount | negative | split
        · exact nomatch unsafeAmount
        · omega
        · omega
      rw [microUsdToPayPalValue, if_neg allowed]
      rfl
  readBack micro value isSpelled := by
    obtain ⟨cents, isMicro, positive, below⟩ := microUsdToPayPalValue_eq_some isSpelled
    subst isMicro
    rw [microUsdToPayPalValue_natCast positive below] at isSpelled
    rw [← Option.some.inj isSpelled]
    exact paypalValueToMicroUsd_twoDecimals below
  exact value micro isRead := by
    obtain ⟨whole, tens, units, cut, _, _, _, _, isMicro, below⟩ :=
      paypalValueToMicroUsd_eq_some isRead
    subst isMicro
    refine ⟨by exact_mod_cast isSafeInteger_natCast below, ?_⟩
    rw [decimalValue, cut, MICRO_PER_USD]
    push_cast
    norm_num
    ring
  spelledAgain value micro isRead positive := by
    obtain ⟨whole, tens, units, cut, filled, all, tensDigit, unitsDigit, isMicro, below⟩ :=
      paypalValueToMicroUsd_eq_some isRead
    obtain ⟨tensSmall, tensBack⟩ := digitChar_of_isDigit tensDigit
    obtain ⟨unitsSmall, unitsBack⟩ := digitChar_of_isDigit unitsDigit
    have code : '0'.toNat = 48 := rfl
    have isCents : Nat.ofDigitChars 10 [tens, units] 0
        = (tens.toNat - 48) * 10 + (units.toNat - 48) := by
      rw [Nat.ofDigitChars_cons, Nat.ofDigitChars_cons, Nat.ofDigitChars_nil, code]
      omega
    have joined : value.toList = whole ++ '.' :: [tens, units] := by
      have back : ['.'].intercalate (value.toList.splitOn '.') = value.toList :=
        List.intercalate_splitOn '.'
      rw [cut] at back
      rw [← back]
      simp [List.intercalate]
    subst isMicro
    rw [microUsdToPayPalValue_natCast (by omega) below, joined, withoutLeadingZeros_eq filled all,
      twoDecimals, isCents]
    generalize Nat.ofDigitChars 10 whole 0 = dollars
    have isDollars
        : (dollars * 100 + ((tens.toNat - 48) * 10 + (units.toNat - 48))) / 100 = dollars := by
      omega
    have isTens : (dollars * 100 + ((tens.toNat - 48) * 10 + (units.toNat - 48))) % 100 / 10
        = tens.toNat - 48 := by
      omega
    have isUnits : (dollars * 100 + ((tens.toNat - 48) * 10 + (units.toNat - 48))) % 10
        = units.toNat - 48 := by
      omega
    rw [isDollars, isTens, isUnits, tensBack, unitsBack]

end ControlPlane.PayPal

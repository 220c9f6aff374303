import ControlPlane.Kek.TokenCrypto
import ControlPlane.Library.Calendar
import ControlPlane.Library.TextParts
import ControlPlane.Meter.Settlement

/-! Billing periods are the calendar months in UTC. Their keys are derived from the instants that
are in them, and they tile time.
-/

namespace ControlPlane.Meter

open ControlPlane.Kek (isTrimmed trim)
open ControlPlane.Library
open ControlPlane.Library.Calendar

-----------------------------------------------------------------------------------------
-- Dates
-----------------------------------------------------------------------------------------

/-- Date.UTC(year, month, 1). A year below 100 is one of the twentieth century. -/
def dateUTC (year : Int) (month : Nat) : Int :=
  monthBegin (12 * (if 0 ≤ year ∧ year ≤ 99 then 1900 + year else year) + month)

/-- String(n).padStart(width, "0"). -/
def padStart (width : Nat) (n : Int) : List Char :=
  (toString n).toList.leftpad width '0'

-----------------------------------------------------------------------------------------
-- Periods
-----------------------------------------------------------------------------------------

/-- The UTC calendar month of an instant. -/
def billingPeriodContaining (instant : Int) : BillingPeriod :=
  let y := fullYear instant
  let m := monthOf instant
  let start := dateUTC y m
  let stop := dateUTC y (m + 1)
  { key := String.ofList (padStart 4 y ++ '-' :: padStart 2 (m + 1))
    windowStart := toISOString start
    windowEnd := toISOString stop }

section

variable (platform : String → Option Int)

/-- The period before the one that an instant is in. There is none where the start is no date. -/
def lastClosedBillingPeriod (now : Int) : Option BillingPeriod :=
  let current := billingPeriodContaining now
  (dateParse platform current.windowStart).map fun start => billingPeriodContaining (start - 1)

/-- The end is exclusive: a period is closed the instant its successor opens. -/
def billingPeriodIsClosed (period : BillingPeriod) (now : Int) : Bool :=
  (dateParse platform period.windowEnd).any fun stop => stop ≤ now

end

/-- A "YYYY-MM" that an operator supplied; what does not round-trip is refused. -/
def parseBillingPeriodKey (key : String) : Option BillingPeriod :=
  match (trim key).toList with
  | [a, b, c, d, '-', e, f] =>
      if [a, b, c, d, e, f].all Char.isDigit then
        let year := Nat.ofDigitChars 10 [a, b, c, d] 0
        let month := Nat.ofDigitChars 10 [e, f] 0
        if month < 1 ∨ 12 < month then none
        else
          let period := billingPeriodContaining (dateUTC year (month - 1))
          if period.key = trim key then some period else none
      else none
  | _ => none

-----------------------------------------------------------------------------------------
-- What it is that periods tile time
-----------------------------------------------------------------------------------------

/-- The window of a period, as instants. -/
structure Window (platform : String → Option Int) (period : BillingPeriod) (start stop : Int)
    : Prop where
  opens : period.windowStart = toISOString start
  closes : period.windowEnd = toISOString stop
  readStart : dateParse platform period.windowStart = some start
  readStop : dateParse platform period.windowEnd = some stop

/-- The years from 100 to some year. -/
def FromYear100 (last instant : Int) : Prop :=
  100 ≤ fullYear instant ∧ fullYear instant ≤ last

instance (last instant : Int) : Decidable (FromYear100 last instant) :=
  inferInstanceAs (Decidable (_ ∧ _))

/-- The period of an instant among the periods. -/
structure PeriodsTile (platform : String → Option Int) (instant : Int) : Prop where
  contains : ∃ start stop, Window platform (billingPeriodContaining instant) start stop
    ∧ FromYear100 9999 start ∧ FromYear100 9999 stop ∧ start ≤ instant ∧ instant < stop
  /-- The period of the instant at which it ends starts there. -/
  shared : ∀ stop, dateParse platform (billingPeriodContaining instant).windowEnd = some stop →
    (billingPeriodContaining stop).windowStart = (billingPeriodContaining instant).windowEnd
  oneKey : ∀ other, FromYear100 9998 other →
    ((billingPeriodContaining other).key = (billingPeriodContaining instant).key
      ↔ ∃ start stop, Window platform (billingPeriodContaining instant) start stop
        ∧ start ≤ other ∧ other < stop)
  parsed : ∀ key, key = (billingPeriodContaining instant).key
      ∨ trim key = (billingPeriodContaining instant).key →
    parseBillingPeriodKey key = some (billingPeriodContaining instant)
  /-- Every other text is no key. -/
  refused : ∀ key, (∀ other, (billingPeriodContaining other).key ≠ trim key) →
    parseBillingPeriodKey key = none
  lastClosed : ∃ last before start stop,
    lastClosedBillingPeriod platform instant = some last
      ∧ billingPeriodIsClosed platform last instant = true
      ∧ Window platform last before start ∧ before < start
      ∧ Window platform (billingPeriodContaining instant) start stop
  notClosed : billingPeriodIsClosed platform (billingPeriodContaining instant) instant = false
  /-- The texts of instants, boundaries among them, are in the order of time. -/
  ordered : ∀ first second, FromYear100 9999 first → FromYear100 9999 second →
    (toISOString first < toISOString second ↔ first < second)

-----------------------------------------------------------------------------------------
-- Periods as months
-----------------------------------------------------------------------------------------

variable {platform : String → Option Int}

/-- The period that a month is. -/
def periodOf (index : Int) : BillingPeriod where
  key :=
    String.ofList (padded 4 (index / 12).toNat ++ '-' :: padded 2 ((index % 12).toNat + 1))
  windowStart := toISOString (monthBegin index)
  windowEnd := toISOString (monthBegin (index + 1))

/-- The months of the years from 100 to some year. -/
def MonthFrom100 (last index : Int) : Prop :=
  100 ≤ index / 12 ∧ index / 12 ≤ last

instance (last index : Int) : Decidable (MonthFrom100 last index) :=
  inferInstanceAs (Decidable (_ ∧ _))

theorem monthFrom100_iff {last instant : Int}
    : MonthFrom100 last (monthIndex instant) ↔ FromYear100 last instant := by
  rw [MonthFrom100, FromYear100, fullYear_eq]

theorem dateUTC_eq {year : Int} (late : 100 ≤ year) (month : Nat)
    : dateUTC year month = monthBegin (12 * year + month) := by
  have full : ¬ (0 ≤ year ∧ year ≤ 99) := by omega
  rw [dateUTC, if_neg full]

theorem padStart_nat (width n : Nat) (fits : n < 10 ^ (width + 1))
    : padStart (width + 1) n = padded (width + 1) n := by
  have text : (toString (n : Int)).toList = Nat.toDigits 10 n := by
    change (String.ofList (Nat.toDigits 10 n)).toList = Nat.toDigits 10 n
    rw [String.toList_ofList]
  rw [padStart, text, leftpad_toDigits fits]

/-- Where the years have three digits and more, the period of an instant is its month. -/
theorem billingPeriodContaining_eq {instant : Int} (inYears : FromYear100 9999 instant)
    : billingPeriodContaining instant = periodOf (monthIndex instant) := by
  have isMonth := (monthOf_spec instant).1
  have year := fullYear_eq instant
  have month := monthOf_eq instant
  have here : 12 * fullYear instant + monthOf instant = monthIndex instant := rfl
  have next : 12 * fullYear instant + ((monthOf instant + 1 : Nat) : Int)
      = monthIndex instant + 1 := by
    rw [monthIndex]
    omega
  simp only [FromYear100] at inYears
  have yearText : padStart 4 (fullYear instant) = padded 4 (monthIndex instant / 12).toNat := by
    have natural := padStart_nat 3 (fullYear instant).toNat (by omega)
    rw [Int.toNat_of_nonneg (by omega)] at natural
    rw [← year]
    exact natural
  have monthText : padStart 2 ((monthOf instant : Int) + 1)
      = padded 2 ((monthIndex instant % 12).toNat + 1) := by
    have isIndex : (monthIndex instant % 12).toNat = monthOf instant := by omega
    rw [isIndex]
    exact_mod_cast padStart_nat 1 (monthOf instant + 1) (by omega)
  simp only [billingPeriodContaining, periodOf, dateUTC_eq inYears.1, next, here, yearText,
    monthText]

/-- A month has one key. -/
theorem key_injective {index other : Int} (inYears : MonthFrom100 9999 index)
    (otherYears : MonthFrom100 9999 other) (same : (periodOf index).key = (periodOf other).key)
    : index = other := by
  simp only [MonthFrom100] at inYears otherYears
  have chars := congrArg String.toList same
  simp only [periodOf, String.toList_ofList] at chars
  obtain ⟨years, months⟩ := List.append_inj chars (by simp)
  have sameYear := padded_injective (by omega) (by omega) years
  have sameMonth := padded_injective (by omega) (by omega) (List.cons.inj months).2
  omega

/-- The boundaries of a month are read back. -/
theorem window_periodOf (platform : String → Option Int) {index : Int}
    (inYears : MonthFrom100 9998 index)
    : Window platform (periodOf index) (monthBegin index) (monthBegin (index + 1)) := by
  simp only [MonthFrom100] at inYears
  have read : ∀ edge, 100 ≤ edge / 12 → edge / 12 ≤ 9999 →
      dateParse platform (toISOString (monthBegin edge)) = some (monthBegin edge) := by
    intro edge late early
    have near : (fullYear (monthBegin edge)).natAbs < 1000000 := by
      rw [fullYear_eq, monthIndex_monthBegin]
      omega
    exact dateParse_toISOString platform near
  exact
    { opens := rfl
      closes := rfl
      readStart := read index inYears.1 (by omega)
      readStop := read (index + 1) (by omega) (by omega) }

/-- A period has one window. -/
theorem Window.unique {period : BillingPeriod} {start stop other end_ : Int}
    (window : Window platform period start stop) (again : Window platform period other end_)
    : start = other ∧ stop = end_ :=
  ⟨Option.some.inj (window.readStart.symm.trans again.readStart),
    Option.some.inj (window.readStop.symm.trans again.readStop)⟩

-----------------------------------------------------------------------------------------
-- Keys that an operator supplies
-----------------------------------------------------------------------------------------

theorem isDigit_digit (n : Nat) : (n % 10).digitChar.isDigit = true := by
  have all : ∀ digit < 10, (Nat.digitChar digit).isDigit = true := by decide
  exact all (n % 10) (Nat.mod_lt n (by decide))

/-- The key of a month, but for white space around it, is parsed as the month. -/
theorem parse_key {index : Int} {key : String} (inYears : MonthFrom100 9999 index)
    (same : trim key = (periodOf index).key)
    : parseBillingPeriodKey key = some (periodOf index) := by
  simp only [MonthFrom100] at inYears
  have chars : (trim key).toList
      = [((index / 12).toNat / 10 / 10 / 10 % 10).digitChar,
          ((index / 12).toNat / 10 / 10 % 10).digitChar,
          ((index / 12).toNat / 10 % 10).digitChar, ((index / 12).toNat % 10).digitChar, '-',
          (((index % 12).toNat + 1) / 10 % 10).digitChar,
          (((index % 12).toNat + 1) % 10).digitChar] := by
    rw [same, periodOf, String.toList_ofList]
    rfl
  have yearFits : (index / 12).toNat < 10 ^ 4 := by omega
  have monthFits : (index % 12).toNat + 1 < 10 ^ 2 := by omega
  have year := ofDigitChars_padded 4 yearFits
  have month := ofDigitChars_padded 2 monthFits
  simp only [padded, List.nil_append, List.cons_append] at year month
  have begins : dateUTC ((index / 12).toNat : Int) (index % 12).toNat = monthBegin index := by
    have split : 12 * ((index / 12).toNat : Int) + (index % 12).toNat = index := by omega
    rw [dateUTC_eq (by omega), split]
  have isPeriod : billingPeriodContaining (monthBegin index) = periodOf index := by
    have inYear : FromYear100 9999 (monthBegin index) := by
      rw [← monthFrom100_iff, monthIndex_monthBegin]
      exact inYears
    rw [billingPeriodContaining_eq inYear, monthIndex_monthBegin]
  simp only [parseBillingPeriodKey, chars, List.all_cons, List.all_nil, isDigit_digit,
    Bool.and_self, if_true, year, month, Nat.add_sub_cancel, begins, isPeriod]
  rw [if_neg (by omega), if_pos same.symm]

/-- A key has no white space around it. -/
theorem trim_key (index : Int) : trim (periodOf index).key = (periodOf index).key := by
  have digits : ∀ digit < 10, isTrimmed (Nat.digitChar digit) = false := by decide
  have unfit : ∀ c ∈ (periodOf index).key.toList, isTrimmed c = false := by
    intro c held
    rw [periodOf, String.toList_ofList, List.mem_append, List.mem_cons] at held
    rcases held with inYear | isDash | inMonth
    · obtain ⟨digit, small, isDigit⟩ := exists_of_mem_padded inYear
      rw [isDigit, digits digit small]
    · rw [isDash]
      decide
    · obtain ⟨digit, small, isDigit⟩ := exists_of_mem_padded inMonth
      rw [isDigit, digits digit small]
  have stripped := TextParts.strip_eq_self isTrimmed unfit
  apply String.toList_injective
  rw [trim, String.toList_ofList]
  exact stripped

/-- A text that is parsed is the key of the period that is returned. -/
theorem key_of_parse {key : String} {period : BillingPeriod}
    (parsed : parseBillingPeriodKey key = some period)
    : ∃ instant, billingPeriodContaining instant = period ∧ period.key = trim key := by
  unfold parseBillingPeriodKey at parsed
  split at parsed
  · next a b c d e f chars =>
      simp only at parsed
      split at parsed
      · split at parsed
        · exact nomatch parsed
        · split at parsed
          · next same =>
              refine ⟨_, Option.some.inj parsed, ?_⟩
              rw [← Option.some.inj parsed]
              exact same
          · exact nomatch parsed
      · exact nomatch parsed
  · exact nomatch parsed

-----------------------------------------------------------------------------------------
-- When periods tile time
-----------------------------------------------------------------------------------------

theorem fourDigits_of_from {instant : Int} (inYears : FromYear100 9999 instant)
    : FourDigits instant := by
  simp only [FromYear100] at inYears
  exact ⟨by omega, inYears.2⟩

theorem fromYear100_monthBegin {last index : Int} (inYears : MonthFrom100 last index)
    : FromYear100 last (monthBegin index) := by
  rw [← monthFrom100_iff, monthIndex_monthBegin]
  exact inYears

theorem toISOString_lt_iff {first second : Int} (inFirst : FromYear100 9999 first)
    (inSecond : FromYear100 9999 second)
    : toISOString first < toISOString second ↔ first < second := by
  rw [String.lt_iff, toISOString, toISOString, String.toList_ofList,
    String.toList_ofList]
  exact lex_isoText_iff (fourDigits_of_from inFirst) (fourDigits_of_from inSecond)

/-- The period before is last closed, unless it is the December of the year 99. -/
theorem lastClosed_of_later {instant : Int} (inYears : FromYear100 9998 instant)
    (later : MonthFrom100 9998 (monthIndex instant - 1))
    : ∃ last before start stop,
        lastClosedBillingPeriod platform instant = some last
          ∧ billingPeriodIsClosed platform last instant = true
          ∧ Window platform last before start ∧ before < start
          ∧ Window platform (billingPeriodContaining instant) start stop := by
  have inside := monthIndex_spec instant
  have wide : FromYear100 9999 instant := ⟨inYears.1, inYears.2.trans (by decide)⟩
  have isPeriod := billingPeriodContaining_eq wide
  have window := window_periodOf platform (monthFrom100_iff.mpr inYears)
  have before := window_periodOf platform later
  rw [Int.sub_add_cancel] at before
  have isBefore : billingPeriodContaining (monthBegin (monthIndex instant) - 1)
      = periodOf (monthIndex instant - 1) := by
    have inYear : FromYear100 9999 (monthBegin (monthIndex instant) - 1) := by
      rw [← monthFrom100_iff, monthIndex_pred]
      exact ⟨later.1, later.2.trans (by decide)⟩
    rw [billingPeriodContaining_eq inYear, monthIndex_pred]
  refine ⟨periodOf (monthIndex instant - 1), _, _, _, ?_, ?_, before, ?_, isPeriod ▸ window⟩
  · rw [lastClosedBillingPeriod, isPeriod, window.readStart, Option.map_some, isBefore]
  · rw [billingPeriodIsClosed, before.readStop, Option.any_some]
    exact decide_eq_true inside.1
  · exact monthBegin_strictMono (sub_one_lt _)

/-- The December of the year 99 ends with 1999, so it is not closed a century and more before. -/
theorem december99_notClosed {instant : Int} (january : monthIndex instant = 1200)
    {last : BillingPeriod} (isLast : lastClosedBillingPeriod platform instant = some last)
    : billingPeriodIsClosed platform last instant = false := by
  have inYears : MonthFrom100 9998 1200 := by decide
  have inside := (monthIndex_spec instant).2
  have window := window_periodOf platform inYears
  have isPeriod : billingPeriodContaining instant = periodOf 1200 := by
    rw [← january]
    apply billingPeriodContaining_eq
    rw [← monthFrom100_iff, january]
    decide
  rw [lastClosedBillingPeriod, isPeriod, window.readStart, Option.map_some] at isLast
  have year : fullYear (monthBegin 1200 - 1) = 99 := by rw [fullYear_eq, monthIndex_pred]; rfl
  have month : monthOf (monthBegin 1200 - 1) = 11 := by
    have isMonth := monthOf_eq (monthBegin 1200 - 1)
    rw [monthIndex_pred] at isMonth
    omega
  have ends : last.windowEnd = toISOString (monthBegin 24000) := by
    rw [← Option.some.inj isLast]
    simp only [billingPeriodContaining, year, month]
    rfl
  have century : MonthFrom100 9998 23999 := by decide
  have read := (window_periodOf platform century).readStop
  have longAfter : monthBegin 1201 < monthBegin 24000 := monthBegin_strictMono (by decide)
  rw [january] at inside
  rw [billingPeriodIsClosed, ends]
  rw [periodOf] at read
  simp only [Int.reduceAdd] at read inside
  rw [read, Option.any_some, decide_eq_false_iff_not]
  omega

/-- Periods tile time around every instant but those of the first January: the period before it
is in a year that Date.UTC takes for one of the twentieth century.
-/
theorem periodsTile_iff (platform : String → Option Int) {instant : Int}
    (inYears : FromYear100 9998 instant)
    : PeriodsTile platform instant ↔ ¬ (fullYear instant = 100 ∧ monthOf instant = 0) := by
  have inside := monthIndex_spec instant
  have wide : FromYear100 9999 instant := ⟨inYears.1, inYears.2.trans (by decide)⟩
  have inMonths := monthFrom100_iff.mpr inYears
  have wideMonths := monthFrom100_iff.mpr wide
  have isPeriod := billingPeriodContaining_eq wide
  have window := window_periodOf platform inMonths
  have nextMonths : MonthFrom100 9999 (monthIndex instant + 1) := by
    simp only [MonthFrom100] at inMonths ⊢
    omega
  rw [← isPeriod] at window
  constructor
  · intro tile january
    obtain ⟨last, before, start, stop, isLast, closed, -⟩ := tile.lastClosed
    have first : monthIndex instant = 1200 := by
      rw [monthIndex, january.1, january.2]
      rfl
    rw [december99_notClosed first isLast] at closed
    cases closed
  · intro notFirst
    have later : MonthFrom100 9998 (monthIndex instant - 1) := by
      have year := fullYear_eq instant
      have month := monthOf_eq instant
      simp only [MonthFrom100] at inMonths ⊢
      omega
    exact
      { contains :=
          ⟨_, _, window, fromYear100_monthBegin wideMonths, fromYear100_monthBegin nextMonths,
            inside⟩
        shared := by
          intro stop isStop
          have same : stop = monthBegin (monthIndex instant + 1) :=
            Option.some.inj (isStop.symm.trans window.readStop)
          rw [same, billingPeriodContaining_eq (fromYear100_monthBegin nextMonths),
            monthIndex_monthBegin, isPeriod]
          rfl
        oneKey := by
          intro other otherYears
          have otherWide : FromYear100 9999 other := ⟨otherYears.1, otherYears.2.trans (by decide)⟩
          rw [billingPeriodContaining_eq otherWide, isPeriod]
          rw [isPeriod] at window
          constructor
          · intro same
            have oneMonth := key_injective (monthFrom100_iff.mpr otherWide) wideMonths same
            exact ⟨_, _, window, (monthIndex_eq_iff other _).mp oneMonth⟩
          · intro within
            obtain ⟨start, stop, again, held⟩ := within
            obtain ⟨isStart, isStop⟩ := again.unique window
            rw [isStart, isStop] at held
            rw [(monthIndex_eq_iff other _).mpr held]
        parsed := by
          intro key named
          rw [isPeriod] at named ⊢
          apply parse_key wideMonths
          rcases named with itself | trimmed
          · rw [itself, trim_key]
          · exact trimmed
        refused := by
          intro key unkeyed
          cases parsed : parseBillingPeriodKey key with
          | none => rfl
          | some period =>
              obtain ⟨other, isOther, same⟩ := key_of_parse parsed
              rw [← isOther] at same
              exact absurd same (unkeyed other)
        lastClosed := lastClosed_of_later inYears later
        notClosed := by
          rw [billingPeriodIsClosed, window.readStop, Option.any_some, decide_eq_false_iff_not]
          omega
        ordered := fun first second inFirst inSecond => toISOString_lt_iff inFirst inSecond }

/-- The last millisecond of 2024. -/
theorem periodsTile_newYear : PeriodsTile (fun _ => none) 1735689599999 :=
  (periodsTile_iff (fun _ => none) (by decide +kernel)).mpr (by decide +kernel)

/-- The first instant of the year 100. -/
theorem januaryOf100_untiled
    : FromYear100 9998 (-59011459200000) ∧ ¬ PeriodsTile (fun _ => none) (-59011459200000) := by
  refine ⟨by decide +kernel, fun tile => ?_⟩
  obtain ⟨last, before, start, stop, isLast, closed, -⟩ := tile.lastClosed
  have computed : lastClosedBillingPeriod (fun _ => none) (-59011459200000)
      = some
          { key := "0099-12"
            windowStart := "1999-12-01T00:00:00.000Z"
            windowEnd := "2000-01-01T00:00:00.000Z" } := by
    decide +kernel
  rw [← Option.some.inj (computed.symm.trans isLast)] at closed
  exact absurd closed (by decide +kernel)

end ControlPlane.Meter

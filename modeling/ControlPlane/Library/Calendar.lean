import ControlPlane.Library.PaddedDigits
import Mathlib.Data.Int.ConditionallyCompleteOrder

/-! The proleptic Gregorian calendar over instants, which are milliseconds since 1970 in UTC: years,
months that tile time, and the text of an instant.
-/

namespace ControlPlane.Library.Calendar

-----------------------------------------------------------------------------------------
-- Years
-----------------------------------------------------------------------------------------

/-- The number of the first day of a year. -/
def dayFromYear (year : Int) : Int :=
  365 * (year - 1970) + (year - 1969) / 4 - (year - 1901) / 100 + (year - 1601) / 400

def isLeap (year : Int) : Bool :=
  year % 4 = 0 ∧ (year % 100 ≠ 0 ∨ year % 400 = 0)

/-- The days of a year. -/
def yearLength (year : Int) : Int :=
  if isLeap year then 366 else 365

theorem dayFromYear_succ (year : Int)
    : dayFromYear (year + 1) = dayFromYear year + yearLength year := by
  simp only [dayFromYear, yearLength, isLeap, decide_eq_true_eq]
  split <;> omega

/-- The year of a day: the mean length of a year is off by one at most. -/
def yearOfDay (day : Int) : Int :=
  let near := 1970 + day * 400 / 146097
  if day < dayFromYear near then near - 1
  else if dayFromYear (near + 1) ≤ day then near + 1
  else near

/-- 400 years have 146097 days, and the years among them begin about as often as the mean says. -/
theorem dayFromYear_mean (years : Int)
    : 146097 * years - 398 ≤ 400 * dayFromYear (1970 + years)
      ∧ 400 * dayFromYear (1970 + years) ≤ 146097 * years + 481 := by
  have cycle : dayFromYear (1970 + years)
      = 146097 * (years / 400) + dayFromYear (1970 + years % 400) := by
    simp only [dayFromYear]
    omega
  have one : ∀ year : Nat, year < 400 →
      146097 * (year : Int) - 398 ≤ 400 * dayFromYear (1970 + (year : Int))
        ∧ 400 * dayFromYear (1970 + (year : Int)) ≤ 146097 * (year : Int) + 481 := by
    decide +kernel
  have inCycle := one (years % 400).toNat (by omega)
  rw [Int.toNat_of_nonneg (Int.emod_nonneg years (by decide))] at inCycle
  rw [cycle]
  omega

theorem yearOfDay_spec (day : Int)
    : dayFromYear (yearOfDay day) ≤ day ∧ day < dayFromYear (yearOfDay day + 1) := by
  have before := dayFromYear_mean (day * 400 / 146097 - 1)
  have behind := dayFromYear_mean (day * 400 / 146097 + 2)
  have frontEq : 1970 + (day * 400 / 146097 - 1) = 1970 + day * 400 / 146097 - 1 := by omega
  have backEq : 1970 + (day * 400 / 146097 + 2) = 1970 + day * 400 / 146097 + 1 + 1 := by omega
  rw [frontEq] at before
  rw [backEq] at behind
  simp only [yearOfDay]
  split
  · next early =>
      rw [Int.sub_add_cancel]
      omega
  · split
    · omega
    · omega

/-- A year begins after all days of the years before it. -/
theorem dayFromYear_strictMono : StrictMono dayFromYear := by
  apply strictMono_int_of_lt_succ
  intro year
  rw [dayFromYear_succ, yearLength]
  split <;> omega

/-- A day lies in one year. -/
theorem yearOfDay_eq_iff (day year : Int)
    : yearOfDay day = year ↔ dayFromYear year ≤ day ∧ day < dayFromYear (year + 1) := by
  have spec := yearOfDay_spec day
  constructor
  · intro same
    rwa [same] at spec
  · intro inside
    have notBefore := dayFromYear_strictMono.lt_iff_lt.mp (spec.1.trans_lt inside.2)
    have notBehind := dayFromYear_strictMono.lt_iff_lt.mp (inside.1.trans_lt spec.2)
    omega

-----------------------------------------------------------------------------------------
-- Months
-----------------------------------------------------------------------------------------

/-- The days of a year before a month, which is counted from 0. -/
def monthStart (leap : Bool) (month : Nat) : Int :=
  [0, 31, 59, 90, 120, 151, 181, 212, 243, 273, 304, 334, 365].getD month 0
    + if leap ∧ 2 ≤ month then 1 else 0

/-- The month of a day of a year: the first one that ends behind it. -/
def monthOfDay (leap : Bool) (day : Int) : Nat :=
  (List.range 12).findIdx fun month => day < monthStart leap (month + 1)

theorem monthStart_lt (leap : Bool) {month : Nat} (isMonth : month < 12)
    : monthStart leap month < monthStart leap (month + 1) := by
  have all : ∀ leap, ∀ month < 12, monthStart leap month < monthStart leap (month + 1) := by decide
  exact all leap month isMonth

theorem monthOfDay_spec (leap : Bool) {day : Int} (begun : 0 ≤ day)
    (inside : day < if leap then 366 else 365)
    : monthOfDay leap day < 12 ∧ monthStart leap (monthOfDay leap day) ≤ day
      ∧ day < monthStart leap (monthOfDay leap day + 1) := by
  have last : monthStart leap 12 = if leap then 366 else 365 := by cases leap <;> rfl
  have isMonth : (List.range 12).findIdx (fun month => decide (day < monthStart leap (month + 1)))
      < (List.range 12).length := by
    apply List.findIdx_lt_length_of_exists
    exact ⟨11, by decide, by simpa [last] using inside⟩
  have ends := List.findIdx_getElem (w := isMonth)
  simp only [List.getElem_range, decide_eq_true_eq] at ends
  refine ⟨isMonth.trans_eq List.length_range, ?_, ends⟩
  cases found : monthOfDay leap day with
  | zero => cases leap <;> exact begun
  | succ earlier =>
      have notEarlier : earlier < monthOfDay leap day := by omega
      have begins := List.not_of_lt_findIdx notEarlier
      simpa using begins

-----------------------------------------------------------------------------------------
-- Instants
-----------------------------------------------------------------------------------------

def msPerDay : Int := 86400000

def dayOf (instant : Int) : Int :=
  instant / msPerDay

def fullYear (instant : Int) : Int :=
  yearOfDay (dayOf instant)

def dayInYear (instant : Int) : Int :=
  dayOf instant - dayFromYear (fullYear instant)

/-- The month of an instant, counted from 0. -/
def monthOf (instant : Int) : Nat :=
  monthOfDay (isLeap (fullYear instant)) (dayInYear instant)

/-- The day of an instant in its month, counted from 1. -/
def dateOf (instant : Int) : Nat :=
  (dayInYear instant - monthStart (isLeap (fullYear instant)) (monthOf instant) + 1).toNat

/-- The months counted through all years. -/
def monthIndex (instant : Int) : Int :=
  12 * fullYear instant + monthOf instant

/-- The first instant of a month. -/
def monthBegin (index : Int) : Int :=
  (dayFromYear (index / 12) + monthStart (isLeap (index / 12)) (index % 12).toNat) * msPerDay

theorem dayInYear_spec (instant : Int)
    : 0 ≤ dayInYear instant ∧ dayInYear instant < yearLength (fullYear instant) := by
  have spec := yearOfDay_spec (dayOf instant)
  rw [dayFromYear_succ] at spec
  simp only [dayInYear, fullYear]
  omega

theorem monthOf_spec (instant : Int)
    : monthOf instant < 12
      ∧ monthStart (isLeap (fullYear instant)) (monthOf instant) ≤ dayInYear instant
      ∧ dayInYear instant < monthStart (isLeap (fullYear instant)) (monthOf instant + 1) :=
  monthOfDay_spec _ (dayInYear_spec instant).1 (dayInYear_spec instant).2

/-- The first instant of a month of a year, where December is followed by the year's end. -/
theorem monthBegin_eq (year : Int) (month : Nat) (isMonth : month ≤ 12)
    : monthBegin (12 * year + month)
      = (dayFromYear year + monthStart (isLeap year) month) * msPerDay := by
  rcases Nat.lt_or_eq_of_le isMonth with inYear | isEnd
  · have isYear : (12 * year + month) / 12 = year := by omega
    have isHere : ((12 * year + month) % 12).toNat = month := by omega
    rw [monthBegin, isYear, isHere]
  · have isYear : (12 * year + month) / 12 = year + 1 := by omega
    have isHere : ((12 * year + month) % 12).toNat = 0 := by omega
    have whole : monthStart (isLeap year) 12 = yearLength year := by
      rw [yearLength]
      cases isLeap year <;> rfl
    have first : monthStart (isLeap (year + 1)) 0 = 0 := by cases isLeap (year + 1) <;> rfl
    rw [monthBegin, isYear, isHere, isEnd, whole, first, dayFromYear_succ, add_zero]

theorem monthBegin_strictMono : StrictMono monthBegin := by
  apply strictMono_int_of_lt_succ
  intro index
  have isMonth : (index % 12).toNat < 12 := by omega
  have here := monthBegin_eq (index / 12) (index % 12).toNat isMonth.le
  have next := monthBegin_eq (index / 12) ((index % 12).toNat + 1) (by omega)
  have isIndex : 12 * (index / 12) + ((index % 12).toNat : Int) = index := by omega
  have isNext : 12 * (index / 12) + (((index % 12).toNat + 1 : Nat) : Int) = index + 1 := by omega
  have later := monthStart_lt (isLeap (index / 12)) isMonth
  rw [isIndex] at here
  rw [isNext] at next
  rw [here, next, msPerDay]
  omega

/-- An instant is in its month. -/
theorem monthIndex_spec (instant : Int)
    : monthBegin (monthIndex instant) ≤ instant
      ∧ instant < monthBegin (monthIndex instant + 1) := by
  obtain ⟨isMonth, begun, ends⟩ := monthOf_spec instant
  have here := monthBegin_eq (fullYear instant) (monthOf instant) isMonth.le
  have next := monthBegin_eq (fullYear instant) (monthOf instant + 1) isMonth
  have isNext : 12 * fullYear instant + ((monthOf instant + 1 : Nat) : Int)
      = monthIndex instant + 1 := by
    rw [monthIndex]
    omega
  rw [isNext] at next
  rw [monthIndex, here, ← monthIndex, next]
  simp only [dayInYear, dayOf, msPerDay] at begun ends ⊢
  omega

/-- The months tile time: an instant is in one of them. -/
theorem monthIndex_eq_iff (instant index : Int)
    : monthIndex instant = index ↔ monthBegin index ≤ instant ∧ instant < monthBegin (index + 1) := by
  have spec := monthIndex_spec instant
  constructor
  · intro same
    rwa [same] at spec
  · intro inside
    have notBefore := monthBegin_strictMono.lt_iff_lt.mp (spec.1.trans_lt inside.2)
    have notBehind := monthBegin_strictMono.lt_iff_lt.mp (inside.1.trans_lt spec.2)
    omega

/-- The instant before a month is in the month before. -/
theorem monthIndex_pred (index : Int) : monthIndex (monthBegin index - 1) = index - 1 := by
  rw [monthIndex_eq_iff, Int.sub_add_cancel]
  have less := monthBegin_strictMono (sub_one_lt index)
  omega

@[simp] theorem monthIndex_monthBegin (index : Int) : monthIndex (monthBegin index) = index := by
  rw [monthIndex_eq_iff]
  exact ⟨le_rfl, monthBegin_strictMono (lt_add_one index)⟩

theorem fullYear_eq (instant : Int) : fullYear instant = monthIndex instant / 12 := by
  have isMonth := (monthOf_spec instant).1
  rw [monthIndex]
  omega

theorem monthOf_eq (instant : Int) : (monthOf instant : Int) = monthIndex instant % 12 := by
  have isMonth := (monthOf_spec instant).1
  rw [monthIndex]
  omega

-----------------------------------------------------------------------------------------
-- The text of an instant
-----------------------------------------------------------------------------------------

def msInDay (instant : Int) : Nat :=
  (instant % msPerDay).toNat

def hoursOf (instant : Int) : Nat := msInDay instant / 3600000

def minutesOf (instant : Int) : Nat := msInDay instant / 60000 % 60

def secondsOf (instant : Int) : Nat := msInDay instant / 1000 % 60

def millisecondsOf (instant : Int) : Nat := msInDay instant % 1000

/-- Years with more or less than four digits have a sign and six digits. -/
def isoYear (year : Int) : List Char :=
  if 0 ≤ year ∧ year ≤ 9999 then padded 4 year.toNat
  else (if year < 0 then '-' else '+') :: padded 6 year.natAbs

/-- What follows the year in the text of an instant. -/
def isoRest (instant : Int) : List Char :=
  '-' :: (padded 2 (monthOf instant + 1) ++ '-' :: (padded 2 (dateOf instant)
    ++ 'T' :: (padded 2 (hoursOf instant) ++ ':' :: (padded 2 (minutesOf instant)
    ++ ':' :: (padded 2 (secondsOf instant)
    ++ '.' :: (padded 3 (millisecondsOf instant) ++ ['Z']))))))

/-- YYYY-MM-DDTHH:mm:ss.sssZ. -/
def isoText (instant : Int) : List Char :=
  isoYear (fullYear instant) ++ isoRest instant

/-- The number of the digits in some places. -/
def field (text : List Char) (place width : Nat) : Nat :=
  Nat.ofDigitChars 10 ((text.drop place).take width) 0

/-- The year of a text, and what follows it. -/
def splitYear : List Char → Int × List Char
  | '+' :: rest => (field rest 0 6, rest.drop 6)
  | '-' :: rest => (-(field rest 0 6 : Int), rest.drop 6)
  | text => (field text 0 4, text.drop 4)

/-- The instant that a year and the fields behind it make. -/
def instantOf (year : Int) (rest : List Char) : Int :=
  (dayFromYear year + monthStart (isLeap year) (field rest 1 2 - 1) + (field rest 4 2 - 1))
      * msPerDay
    + (field rest 7 2 * 3600000 + field rest 10 2 * 60000 + field rest 13 2 * 1000
      + field rest 16 3 : Nat)

/-- The instant whose text it is, if there is one. -/
def ofIsoText (text : List Char) : Option Int :=
  let (year, rest) := splitYear text
  let instant := instantOf year rest
  if isoText instant = text then some instant else none

theorem msInDay_lt (instant : Int) : msInDay instant < 86400000 := by
  simp only [msInDay, msPerDay]
  omega

/-- An instant is its day and what has passed of it. -/
theorem day_add_ms (instant : Int) : dayOf instant * msPerDay + msInDay instant = instant := by
  simp only [dayOf, msInDay, msPerDay]
  omega

/-- The day of a month is one of 31, and says how long ago the month began. -/
theorem dateOf_spec (instant : Int)
    : dateOf instant ≤ 31
      ∧ dayInYear instant
        = monthStart (isLeap (fullYear instant)) (monthOf instant) + (dateOf instant - 1) := by
  obtain ⟨isMonth, begun, ends⟩ := monthOf_spec instant
  have atMost : ∀ leap, ∀ month < 12,
      monthStart leap (month + 1) ≤ monthStart leap month + 31 := by
    decide
  have length := atMost (isLeap (fullYear instant)) (monthOf instant) isMonth
  rw [dateOf]
  omega

/-- A year without a sign has four digits. -/
theorem splitYear_plain (c : Char) (text : List Char) (unsigned : c ≠ '+' ∧ c ≠ '-')
    : splitYear (c :: text) = ((field (c :: text) 0 4 : Int), (c :: text).drop 4) := by
  simp [splitYear, unsigned]

theorem digitChar_unsigned (n : Nat) : (n % 10).digitChar ≠ '+' ∧ (n % 10).digitChar ≠ '-' := by
  have all : ∀ digit < 10, Nat.digitChar digit ≠ '+' ∧ Nat.digitChar digit ≠ '-' := by decide
  exact all (n % 10) (Nat.mod_lt n (by decide))

/-- The year is read back, however many digits it has. -/
theorem splitYear_isoText {instant : Int} (near : (fullYear instant).natAbs < 1000000)
    : splitYear (isoText instant) = (fullYear instant, isoRest instant) := by
  have six : field (padded 6 (fullYear instant).natAbs ++ isoRest instant) 0 6
      = (fullYear instant).natAbs := by
    rw [field, List.drop_zero, List.take_left' (by simp), ofDigitChars_padded 6 near]
  rw [isoText, isoYear]
  split
  · next four =>
      have digits : field (padded 4 (fullYear instant).toNat ++ isoRest instant) 0 4
          = (fullYear instant).toNat := by
        rw [field, List.drop_zero, List.take_left' (by simp), ofDigitChars_padded 4 (by omega)]
      have plain := splitYear_plain _ (((padded 4 (fullYear instant).toNat).drop 1)
        ++ isoRest instant) (digitChar_unsigned ((fullYear instant).toNat / 10 / 10 / 10))
      refine plain.trans ?_
      refine Prod.ext ?_ rfl
      exact (congrArg (Nat.cast : Nat → Int) digits).trans (Int.toNat_of_nonneg four.1)
  · split
    · next negative =>
        rw [List.cons_append]
        simp only [splitYear, six]
        rw [List.drop_left' (by simp)]
        congr 1
        omega
    · next positive =>
        rw [List.cons_append]
        simp only [splitYear, six]
        rw [List.drop_left' (by simp)]
        congr 1
        omega

theorem instantOf_isoRest (instant : Int)
    : instantOf (fullYear instant) (isoRest instant) = instant := by
  obtain ⟨inMonth, isDate⟩ := dateOf_spec instant
  have isMonth := (monthOf_spec instant).1
  have inDay := msInDay_lt instant
  have whole := day_add_ms instant
  have month : field (isoRest instant) 1 2 = monthOf instant + 1 :=
    ofDigitChars_padded 2 (by omega)
  have date : field (isoRest instant) 4 2 = dateOf instant :=
    ofDigitChars_padded 2 (by omega)
  have hours : field (isoRest instant) 7 2 = hoursOf instant :=
    ofDigitChars_padded 2 (by simp only [hoursOf]; omega)
  have minutes : field (isoRest instant) 10 2 = minutesOf instant :=
    ofDigitChars_padded 2 (by simp only [minutesOf]; omega)
  have seconds : field (isoRest instant) 13 2 = secondsOf instant :=
    ofDigitChars_padded 2 (by simp only [secondsOf]; omega)
  have milliseconds : field (isoRest instant) 16 3 = millisecondsOf instant :=
    ofDigitChars_padded 3 (by simp only [millisecondsOf]; omega)
  rw [instantOf, month, date, hours, minutes, seconds, milliseconds]
  simp only [dayInYear, hoursOf, minutesOf, secondsOf, millisecondsOf, msPerDay,
    Nat.add_sub_cancel] at isDate whole ⊢
  omega

/-- The text of an instant is read as the instant. -/
theorem ofIsoText_isoText {instant : Int} (near : (fullYear instant).natAbs < 1000000)
    : ofIsoText (isoText instant) = some instant := by
  simp only [ofIsoText, splitYear_isoText near, instantOf_isoRest, if_true]

def toISOString (instant : Int) : String :=
  String.ofList (isoText instant)

/-- Date.parse. What a text means that is no text of an instant, the platform decides. -/
def dateParse (platform : String → Option Int) (text : String) : Option Int :=
  (ofIsoText text.toList).or (platform text)

theorem dateParse_toISOString (platform : String → Option Int) {instant : Int}
    (near : (fullYear instant).natAbs < 1000000)
    : dateParse platform (toISOString instant) = some instant := by
  rw [dateParse, toISOString, String.toList_ofList, ofIsoText_isoText near, Option.some_or]

/-- The instants that a Date can be. -/
def IsDate (instant : Int) : Prop :=
  instant.natAbs ≤ 8640000000000000

instance (instant : Int) : Decidable (IsDate instant) :=
  inferInstanceAs (Decidable (_ ≤ _))

/-- The years of dates have six digits at most. -/
theorem near_of_isDate {instant : Int} (isDate : IsDate instant)
    : (fullYear instant).natAbs < 1000000 := by
  have spec := yearOfDay_spec (dayOf instant)
  have before := dayFromYear_mean (fullYear instant - 1970)
  have behind := dayFromYear_mean (fullYear instant + 1 - 1970)
  have here : 1970 + (fullYear instant - 1970) = fullYear instant := by omega
  have next : 1970 + (fullYear instant + 1 - 1970) = fullYear instant + 1 := by omega
  rw [here] at before
  rw [next] at behind
  simp only [IsDate] at isDate
  simp only [fullYear, dayOf, msPerDay] at *
  omega

-----------------------------------------------------------------------------------------
-- The order of the texts
-----------------------------------------------------------------------------------------

/-- The day in the year, month and day of the month of a later day. -/
theorem date_lt {first second : Int} (sooner : dayOf first < dayOf second)
    : fullYear first < fullYear second
      ∨ fullYear first = fullYear second
        ∧ (monthOf first < monthOf second
          ∨ monthOf first = monthOf second ∧ dateOf first < dateOf second) := by
  have firstYear := yearOfDay_spec (dayOf first)
  have secondYear := yearOfDay_spec (dayOf second)
  have inOrder := dayFromYear_strictMono.lt_iff_lt.mp
    (firstYear.1.trans_lt (sooner.trans secondYear.2))
  rcases lt_or_eq_of_le (Int.lt_add_one_iff.mp inOrder) with before | same
  · exact .inl before
  · right
    have sameYear : fullYear first = fullYear second := same
    have later : dayInYear first < dayInYear second := by
      rw [dayInYear, dayInYear, sameYear]
      omega
    obtain ⟨isMonth, begun, -⟩ := monthOf_spec first
    obtain ⟨-, -, ends⟩ := monthOf_spec second
    have firstDate := (dateOf_spec first).2
    have secondDate := (dateOf_spec second).2
    rw [sameYear] at begun firstDate
    refine ⟨sameYear, ?_⟩
    rcases Nat.lt_trichotomy (monthOf first) (monthOf second) with before | sameMonth | behind
    · exact .inl before
    · rw [sameMonth] at firstDate
      exact .inr ⟨sameMonth, by omega⟩
    · have starts : monthStart (isLeap (fullYear second)) (monthOf second + 1)
          ≤ monthStart (isLeap (fullYear second)) (monthOf first) := by
        have all : ∀ leap, ∀ month < 12, ∀ earlier < month,
            monthStart leap (earlier + 1) ≤ monthStart leap month := by
          decide
        exact all _ _ isMonth _ behind
      omega

/-- The time of a later instant of a day. -/
theorem time_lt {first second : Int} (sooner : msInDay first < msInDay second)
    : hoursOf first < hoursOf second
      ∨ hoursOf first = hoursOf second
        ∧ (minutesOf first < minutesOf second
          ∨ minutesOf first = minutesOf second
            ∧ (secondsOf first < secondsOf second
              ∨ secondsOf first = secondsOf second
                ∧ millisecondsOf first < millisecondsOf second)) := by
  simp only [hoursOf, minutesOf, secondsOf, millisecondsOf]
  omega

/-- What follows the year, of instants of one year. -/
theorem lex_isoRest {first second : Int}
    (sooner
      : monthOf first < monthOf second
        ∨ monthOf first = monthOf second
          ∧ (dateOf first < dateOf second
            ∨ dateOf first = dateOf second ∧ msInDay first < msInDay second))
    : List.Lex (· < ·) (isoRest first) (isoRest second) := by
  have isMonth := (monthOf_spec second).1
  have isDate := (dateOf_spec second).1
  have inDay := msInDay_lt second
  refine .cons (lex_field (by omega) ?_)
  rcases sooner with before | ⟨sameMonth, sooner⟩
  · exact .inl (by omega)
  refine .inr ⟨by omega, .cons (lex_field (by omega) ?_)⟩
  rcases sooner with before | ⟨sameDate, sooner⟩
  · exact .inl before
  refine .inr ⟨sameDate, .cons (lex_field (by simp only [hoursOf]; omega) ?_)⟩
  rcases time_lt sooner with before | ⟨sameHours, sooner⟩
  · exact .inl before
  refine .inr ⟨sameHours, .cons (lex_field (by simp only [minutesOf]; omega) ?_)⟩
  rcases sooner with before | ⟨sameMinutes, sooner⟩
  · exact .inl before
  refine .inr ⟨sameMinutes, .cons (lex_field (by simp only [secondsOf]; omega) ?_)⟩
  rcases sooner with before | ⟨sameSeconds, sooner⟩
  · exact .inl before
  refine .inr ⟨sameSeconds, .cons (lex_field (by simp only [millisecondsOf]; omega) ?_)⟩
  exact .inl sooner

/-- The years that are written with four digits. -/
def FourDigits (instant : Int) : Prop :=
  0 ≤ fullYear instant ∧ fullYear instant ≤ 9999

/-- Texts of instants are in the order of time. -/
theorem lex_isoText {first second : Int} (less : first < second) (inFirst : FourDigits first)
    (inSecond : FourDigits second)
    : List.Lex (· < ·) (isoText first) (isoText second) := by
  simp only [FourDigits] at inFirst inSecond
  rw [isoText, isoText, isoYear, isoYear, if_pos inFirst, if_pos inSecond]
  refine lex_field (by omega) ?_
  rcases Int.lt_trichotomy (dayOf first) (dayOf second) with before | sameDay | behind
  · rcases date_lt before with year | ⟨sameYear, later⟩
    · exact .inl (by omega)
    · refine .inr ⟨by rw [sameYear], lex_isoRest ?_⟩
      rcases later with month | ⟨sameMonth, date⟩
      · exact .inl month
      · exact .inr ⟨sameMonth, .inl date⟩
  · have sameYear : fullYear first = fullYear second := by rw [fullYear, sameDay, fullYear]
    have sameInYear : dayInYear first = dayInYear second := by
      rw [dayInYear, dayInYear, sameDay, sameYear]
    have sameMonth : monthOf first = monthOf second := by
      rw [monthOf, monthOf, sameYear, sameInYear]
    have sameDate : dateOf first = dateOf second := by
      rw [dateOf, dateOf, sameYear, sameInYear, sameMonth]
    refine .inr ⟨by rw [sameYear], lex_isoRest (.inr ⟨sameMonth, .inr ⟨sameDate, ?_⟩⟩)⟩
    simp only [dayOf, msInDay, msPerDay] at sameDay ⊢
    omega
  · simp only [dayOf, msPerDay] at behind
    omega

/-- One instant is before another exactly if its text is. -/
theorem lex_isoText_iff {first second : Int} (inFirst : FourDigits first)
    (inSecond : FourDigits second)
    : List.Lex (· < ·) (isoText first) (isoText second) ↔ first < second := by
  constructor
  · intro before
    by_contra notLess
    rcases lt_or_eq_of_le (not_lt.mp notLess) with behind | same
    · have after := lex_isoText behind inSecond inFirst
      have notBoth : ∀ {x y : Char}, x < y → ¬ y < x := fun less => Char.lt_asymm less
      exact List.lex_asymm notBoth before after
    · rw [same] at before
      exact List.lex_irrefl Char.lt_irrefl _ before
  · intro less
    exact lex_isoText less inFirst inSecond

end ControlPlane.Library.Calendar

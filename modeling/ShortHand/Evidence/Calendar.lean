import Mathlib.Tactic.IntervalCases
import ShortHand.Evidence.Policy

/-! Dates of a policy, the order of their texts, and adding months to them. -/

namespace ShortHand.Evidence

open ShortHand.Library List

section Digits

variable {first second rest others : Bytes} {width value other : Nat}

/-- Texts of one length decide the order of what they begin. -/
theorem append_lt_append (lengths : first.length = second.length) :
    first ++ rest < second ++ others ↔ first < second ∨ first = second ∧ rest < others := by
  induction first generalizing second with
  | nil =>
    rw [length_nil, eq_comm, length_eq_zero_iff] at lengths
    simp [lengths]
  | cons byte first ih =>
    obtain ⟨head, second, rfl⟩ := exists_cons_of_length_eq_add_one lengths.symm
    simp only [cons_append, cons_lt_cons_iff, cons.injEq,
      ih (Nat.succ.inj lengths)]
    tauto

theorem padded_length : (padded width value).length = width := by
  induction width generalizing value with
  | zero => rfl
  | succ width ih => simp [padded, ih]

theorem decimal_concat (digits : Bytes) (digit : Byte) :
    decimal (digits ++ [digit]) = decimal digits * 10 + (digit.val - 48) := by
  simp [decimal]

theorem decimal_padded : decimal (padded width value) = value % 10 ^ width := by
  induction width generalizing value with
  | zero => simp [padded, decimal, Nat.mod_one]
  | succ width ih =>
    rw [padded, decimal_concat, ih, Nat.pow_succ', Nat.mod_mul, Fin.val_ofNat]
    omega

theorem padded_inj (small : value < 10 ^ width) (also : other < 10 ^ width) :
    padded width value = padded width other ↔ value = other := by
  refine ⟨fun same => ?_, congrArg _⟩
  have numbers := congrArg decimal same
  rwa [decimal_padded, decimal_padded, Nat.mod_eq_of_lt small, Nat.mod_eq_of_lt also] at numbers

theorem padded_lt_padded (small : value < 10 ^ width) (also : other < 10 ^ width) :
    padded width value < padded width other ↔ value < other := by
  induction width generalizing value other with
  | zero =>
    rw [Nat.lt_one_iff.mp small, Nat.lt_one_iff.mp also]
    simp
  | succ width ih =>
    have digit : Fin.ofNat 256 (48 + value % 10) < Fin.ofNat 256 (48 + other % 10) ↔
        value % 10 < other % 10 := by
      rw [Fin.lt_def, Fin.val_ofNat, Fin.val_ofNat]
      omega
    rw [padded, padded, append_lt_append (by simp [padded_length]), ih (by omega) (by omega),
      padded_inj (by omega) (by omega), cons_lt_cons_iff, digit]
    simp only [not_lt_nil, and_false, or_false]
    omega

theorem padded_decimal (digits : ∀ byte ∈ first, isDigit byte = true) :
    padded first.length (decimal first) = first := by
  induction first using reverseRecOn with
  | nil => rfl
  | append_singleton first digit ih =>
    rw [forall_mem_append] at digits
    have bounds : 48 ≤ digit.val ∧ digit.val ≤ 57 := by
      simpa [isDigit, Fin.le_def] using digits.2 digit mem_cons_self
    have quotient : (decimal first * 10 + (digit.val - 48)) / 10 = decimal first := by omega
    have last : 48 + (decimal first * 10 + (digit.val - 48)) % 10 = digit.val := by omega
    rw [decimal_concat, length_append, length_singleton, padded, quotient, last,
      ih digits.1, Fin.ofNat_val_eq_self]

end Digits

/-- The text of a date. -/
def isoDate (year month day : Nat) : Bytes := padded 4 year ++ 45 :: padded 2 month ++ 45 :: padded 2 day

/-- A date of the calendar. -/
structure IsDate (year month day : Nat) : Prop where
  years : 2000 ≤ year ∧ year ≤ 9999
  months : 1 ≤ month ∧ month ≤ 12
  days : 1 ≤ day ∧ day ≤ daysInMonth year month

section Dates

variable {year month day otherYear otherMonth otherDay : Nat}

theorem daysInMonth_bounds (known : 1 ≤ month ∧ month ≤ 12) :
    28 ≤ daysInMonth year month ∧ daysInMonth year month ≤ 31 := by
  obtain ⟨lower, upper⟩ := known
  unfold daysInMonth
  generalize isLeapYear year = leap
  revert leap
  interval_cases month <;> decide

theorem IsDate.small (date : IsDate year month day) : year < 10 ^ 4 ∧ month < 10 ^ 2 ∧ day < 10 ^ 2 := by
  have days := (@daysInMonth_bounds year month date.months).2
  have last := date.days.2
  have upper := date.months.2
  exact ⟨Nat.lt_succ_of_le date.years.2, by omega, by omega⟩

theorem isoDate_parts (date : IsDate year month day) :
    yearOf (isoDate year month day) = year ∧ monthOf (isoDate year month day) = month ∧
      dayOf (isoDate year month day) = day := by
  obtain ⟨smallYear, smallMonth, smallDay⟩ := date.small
  exact ⟨decimal_padded.trans (Nat.mod_eq_of_lt smallYear),
    decimal_padded.trans (Nat.mod_eq_of_lt smallMonth), decimal_padded.trans (Nat.mod_eq_of_lt smallDay)⟩

theorem padded_digits : ∀ byte ∈ padded width value, isDigit byte = true := by
  have digits : ∀ digit < 10, isDigit (Fin.ofNat 256 (48 + digit)) = true := by decide
  induction width generalizing value with
  | zero => nofun
  | succ width ih =>
    exact forall_mem_append.mpr
      ⟨ih, forall_mem_singleton.mpr (digits _ (Nat.mod_lt _ (by decide)))⟩

theorem validIsoDate_iff :
    validIsoDate value = true ↔ ∃ year month day, IsDate year month day ∧ value = isoDate year month day := by
  constructor
  · intro valid
    simp only [validIsoDate, Bool.and_eq_true, decide_eq_true_eq, all_eq_true,
      forall_mem_append] at valid
    obtain ⟨⟨⟨⟨⟨⟨⟨⟨length, dash⟩, second⟩, ⟨years, months⟩, days⟩, low⟩, month⟩, last⟩, day⟩, most⟩ := valid
    obtain ⟨a, b, c, d, e, f, g, h, i, j, rfl⟩ : ∃ a b c d e f g h i j,
        value = [a, b, c, d, e, f, g, h, i, j] := by
      match value, length with
      | [a, b, c, d, e, f, g, h, i, j], _ => exact ⟨a, b, c, d, e, f, g, h, i, j, rfl⟩
    have yearText : padded 4 (yearOf [a, b, c, d, e, f, g, h, i, j]) = [a, b, c, d] :=
      padded_decimal years
    have monthText : padded 2 (monthOf [a, b, c, d, e, f, g, h, i, j]) = [f, g] :=
      padded_decimal months
    have dayText : padded 2 (dayOf [a, b, c, d, e, f, g, h, i, j]) = [i, j] := padded_decimal days
    have small : yearOf [a, b, c, d, e, f, g, h, i, j] < 10 ^ 4 := by
      change decimal [a, b, c, d] < _
      rw [← yearText, decimal_padded]
      exact Nat.mod_lt _ (by decide)
    refine ⟨_, _, _, ⟨⟨low, Nat.le_of_lt_succ small⟩, ⟨month, last⟩, ⟨day, most⟩⟩, ?_⟩
    rw [isoDate, yearText, monthText, dayText]
    cases dash
    cases second
    rfl
  · rintro ⟨year, month, day, date, rfl⟩
    obtain ⟨isYear, isMonth, isDay⟩ := isoDate_parts date
    have digits : ∀ byte ∈ padded 4 year ++ padded 2 month ++ padded 2 day, isDigit byte = true :=
      forall_mem_append.mpr ⟨forall_mem_append.mpr ⟨padded_digits, padded_digits⟩,
        padded_digits⟩
    simp only [validIsoDate, isYear, isMonth, isDay, Bool.and_eq_true, decide_eq_true_eq,
      all_eq_true]
    exact ⟨⟨⟨⟨⟨⟨⟨⟨rfl, rfl⟩, rfl⟩, digits⟩, date.years.1⟩, date.months.1⟩, date.months.2⟩,
      date.days.1⟩, date.days.2⟩

end Dates

/-- Earlier in the calendar, or the same day. -/
def Chronological (date other : Bytes) : Prop :=
  yearOf date < yearOf other ∨ yearOf date = yearOf other ∧
    (monthOf date < monthOf other ∨ monthOf date = monthOf other ∧ dayOf date ≤ dayOf other)

/-- The order of the texts is that of the calendar. -/
theorem le_iff_chronological (valid : validIsoDate date = true) (also : validIsoDate other = true) :
    date ≤ other ↔ Chronological date other := by
  obtain ⟨year, month, day, isDate, rfl⟩ := validIsoDate_iff.mp valid
  obtain ⟨otherYear, otherMonth, otherDay, alsoDate, rfl⟩ := validIsoDate_iff.mp also
  obtain ⟨smallYear, smallMonth, smallDay⟩ := isDate.small
  obtain ⟨alsoYear, alsoMonth, alsoDay⟩ := alsoDate.small
  have later : isoDate otherYear otherMonth otherDay < isoDate year month day ↔ otherYear < year ∨
      otherYear = year ∧ (otherMonth < month ∨ otherMonth = month ∧ otherDay < day) := by
    simp only [isoDate, append_assoc, cons_append,
      append_lt_append (padded_length.trans padded_length.symm), padded_lt_padded alsoYear smallYear,
      padded_inj alsoYear smallYear, cons_lt_cons_iff, lt_irrefl, false_or, true_and,
      padded_lt_padded alsoMonth smallMonth, padded_inj alsoMonth smallMonth,
      padded_lt_padded alsoDay smallDay]
  rw [← not_lt, later, Chronological, (isoDate_parts isDate).1, (isoDate_parts isDate).2.1,
    (isoDate_parts isDate).2.2, (isoDate_parts alsoDate).1, (isoDate_parts alsoDate).2.1,
    (isoDate_parts alsoDate).2.2]
  omega

/-- The months of the calendar, counted. -/
def monthsOf (date : Bytes) : Nat := yearOf date * 12 + (monthOf date - 1)

/-- A day of a counted month, or its last one. -/
def dateIn (months day : Nat) : Bytes :=
  isoDate (months / 12) (months % 12 + 1) (min day (daysInMonth (months / 12) (months % 12 + 1)))

section Months

variable {months later day otherDay : Nat}

theorem isDate_dateIn (range : 2000 * 12 ≤ months ∧ months < 10000 * 12) (positive : 1 ≤ day) :
    IsDate (months / 12) (months % 12 + 1) (min day (daysInMonth (months / 12) (months % 12 + 1))) := by
  have month : 1 ≤ months % 12 + 1 ∧ months % 12 + 1 ≤ 12 := by omega
  have days := (@daysInMonth_bounds (months / 12) _ month).1
  exact ⟨by omega, month, by omega, Nat.min_le_right _ _⟩

theorem dateIn_le (range : 2000 * 12 ≤ months ∧ later < 10000 * 12) (order : months ≤ later)
    (positive : 1 ≤ day ∧ 1 ≤ otherDay) (days : months = later → day ≤ otherDay) :
    dateIn months day ≤ dateIn later otherDay := by
  have isDate := @isDate_dateIn months day (by omega) positive.1
  have also := @isDate_dateIn later otherDay (by omega) positive.2
  obtain ⟨isYear, isMonth, isDay⟩ := isoDate_parts isDate
  obtain ⟨alsoYear, alsoMonth, alsoDay⟩ := isoDate_parts also
  refine (le_iff_chronological (validIsoDate_iff.mpr ⟨_, _, _, isDate, rfl⟩)
    (validIsoDate_iff.mpr ⟨_, _, _, also, rfl⟩)).mpr ?_
  rw [Chronological]
  rcases Nat.lt_or_eq_of_le order with less | rfl
  · omega
  · have smaller := days rfl
    omega

end Months

section Adding

variable {date other : Bytes} {count more : Nat}

theorem addMonths_eq (valid : validIsoDate date = true) (range : monthsOf date + count < 10000 * 12) :
    addMonths date count = .ok (dateIn (monthsOf date + count) (dayOf date)) := by
  obtain ⟨year, month, day, isDate, rfl⟩ := validIsoDate_iff.mp valid
  obtain ⟨isYear, isMonth, isDay⟩ := isoDate_parts isDate
  have positive := isDate.months.1
  rw [monthsOf] at range ⊢
  have years : year + (month + count - 1) / 12 = (year * 12 + (month - 1) + count) / 12 := by omega
  have rests : (month + count - 1) % 12 = (year * 12 + (month - 1) + count) % 12 := by omega
  simp only [addMonths, valid, isYear, isMonth, isDay, years, rests, bind_eq_ok, require_eq_ok,
    decide_eq_true_eq]
  exact ⟨(), trivial, (), by omega, rfl⟩

/-- What adding months needs to know of a date. -/
theorem valid_bounds (valid : validIsoDate date = true) :
    2000 * 12 ≤ monthsOf date ∧ (1 ≤ monthOf date ∧ monthOf date ≤ 12) ∧ 1 ≤ dayOf date := by
  obtain ⟨year, month, day, isDate, rfl⟩ := validIsoDate_iff.mp valid
  obtain ⟨isYear, isMonth, isDay⟩ := isoDate_parts isDate
  have low := isDate.years.1
  rw [monthsOf, isMonth, isDay]
  exact ⟨by omega, isDate.months, isDate.days.1⟩

/-- Adding months: the day in the later month, or its last one; later dates and further
months give later dates; and the order of the texts is that of the calendar. -/
theorem addMonths_calendar (valid : validIsoDate date = true) (also : validIsoDate other = true)
    (order : count ≤ more) (range : monthsOf date + more < 10000 * 12)
    (otherRange : monthsOf other + count < 10000 * 12) :
    ∃ added further otherAdded, addMonths date count = .ok added ∧ addMonths date more = .ok further ∧
      addMonths other count = .ok otherAdded ∧
      validIsoDate added = true ∧ monthsOf added = monthsOf date + count ∧
      dayOf added = min (dayOf date) (daysInMonth (yearOf added) (monthOf added)) ∧
      (date ≤ other → added ≤ otherAdded) ∧ added ≤ further ∧
      (date ≤ other ↔ Chronological date other) := by
  obtain ⟨low, month, positive⟩ := valid_bounds valid
  obtain ⟨alsoLow, alsoMonth, alsoPositive⟩ := valid_bounds also
  have isDate := @isDate_dateIn (monthsOf date + count) (dayOf date) (by omega) positive
  obtain ⟨isYear, isMonth, isDay⟩ := isoDate_parts isDate
  refine ⟨_, _, _, addMonths_eq valid (by omega), addMonths_eq valid range, addMonths_eq also otherRange,
    validIsoDate_iff.mpr ⟨_, _, _, isDate, rfl⟩, ?_, ?_, ?_, ?_, le_iff_chronological valid also⟩
  · rw [monthsOf, dateIn]
    omega
  · rw [dateIn, isYear, isMonth, isDay]
  · intro earlier
    rw [le_iff_chronological valid also, Chronological] at earlier
    unfold monthsOf at low alsoLow otherRange range ⊢
    exact dateIn_le (by omega) (by omega) ⟨positive, alsoPositive⟩ (by omega)
  · exact dateIn_le (by omega) (by omega) ⟨positive, positive⟩ fun _ => le_rfl

/-- From the last day of January over a leap day. -/
theorem addMonths_calendar_leap :
    ∃ added further otherAdded, addMonths (ascii "2024-01-31") 1 = .ok added ∧
      addMonths (ascii "2024-01-31") 13 = .ok further ∧ addMonths (ascii "2024-02-01") 1 = .ok otherAdded ∧
      added ≤ otherAdded ∧ added ≤ further := by
  obtain ⟨added, further, otherAdded, isAdded, isFurther, isOther, _, _, _, ordered, longer, _⟩ :=
    @addMonths_calendar (ascii "2024-01-31") (ascii "2024-02-01") 1 13 (by decide +kernel)
      (by decide +kernel) (by decide) (by decide +kernel) (by decide +kernel)
  exact ⟨added, further, otherAdded, isAdded, isFurther, isOther, ordered (by decide +kernel), longer⟩

end Adding

end ShortHand.Evidence

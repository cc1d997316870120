import Conform.Instant

/-
  Days and dates of the calendar. Every day has a date that
  the calendar has, and the number of this date is the day.

  Within an era years are counted from March. A century has
  36524 days, four years have 1461 and a year has 365, and
  the day that is left over at the end of four years, or at
  the end of the era, is the leap day.

  Main declarations:
    * `Calendar.EraDay`
    * `Calendar.exists_eraDay`
    * `Calendar.yearOfEra_number`
    * `Calendar.MarchDate`
    * `Calendar.exists_marchDate`
    * `Calendar.dayNumber_ofDayNumber`
    * `Calendar.isValid_ofDayNumber`
-/

namespace Conform

namespace Calendar

------------------------------------------------------------
-- Days of an Era
------------------------------------------------------------

/-
  A day of an era: the century, the group of four years in
  it, the year of the group and the day of the year, all
  from zero. Day 365 is the leap day. The last group of a
  century has none, but for the last century.
-/
structure EraDay where
  century : Int
  group : Int
  year : Int
  day : Int
  century_mem : 0 ≤ century ∧ century ≤ 3
  group_mem : 0 ≤ group ∧ group ≤ 24
  year_mem : 0 ≤ year ∧ year ≤ 3
  day_mem : 0 ≤ day ∧ day ≤ 365
  leap : day = 365 → year = 3 ∧ (group < 24 ∨ century = 3)

namespace EraDay

variable (d : EraDay)

/- The year of the era. -/
def yearOfEra : Int :=
  100 * d.century + 4 * d.group + d.year

/- The number of days of the era before the day. -/
def number : Int :=
  36524 * d.century + 1461 * d.group + 365 * d.year + d.day

theorem yearOfEra_mem :
    0 ≤ d.yearOfEra ∧ d.yearOfEra ≤ 399 := by
  have hCentury := d.century_mem
  have hGroup := d.group_mem
  have hYear := d.year_mem
  unfold yearOfEra
  omega

/- The years before have their own days and leap days. -/
theorem number_eq :
    d.number = yearStart d.yearOfEra + d.day := by
  have hGroup := d.group_mem
  have hYear := d.year_mem
  unfold yearStart yearOfEra number
  omega

/- The leap day belongs to a leap year of the calendar. -/
theorem isLeapYear_of_leap
    (era : Int)
    (h : d.day = 365) :
    isLeapYear (era * 400 + d.yearOfEra + 1) = true := by
  have hCentury := d.century_mem
  have hGroup := d.group_mem
  have hLeap := d.leap h
  unfold isLeapYear yearOfEra
  simp only [Bool.and_eq_true, Bool.or_eq_true, beq_iff_eq,
    bne_iff_ne]
  omega

end EraDay

/-
  A day of an era by its century. The last day of the era
  would start a fifth century if it were not held back.
-/
theorem exists_century
    {n : Int}
    (hLeast : 0 ≤ n)
    (hMost : n < 146097) :
    ∃ century m, (0 ≤ century ∧ century ≤ 3) ∧
      0 ≤ m ∧ (m < 36524 ∨ (century = 3 ∧ m = 36524)) ∧
      36524 * century + m = n := by
  refine ⟨(n - n / 146096) / 36524,
    n - 36524 * ((n - n / 146096) / 36524), ?_⟩
  omega

/- A day of a century by its group of four years. -/
theorem exists_group
    {m : Int}
    (hLeast : 0 ≤ m)
    (hMost : m ≤ 36524) :
    ∃ group r, (0 ≤ group ∧ group ≤ 24) ∧
      0 ≤ r ∧ r ≤ 1460 ∧
      (r = 1460 → group < 24 ∨ m = 36524) ∧
      1461 * group + r = m := by
  refine ⟨m / 1461, m - 1461 * (m / 1461), ?_⟩
  omega

/-
  A day of four years by its year. The last day would start
  a fifth year if it were not held back.
-/
theorem exists_yearOfGroup
    {r : Int}
    (hLeast : 0 ≤ r)
    (hMost : r ≤ 1460) :
    ∃ year day, (0 ≤ year ∧ year ≤ 3) ∧
      (0 ≤ day ∧ day ≤ 365) ∧
      (day = 365 → year = 3 ∧ r = 1460) ∧
      365 * year + day = r := by
  refine ⟨(r - r / 1460) / 365,
    r - 365 * ((r - r / 1460) / 365), ?_⟩
  omega

/- Every day of an era is such a day. -/
theorem exists_eraDay
    {n : Int}
    (hLeast : 0 ≤ n)
    (hMost : n < 146097) :
    ∃ d : EraDay, d.number = n := by
  rcases exists_century hLeast hMost with
    ⟨century, m, hCentury, hNonneg, hLess, rfl⟩
  have hUpTo : m ≤ 36524 := by
    clear hLeast hMost
    omega
  rcases exists_group hNonneg hUpTo with
    ⟨group, r, hGroup, hStart, hEnd, hLast, rfl⟩
  rcases exists_yearOfGroup hStart hEnd with
    ⟨year, day, hYear, hDay, hHeld, rfl⟩
  have hLeap : day = 365 →
      year = 3 ∧ (group < 24 ∨ century = 3) := by
    intro hLeapDay
    rcases hHeld hLeapDay with ⟨hThird, hFull⟩
    refine ⟨hThird, (hLast hFull).imp_right fun hWhole => ?_⟩
    rcases hLess with hShort | ⟨hFourth, _⟩
    · rw [hWhole] at hShort
      exact absurd hShort (Int.lt_irrefl _)
    · exact hFourth
  refine ⟨⟨century, group, year, day, hCentury, hGroup, hYear,
    hDay, hLeap⟩, ?_⟩
  unfold EraDay.number
  dsimp only
  clear hLess hLast hHeld hLeap
  omega

/-
  The year of a day is found by taking the leap days before
  it away. The last day of a year of 366 days is still one
  of its days, since the leap day is not before itself.
-/
theorem yearOfEra_number
    (d : EraDay) :
    yearOfEra d.number = d.yearOfEra := by
  have hCentury := d.century_mem
  have hGroup := d.group_mem
  have hYear := d.year_mem
  have hDay := d.day_mem
  have hLeap := d.leap
  generalize hNumber : d.number = n
  unfold EraDay.number at hNumber
  have hLeapDays :
      (n / 1460 = 25 * d.century + d.group ∧ d.day < 365) ∨
      (n / 1460 = 25 * d.century + d.group + 1 ∧
        0 < d.day) := by
    omega
  have hCenturies :
      (n / 36524 = d.century ∧ n / 146096 = 0) ∨
      (n / 36524 = d.century + 1 ∧ n / 146096 = 1) := by
    omega
  unfold yearOfEra EraDay.yearOfEra
  omega

------------------------------------------------------------
-- Dates Counted from March
------------------------------------------------------------

/-
  An era with a year, a month and a day of the month that
  are counted from March and from zero. A day lies before
  the next month. The last month has 28 days, or 29 if its
  calendar year is a leap year.
-/
structure MarchDate where
  era : Int
  year : Int
  month : Int
  day : Int
  year_mem : 0 ≤ year ∧ year ≤ 399
  month_mem : 0 ≤ month ∧ month ≤ 11
  day_nonneg : 0 ≤ day
  day_lt : month ≠ 11 →
    day < monthStart (month + 1) - monthStart month
  day_le : month = 11 → day ≤ 28
  leap : month = 11 → day = 28 →
    isLeapYear (era * 400 + year + 1) = true

namespace MarchDate

variable (d : MarchDate)

/- The day with this date, counted from 1970-01-01. -/
def number : Int :=
  d.era * 146097 +
    (yearStart d.year + monthStart d.month + d.day) - 719468

/- January and February lie in the next calendar year. -/
def date : Date :=
  if 10 ≤ d.month then
    ⟨d.era * 400 + d.year + 1, (d.month - 9).toNat,
      (d.day + 1).toNat⟩
  else
    ⟨d.era * 400 + d.year, (d.month + 3).toNat,
      (d.day + 1).toNat⟩

theorem dayNumber_date :
    dayNumber d.date = d.number := by
  have hYear := d.year_mem
  have hMonth := d.month_mem
  have hDay := d.day_nonneg
  unfold dayNumber date number
  by_cases hEarly : 10 ≤ d.month
  · have hLow : (d.month - 9).toNat ≤ 2 := by omega
    simp only [if_pos hEarly, hLow, decide_true, if_true]
    have hEra : (d.era * 400 + d.year + 1 - 1) / 400 =
        d.era := by omega
    have hOfEra : (d.era * 400 + d.year + 1 - 1) % 400 =
        d.year := by omega
    have hIndex : (((d.month - 9).toNat : Int) + 9) =
        d.month := by omega
    rw [hEra, hOfEra, hIndex]
    omega
  · have hHigh : ¬ (d.month + 3).toNat ≤ 2 := by omega
    simp only [if_neg hEarly, hHigh, decide_false,
      Bool.false_eq_true, if_false]
    have hEra : (d.era * 400 + d.year) / 400 = d.era := by
      omega
    have hOfEra : (d.era * 400 + d.year) % 400 = d.year := by
      omega
    have hIndex : (((d.month + 3).toNat : Int) - 3) =
        d.month := by omega
    rw [hEra, hOfEra, hIndex]
    omega

/- From March to December the next month ends a month. -/
theorem monthLength_of_march
    (year month : Int)
    (h : 0 ≤ month ∧ month ≤ 9) :
    (monthLength year (month + 3).toNat : Int) =
      monthStart (month + 1) - monthStart month := by
  have hMonth : month = 0 ∨ month = 1 ∨ month = 2 ∨
      month = 3 ∨ month = 4 ∨ month = 5 ∨ month = 6 ∨
      month = 7 ∨ month = 8 ∨ month = 9 := by
    omega
  rcases hMonth with
    rfl | rfl | rfl | rfl | rfl | rfl | rfl | rfl | rfl | rfl
  all_goals rfl

theorem isValid_date :
    d.date.IsValid := by
  have hMonth := d.month_mem
  have hDay := d.day_nonneg
  have hNext := d.day_lt
  unfold date Date.IsValid
  by_cases hEarly : 10 ≤ d.month
  · rw [if_pos hEarly]
    dsimp only
    by_cases hLast : d.month = 11
    · have hMost := d.day_le hLast
      have hLeap := d.leap hLast
      rw [hLast]
      change _ ∧ _ ∧ _ ∧ _ ≤
        if isLeapYear (d.era * 400 + d.year + 1) then 29 else 28
      split
      · omega
      · have hShort : d.day ≠ 28 := by
          intro hEnd
          exact absurd (hLeap hEnd) ‹_›
        omega
    · have hJanuary : d.month = 10 := by omega
      rw [hJanuary] at hNext ⊢
      have hLess : d.day < 31 := hNext (by decide)
      change _ ∧ _ ∧ _ ∧ _ ≤ 31
      omega
  · rw [if_neg hEarly]
    dsimp only
    have hLength := monthLength_of_march
      (d.era * 400 + d.year) d.month (by omega)
    have hLess := hNext (by omega)
    rw [← hLength] at hLess
    omega

end MarchDate

/- Every day has a date counted from March. -/
theorem exists_marchDate
    (n : Int) :
    ∃ d : MarchDate, d.number = n ∧ d.date = ofDayNumber n := by
  obtain ⟨era, hEra⟩ :
      ∃ e, e = (n + 719468) / 146097 := ⟨_, rfl⟩
  have hLeast : 0 ≤ (n + 719468) % 146097 := by omega
  have hMost : (n + 719468) % 146097 < 146097 := by omega
  rcases exists_eraDay hLeast hMost with ⟨e, hNumber⟩
  have hStart := e.number_eq
  have hDayMem := e.day_mem
  obtain ⟨month, hMonth⟩ :
      ∃ m, m = (5 * e.day + 2) / 153 := ⟨_, rfl⟩
  have hMonthMem : 0 ≤ month ∧ month ≤ 11 := by omega
  have hNonneg : 0 ≤ e.day - monthStart month := by
    unfold monthStart
    omega
  have hLess : month ≠ 11 → e.day - monthStart month <
      monthStart (month + 1) - monthStart month := by
    unfold monthStart
    omega
  have hLast : month = 11 → e.day - monthStart month ≤ 28 := by
    unfold monthStart
    omega
  have hLeap : month = 11 → e.day - monthStart month = 28 →
      isLeapYear (era * 400 + e.yearOfEra + 1) = true := by
    intro hFebruary hEnd
    apply e.isLeapYear_of_leap
    unfold monthStart at hEnd
    omega
  refine ⟨⟨era, e.yearOfEra, month, e.day - monthStart month,
    e.yearOfEra_mem, hMonthMem, hNonneg, hLess, hLast, hLeap⟩,
    ?_, ?_⟩
  · unfold MarchDate.number
    dsimp only
    omega
  · have hDay : e.number - yearStart e.yearOfEra = e.day := by
      omega
    unfold ofDayNumber MarchDate.date
    dsimp only
    rw [← hNumber, yearOfEra_number, hDay, ← hEra, ← hMonth]
    by_cases hEarly : 10 ≤ month
    · simp [hEarly]
    · simp [hEarly]

/- No month has more than 31 days. -/
theorem monthLength_le
    (year : Int)
    (month : Nat) :
    monthLength year month ≤ 31 := by
  unfold monthLength
  split
  · split <;> decide
  · split <;> decide

/- The number of the date of a day is the day. -/
theorem dayNumber_ofDayNumber
    (n : Int) :
    dayNumber (ofDayNumber n) = n := by
  rcases exists_marchDate n with ⟨d, hNumber, hDate⟩
  rw [← hDate, d.dayNumber_date, hNumber]

/- The calendar has the date of every day. -/
theorem isValid_ofDayNumber
    (n : Int) :
    (ofDayNumber n).IsValid := by
  rcases exists_marchDate n with ⟨d, _, hDate⟩
  rw [← hDate]
  exact d.isValid_date

end Calendar

end Conform

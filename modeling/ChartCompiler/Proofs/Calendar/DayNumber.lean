import Mathlib
import ChartCompiler.Calendar.Date

/-!
Dates and day numbers. `Date.dayNumber` counts the days since 1 January 1970 from the lengths of
the years and months in between. A date is found from its day number by arithmetic on eras of
years that begin in March; `Date.ofDays?_eq_some_iff` says that this finds exactly the date that
has the number.
-/

namespace ChartCompiler.Calendar

/-! ## Counting days -/

/-- The days from 1 January 1970 to 1 January of a year: one more than 365 for each leap year in
between. -/
def daysBeforeYear (year : Int) : Int :=
  365 * (year - 1970) + ((year - 1) / 4 - (year - 1) / 100 + (year - 1) / 400 - 477)

/-- The days of a year in front of a month. -/
def daysBeforeMonth (year : Int) (month : Nat) : Nat :=
  ∑ earlier ∈ Finset.Ico 1 month, daysInMonth year earlier

/-- The number of a day, counted from 1 January 1970. -/
def dayNumber (year : Int) (month day : Nat) : Int :=
  daysBeforeYear year + daysBeforeMonth year month + (day - 1)

/-- The number of the day, counted from 1 January 1970. -/
def Date.dayNumber (date : Date) : Int :=
  Calendar.dayNumber date.year date.month date.day

example : Date.dayNumber ⟨1970, 1, 1, by decide⟩ = 0 := by decide

/-- The leap day of a year, if it has one. -/
def leapDays (year : Int) : Nat :=
  if isLeapYear year then 1 else 0

theorem leapDays_eq (year : Int) :
    leapDays year = if year % 4 = 0 ∧ (year % 100 ≠ 0 ∨ year % 400 = 0) then 1 else 0 := by
  simp [leapDays, isLeapYear]

theorem daysInMonth_two (year : Int) : daysInMonth year 2 = 28 + leapDays year := by
  cases leap : isLeapYear year <;> simp [daysInMonth, leapDays, leap]

theorem daysBeforeYear_succ (year : Int) :
    daysBeforeYear (year + 1) = daysBeforeYear year + 365 + leapDays year := by
  rw [daysBeforeYear, daysBeforeYear, leapDays_eq]
  split <;> omega

theorem daysBeforeMonth_succ (year : Int) {month : Nat} (isMonth : 1 ≤ month) :
    daysBeforeMonth year (month + 1) = daysBeforeMonth year month + daysInMonth year month :=
  Finset.sum_Ico_succ_top isMonth _

theorem daysBeforeMonth_mono (year : Int) : Monotone (daysBeforeMonth year) := fun _ _ le =>
  Finset.sum_le_sum_of_subset (Finset.Ico_subset_Ico_right le)

/-- From March on, months follow a pattern of five in 153 days. -/
theorem daysBeforeMonth_fromMarch (year : Int) {index : Nat} (isIndex : index ≤ 10) :
    daysBeforeMonth year (index + 3) = 59 + leapDays year + (153 * index + 2) / 5 := by
  have firstTwo : daysBeforeMonth year 3 = 59 + leapDays year := by
    rw [daysBeforeMonth_succ year (by decide), daysBeforeMonth_succ year (by decide),
      daysInMonth_two]
    simp [daysBeforeMonth, daysInMonth]
    omega
  induction index with
  | zero => exact firstTwo
  | succ index ih =>
    rw [show index + 1 + 3 = index + 3 + 1 by omega, daysBeforeMonth_succ year (by omega),
      ih (by omega)]
    have isIndex : index ≤ 9 := by omega
    interval_cases index <;> simp [daysInMonth]

/-! ## Days have one date -/

/-- The month and the day exist. -/
def IsDay (year : Int) (month day : Nat) : Prop :=
  1 ≤ month ∧ month ≤ 12 ∧ 1 ≤ day ∧ day ≤ daysInMonth year month

theorem daysInMonth_le (year : Int) (month : Nat) : daysInMonth year month ≤ 31 := by
  rw [daysInMonth]
  split <;> split <;> decide

theorem Date.isDay (date : Date) : IsDay date.year date.month date.day :=
  date.isDate.2.2

section

variable {year other : Int} {month otherMonth day otherDay : Nat}

theorem daysBeforeYear_mono : Monotone daysBeforeYear :=
  monotone_int_of_le_succ fun year => by rw [daysBeforeYear_succ]; omega

theorem daysBeforeMonth_le (year : Int) {month : Nat} (isMonth : month ≤ 13) :
    daysBeforeMonth year month ≤ 365 + leapDays year := by
  have all : daysBeforeMonth year 13 = 365 + leapDays year := by
    rw [daysBeforeMonth_fromMarch year (le_refl 10)]
    omega
  exact all ▸ daysBeforeMonth_mono year isMonth

/-- A day lies in its month and its year. -/
theorem IsDay.bounds (isDay : IsDay year month day) :
    daysBeforeYear year + daysBeforeMonth year month ≤ dayNumber year month day ∧
      dayNumber year month day < daysBeforeYear year + daysBeforeMonth year (month + 1) ∧
      dayNumber year month day < daysBeforeYear (year + 1) := by
  obtain ⟨first, last, one, fits⟩ := isDay
  have inMonth := daysBeforeMonth_succ year first
  have inYear := daysBeforeMonth_le year (show month + 1 ≤ 13 by omega)
  rw [dayNumber, daysBeforeYear_succ]
  omega

theorem IsDay.dayNumber_lt_of_year_lt (isDay : IsDay year month day)
    (later : IsDay other otherMonth otherDay) (before : year < other) :
    dayNumber year month day < dayNumber other otherMonth otherDay := by
  have apart := daysBeforeYear_mono (Int.add_one_le_of_lt before)
  have := isDay.bounds
  have := later.bounds
  omega

theorem IsDay.dayNumber_lt_of_month_lt (isDay : IsDay year month day)
    (later : IsDay year otherMonth otherDay) (before : month < otherMonth) :
    dayNumber year month day < dayNumber year otherMonth otherDay := by
  have apart := daysBeforeMonth_mono year (show month + 1 ≤ otherMonth from before)
  have := isDay.bounds
  have := later.bounds
  omega

theorem IsDay.eq_of_dayNumber_eq (isDay : IsDay year month day)
    (alike : IsDay other otherMonth otherDay)
    (same : dayNumber year month day = dayNumber other otherMonth otherDay) :
    year = other ∧ month = otherMonth ∧ day = otherDay := by
  obtain rfl : year = other := by
    rcases lt_trichotomy year other with before | equal | after
    · exact absurd same (isDay.dayNumber_lt_of_year_lt alike before).ne
    · exact equal
    · exact absurd same (alike.dayNumber_lt_of_year_lt isDay after).ne'
  obtain rfl : month = otherMonth := by
    rcases lt_trichotomy month otherMonth with before | equal | after
    · exact absurd same (isDay.dayNumber_lt_of_month_lt alike before).ne
    · exact equal
    · exact absurd same (alike.dayNumber_lt_of_month_lt isDay after).ne'
  refine ⟨rfl, rfl, ?_⟩
  rw [dayNumber, dayNumber] at same
  omega

end

/-! ## Eras and years that begin in March -/

/-- The days of an era in front of one of its years. -/
def daysBeforeYearOfEra (year : Nat) : Nat :=
  365 * year + year / 4 - year / 100 + year / 400

/-- The year of an era that holds one of its days. -/
theorem yearOfEra_bounds {dayOfEra yearOfEra : Nat} (inEra : dayOfEra < 146097)
    (isYear : yearOfEra =
      (dayOfEra - dayOfEra / 1460 + dayOfEra / 36524 - dayOfEra / 146096) / 365) :
    yearOfEra < 400 ∧ daysBeforeYearOfEra yearOfEra ≤ dayOfEra ∧
      dayOfEra < daysBeforeYearOfEra (yearOfEra + 1) := by
  unfold daysBeforeYearOfEra
  -- the last day of an era is the one that would begin a fifth century
  rcases Nat.lt_succ_iff_lt_or_eq.mp inEra with inEra | rfl
  swap
  · subst isYear
    decide
  have notLast : dayOfEra / 146096 = 0 := Nat.div_eq_of_lt inEra
  obtain ⟨century, isCentury⟩ : ∃ century, dayOfEra / 36524 = century := ⟨_, rfl⟩
  obtain ⟨group, isGroup⟩ : ∃ group, dayOfEra / 1460 = group := ⟨_, rfl⟩
  rw [notLast, isCentury, isGroup, Nat.sub_zero] at isYear
  have inCentury : 36524 * century ≤ dayOfEra ∧ dayOfEra < 36524 * century + 36524 := by omega
  have inGroup : 1460 * group ≤ dayOfEra ∧ dayOfEra < 1460 * group + 1460 := by omega
  have inYear : 365 * yearOfEra ≤ dayOfEra - group + century ∧
      dayOfEra - group + century < 365 * yearOfEra + 365 := by omega
  clear isYear isCentury isGroup notLast
  have fewCenturies : century ≤ 3 := by omega
  have hundred : yearOfEra / 100 = century := by omega
  -- the days are counted in groups of 1460, so that a leap day may stand in the next group
  have four : group = yearOfEra / 4 ∨ group = yearOfEra / 4 + 1 := by omega
  have nextHundred : (yearOfEra + 1) / 100 =
      if yearOfEra % 100 = 99 then century + 1 else century := by split <;> omega
  have nextFour : (yearOfEra + 1) / 4 =
      if yearOfEra % 4 = 3 then yearOfEra / 4 + 1 else yearOfEra / 4 := by split <;> omega
  have nextEra : (yearOfEra + 1) / 400 = if yearOfEra = 399 then 1 else 0 := by split <;> omega
  refine ⟨by omega, by omega, ?_⟩
  rw [nextHundred, nextFour, nextEra]
  rcases four with rfl | rfl <;> split <;> omega

theorem leapDays_add (year : Int) :
    leapDays year + (if 100 ∣ year then 1 else 0) =
      (if 4 ∣ year then 1 else 0) + if 400 ∣ year then 1 else 0 := by
  have centuries : 100 ∣ year → 4 ∣ year := (by decide : (4 : Int) ∣ 100).trans
  have eras : 400 ∣ year → 100 ∣ year := (by decide : (100 : Int) ∣ 400).trans
  rw [leapDays_eq]
  simp only [← Int.dvd_iff_emod_eq_zero]
  by_cases isHundred : 100 ∣ year
  · simp [isHundred, centuries isHundred, add_comm]
  · simp [isHundred, mt eras isHundred]

theorem daysBeforeYearOfEra_succ (era : Int) (year : Nat) :
    daysBeforeYearOfEra (year + 1) =
      daysBeforeYearOfEra year + 365 + leapDays (era * 400 + year + 1) := by
  have four : 4 ∣ era * 400 + year + 1 ↔ 4 ∣ year + 1 := by omega
  have hundred : 100 ∣ era * 400 + year + 1 ↔ 100 ∣ year + 1 := by omega
  have fourHundred : 400 ∣ era * 400 + year + 1 ↔ 400 ∣ year + 1 := by omega
  have leap := leapDays_add (era * 400 + year + 1)
  simp only [four, hundred, fourHundred] at leap
  have less : year / 100 ≤ year / 4 := by omega
  have nextLess : (year + 1) / 100 ≤ (year + 1) / 4 := by omega
  rw [Nat.succ_div, Nat.succ_div] at nextLess
  rw [daysBeforeYearOfEra, daysBeforeYearOfEra, Nat.succ_div, Nat.succ_div, Nat.succ_div]
  generalize (if 4 ∣ year + 1 then 1 else 0) = isFour at *
  generalize (if 100 ∣ year + 1 then 1 else 0) = isHundred at *
  generalize (if 400 ∣ year + 1 then 1 else 0) = isFourHundred at *
  omega

/-- The first of March stands 306 days before the next year. -/
theorem daysBeforeYear_era (era : Int) {year : Nat} (inEra : year < 400) :
    daysBeforeYear (era * 400 + year + 1) - 306 =
      146097 * era + daysBeforeYearOfEra year - 719468 := by
  rw [daysBeforeYear, daysBeforeYearOfEra]
  omega

/-- The month that holds a day of a year that begins in March. -/
theorem isDay_fromMarch {marchYear : Int} {dayOfYear monthIndex month : Nat}
    (inYear : dayOfYear < 365 + leapDays (marchYear + 1))
    (isIndex : monthIndex = (5 * dayOfYear + 2) / 153)
    (isMonth : month = if monthIndex < 10 then monthIndex + 3 else monthIndex - 9) :
    let year := marchYear + (if month ≤ 2 then 1 else 0)
    let day := dayOfYear - (153 * monthIndex + 2) / 5 + 1
    IsDay year month day ∧
      dayNumber year month day = daysBeforeYear (marchYear + 1) - 306 + dayOfYear := by
  have leap : leapDays (marchYear + 1) ≤ 1 := by
    rw [leapDays]
    split <;> omega
  have before : (153 * monthIndex + 2) / 5 ≤ dayOfYear := by omega
  have behind : dayOfYear < (153 * (monthIndex + 1) + 2) / 5 := by omega
  by_cases fromMarch : monthIndex < 10
  · have index : month = monthIndex + 3 := isMonth.trans (if_pos fromMarch)
    have late : ¬ month ≤ 2 := by omega
    simp only [if_neg late, add_zero]
    have days := daysBeforeMonth_fromMarch marchYear fromMarch.le
    have next := daysBeforeMonth_fromMarch marchYear (show monthIndex + 1 ≤ 10 by omega)
    have length := daysBeforeMonth_succ marchYear (show 1 ≤ month by omega)
    rw [show monthIndex + 1 + 3 = month + 1 by omega] at next
    rw [← index] at days
    refine ⟨⟨by omega, by omega, by omega, by omega⟩, ?_⟩
    rw [dayNumber, daysBeforeYear_succ]
    omega
  · -- January and February belong to the next year
    have index : month = monthIndex - 9 := isMonth.trans (if_neg fromMarch)
    have early : month ≤ 2 := by omega
    simp only [if_pos early]
    have none : daysBeforeMonth (marchYear + 1) 1 = 0 := rfl
    have first : daysInMonth (marchYear + 1) 1 = 31 := rfl
    have second := daysInMonth_two (marchYear + 1)
    have january : daysBeforeMonth (marchYear + 1) 2 = 31 :=
      daysBeforeMonth_succ (marchYear + 1) (le_refl 1)
    obtain rfl | rfl : month = 1 ∨ month = 2 := by omega
    all_goals
      refine ⟨⟨by omega, by omega, by omega, by omega⟩, ?_⟩
      rw [dayNumber]
      omega

/-- The arithmetic on eras finds the day of a number. -/
theorem ofDays?_eq_of? (days : Int) :
    ∃ year month day, Date.ofDays? days = Date.of? year month day ∧ IsDay year month day ∧
      dayNumber year month day = days := by
  obtain ⟨era, isEra⟩ : ∃ era, (days + 719468).fdiv 146097 = era := ⟨_, rfl⟩
  obtain ⟨dayOfEra, isDayOfEra⟩ : ∃ dayOfEra, (days + 719468 - era * 146097).toNat = dayOfEra :=
    ⟨_, rfl⟩
  obtain ⟨yearOfEra, isYear⟩ : ∃ yearOfEra, (dayOfEra - dayOfEra / 1460 + dayOfEra / 36524 -
    dayOfEra / 146096) / 365 = yearOfEra := ⟨_, rfl⟩
  have inEra : (dayOfEra : Int) = days + 719468 - era * 146097 ∧ dayOfEra < 146097 := by
    rw [Int.fdiv_eq_ediv_of_nonneg _ (by decide)] at isEra
    omega
  obtain ⟨inside, first, last⟩ := yearOfEra_bounds inEra.2 isYear.symm
  have inYear : dayOfEra - daysBeforeYearOfEra yearOfEra <
      365 + leapDays (era * 400 + yearOfEra + 1) := by
    rw [daysBeforeYearOfEra_succ era] at last
    omega
  obtain ⟨isDay, number⟩ := isDay_fromMarch inYear rfl rfl
  have start : 365 * yearOfEra + yearOfEra / 4 - yearOfEra / 100 =
      daysBeforeYearOfEra yearOfEra := by
    rw [daysBeforeYearOfEra]
    omega
  refine ⟨_, _, _, ?_, isDay, number.trans ?_⟩
  · simp only [Date.ofDays?, isEra, isDayOfEra, isYear, start]
  · rw [daysBeforeYear_era era inside]
    omega

theorem Date.of?_eq_some_iff {year : Int} {month day : Nat} {date : Date} :
    Date.of? year month day = some date ↔
      date.year = year ∧ date.month = month ∧ date.day = day := by
  rw [Date.of?]
  constructor
  · intro found
    split at found
    · cases found
      exact ⟨rfl, rfl, rfl⟩
    · cases found
  · rintro ⟨rfl, rfl, rfl⟩
    exact dif_pos date.isDate

/-- The date found for a number of days is the one that has the number. -/
theorem Date.ofDays?_eq_some_iff {days : Int} {date : Date} :
    Date.ofDays? days = some date ↔ date.dayNumber = days := by
  obtain ⟨year, month, day, found, isDay, number⟩ := ofDays?_eq_of? days
  rw [found, Date.of?_eq_some_iff]
  constructor
  · rintro ⟨rfl, rfl, rfl⟩
    exact number
  · intro isNumber
    exact date.isDay.eq_of_dayNumber_eq isDay (isNumber.trans number.symm)

theorem Date.dayNumber_eq_ediv_iff {ms : Int} {date : Date} :
    date.dayNumber = ms / 86400000 ↔
      date.dayNumber * 86400000 ≤ ms ∧ ms < (date.dayNumber + 1) * 86400000 := by
  omega

/-- The date of a point in time is the one whose day holds it. -/
theorem Date.ofMilliseconds?_eq_some_iff {ms : Int} {date : Date} :
    Date.ofMilliseconds? ms = some date ↔
      date.dayNumber * 86400000 ≤ ms ∧ ms < (date.dayNumber + 1) * 86400000 := by
  rw [ofMilliseconds?, ofDays?_eq_some_iff, Int.fdiv_eq_ediv_of_nonneg _ (by decide),
    dayNumber_eq_ediv_iff]

/-- The first date there is. -/
def Date.first : Date :=
  ⟨-262143, 1, 1, by decide⟩

/-- The last date there is. -/
def Date.last : Date :=
  ⟨262142, 12, 31, by decide⟩

/-- Every number from the first to the last is that of a date. -/
theorem Date.exists_dayNumber_eq {days : Int} (afterFirst : Date.first.dayNumber ≤ days)
    (beforeLast : days ≤ Date.last.dayNumber) : ∃ date : Date, date.dayNumber = days := by
  obtain ⟨year, month, day, -, isDay, rfl⟩ := ofDays?_eq_of? days
  have low : -262143 ≤ year := by
    by_contra before
    exact (isDay.dayNumber_lt_of_year_lt Date.first.isDay (not_le.mp before)).not_ge afterFirst
  have high : year ≤ 262142 := by
    by_contra behind
    exact (Date.last.isDay.dayNumber_lt_of_year_lt isDay (not_le.mp behind)).not_ge beforeLast
  exact ⟨⟨year, month, day, low, high, isDay⟩, rfl⟩

end ChartCompiler.Calendar

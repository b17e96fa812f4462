import Mathlib
import ChartCompiler.Calendar.Value
import ChartCompiler.Proofs.Calendar.Reading

/-!
Data values as calendar dates. The text of a date is a date alone, in digits that are padded to
their widths and with a sign where four digits do not tell the year, so reading it gives the date
again (`Date.readDate?_text`). A value that denotes a date is written as its text, every other
value stays what it is, and so nothing changes when this is done once more
(`Json.toIsoDate_settled`).
-/

namespace ChartCompiler

namespace Calendar

/-! ## The text of a date -/

theorem Date.digits_padded (width n : Nat) : Digits (padded width n) n := by
  refine ⟨?_, ?_, ?_⟩
  · simp [padded, decimalDigits_ne_nil]
  · exact List.forall_mem_append.mpr
      ⟨fun _ => isDecimalDigit_of_mem_zeros, fun _ => isDecimalDigit_of_mem⟩
  · exact (digitsValue_zeros _ _).trans (digitsValue_decimalDigits n)

theorem Date.length_padded {width n : Nat} (wide : 0 < width) (small : n < 10 ^ width) :
    (padded width n).length = width := by
  have short : (decimalDigits n).length ≤ width :=
    (Nat.length_toDigits_le_iff (by decide) wide).mpr small
  simp [padded, short]

theorem Date.fixedNumber_padded {width n : Nat} (wide : 0 < width) (small : n < 10 ^ width) :
    FixedNumber width (padded width n) n :=
  ⟨digits_padded width n, length_padded wide small⟩

theorem Date.looseYear_yearChars (year : Int) : LooseYear (yearChars year) year := by
  rw [yearChars]
  split
  next negative =>
    have isYear := LooseYear.minus blanks_nil (digits_padded 4 year.natAbs)
    rwa [show -(year.natAbs : Int) = year by omega] at isYear
  next =>
    have positive : (year.natAbs : Int) = year := by omega
    split
    next =>
      have isYear := LooseYear.plus blanks_nil (digits_padded 4 year.natAbs)
      rwa [positive] at isYear
    next small =>
      have isYear : FixedNumber 4 (padded 4 year.natAbs) year.natAbs :=
        fixedNumber_padded (by decide) (by omega)
      exact positive ▸ .plain isYear.looseNumber

theorem Date.looseDate_chars (date : Date) : LooseDate date date.chars := by
  obtain ⟨-, lastMonth, -, lastDay⟩ := date.isDay
  have fewDays := daysInMonth_le date.year date.month
  exact .mk (looseYear_yearChars date.year)
    (fixedNumber_padded (by decide) (by omega)).looseNumber
    (fixedNumber_padded (by decide) (by omega)).looseNumber

theorem Date.trimChars_chars (date : Date) : Text.trimChars date.chars = date.chars := by
  refine Text.trimChars_eq_self ?_ fun c last => ?_
  · rw [chars, yearChars]
    split
    · exact Text.ends_cons (by decide)
    · split
      · exact Text.ends_cons (by decide)
      · exact (digits_padded 4 _).ends_isBlank _
  · -- the last character is one of the digits of the day
    have isDay := digits_padded 2 date.day
    simp only [chars, List.reverse_append, List.reverse_cons, List.append_assoc] at last
    rw [List.head?_append_of_ne_nil _ (by simpa using isDay.filled)] at last
    exact not_isBlank_of_digit (isDay.all c (List.mem_reverse.mp (List.mem_of_mem_head? last)))

/-- Reading the text of a date gives the date. -/
theorem Date.readDate?_text (date : Date) : readDate? date.text.toList = some date := by
  rw [text, String.toList_ofList, readDate?_eq_some_iff, trimChars_chars]
  exact .plain date.looseDate_chars

end Calendar

/-! ## Values -/

namespace Json

open Calendar (Date DateText)

/-- The value denotes the date: a number lies in it, counted in milliseconds from 1970 on, or a
text has one of its forms between blanks. -/
inductive Denotes (date : Date) : Json → Prop
  | number {n : Json.Number} {x : Double} :
    Double.ofFloat? n.toFloat = some x → date.dayNumber * 86400000 ≤ x.truncated →
    x.truncated < (date.dayNumber + 1) * 86400000 → Denotes date (.number n)
  | string {s : String} : DateText date (Text.trimChars s.toList) → Denotes date (.string s)

theorem asDate?_eq_some_iff {value : Json} {date : Date} :
    value.asDate? = some date ↔ Denotes date value := by
  constructor
  · intro isDate
    cases value with
    | number n =>
      obtain ⟨x, isDouble, isDate⟩ := Option.bind_eq_some_iff.mp isDate
      obtain ⟨low, high⟩ := Date.ofMilliseconds?_eq_some_iff.mp isDate
      exact .number isDouble low high
    | string s => exact .string (Calendar.readDate?_eq_some_iff.mp isDate)
    | _ => cases isDate
  · rintro (⟨isDouble, low, high⟩ | isText)
    · exact Option.bind_eq_some_iff.mpr
        ⟨_, isDouble, Date.ofMilliseconds?_eq_some_iff.mpr ⟨low, high⟩⟩
    · exact Calendar.readDate?_eq_some_iff.mpr isText

/-- Every number of milliseconds between the first and the last date denotes a date. -/
theorem exists_denotes_number {n : Json.Number} {x : Double}
    (isDouble : Double.ofFloat? n.toFloat = some x)
    (afterFirst : Date.first.dayNumber * 86400000 ≤ x.truncated)
    (beforeLast : x.truncated < (Date.last.dayNumber + 1) * 86400000) :
    ∃ date, Denotes date (.number n) := by
  have low := Int.le_ediv_of_mul_le (by decide) afterFirst
  have high := Int.lt_add_one_iff.mp (Int.ediv_lt_of_lt_mul (by decide) beforeLast)
  obtain ⟨date, isNumber⟩ := Date.exists_dayNumber_eq low high
  obtain ⟨low, high⟩ := Date.dayNumber_eq_ediv_iff.mp isNumber
  exact ⟨date, .number isDouble low high⟩

theorem Denotes.toIsoDate_eq {value : Json} {date : Date} (denotes : Denotes date value) :
    value.toIsoDate = .string date.text := by
  rw [toIsoDate, asDate?_eq_some_iff.mpr denotes]

theorem toIsoDate_of_not_denotes {value : Json} (undated : ∀ date, ¬ Denotes date value) :
    value.toIsoDate = value := by
  have noDate : value.asDate? = none :=
    Option.eq_none_iff_forall_ne_some.mpr fun date isDate =>
      undated date (asDate?_eq_some_iff.mp isDate)
  rw [toIsoDate, noDate]

theorem denotes_text (date : Date) : Denotes date (.string date.text) :=
  .string (Calendar.readDate?_eq_some_iff.mp date.readDate?_text)

/-- A value that denotes a date becomes the text of the date, which is read as the date again;
every other value stays, and so a second pass changes nothing. Every number of milliseconds
between the first and the last date denotes a date. -/
theorem toIsoDate_settled (value : Json) :
    value.toIsoDate.toIsoDate = value.toIsoDate ∧
      (∀ date, Denotes date value → value.toIsoDate = .string date.text) ∧
      ((∀ date, ¬ Denotes date value) → value.toIsoDate = value) ∧
      (∀ n x, value = .number n → Double.ofFloat? n.toFloat = some x →
        Date.first.dayNumber * 86400000 ≤ x.truncated →
        x.truncated < (Date.last.dayNumber + 1) * 86400000 → ∃ date, Denotes date value) ∧
      ∀ date : Date, Calendar.readDate? date.text.toList = some date := by
  refine ⟨?_, fun _ denotes => denotes.toIsoDate_eq, toIsoDate_of_not_denotes, ?_,
    Date.readDate?_text⟩
  · by_cases dated : ∃ date, Denotes date value
    · obtain ⟨date, denotes⟩ := dated
      rw [denotes.toIsoDate_eq, (denotes_text date).toIsoDate_eq]
    · have undated := toIsoDate_of_not_denotes (not_exists.mp dated)
      rw [undated, undated]
  · rintro n x rfl isDouble afterFirst beforeLast
    exact exists_denotes_number isDouble afterFirst beforeLast

/-- A timestamp keeps its own leap day whatever its offset, a number lies in a year of five
digits, and a date that does not exist is left alone. -/
theorem toIsoDate_settled_far_and_offset :
    let stamp : Json := .string " 2024-02-29T23:30:00.5-05:30"
    let leapDay : Date := ⟨2024, 2, 29, by decide⟩
    let n : Json.Number := .integer 253402300800001
    let far : Date := ⟨10000, 1, 1, by decide⟩
    let missing : Json := .string "2023-02-29"
    Denotes leapDay stamp ∧ stamp.toIsoDate = .string "2024-02-29" ∧
      (∃ x, Double.ofFloat? n.toFloat = some x ∧
        Date.first.dayNumber * 86400000 ≤ x.truncated ∧
        x.truncated < (Date.last.dayNumber + 1) * 86400000) ∧
      (∃ date, Denotes date (.number n)) ∧ Denotes far (.number n) ∧
      (Json.number n).toIsoDate.toIsoDate = .string "+10000-01-01" ∧
      Calendar.readDate? "+10000-01-01".toList = some far ∧
      (∀ date, ¬ Denotes date missing) ∧ missing.toIsoDate = missing := by
  intro stamp leapDay n far missing
  have onLeapDay : Denotes leapDay stamp := asDate?_eq_some_iff.mp (by decide +kernel)
  have isFar : Denotes far (.number n) := asDate?_eq_some_iff.mp (by decide +kernel)
  have undated : ∀ date, ¬ Denotes date missing := by
    have noDate : missing.asDate? = none := by decide +kernel
    intro date denotes
    rw [asDate?_eq_some_iff.mpr denotes] at noDate
    cases noDate
  obtain ⟨x, isDouble, whole⟩ : ∃ x, Double.ofFloat? n.toFloat = some x ∧
      x.truncated = 253402300800001 :=
    Option.map_eq_some_iff.mp (by decide +kernel)
  have afterFirst : Date.first.dayNumber * 86400000 ≤ x.truncated := by
    rw [whole]
    decide +kernel
  have beforeLast : x.truncated < (Date.last.dayNumber + 1) * 86400000 := by
    rw [whole]
    decide +kernel
  have leapText : leapDay.text = "2024-02-29" := by decide +kernel
  have farText : far.text = "+10000-01-01" := by decide +kernel
  obtain ⟨-, stamped, -, -⟩ := toIsoDate_settled stamp
  obtain ⟨again, written, -, exists_date, readable⟩ := toIsoDate_settled (.number n)
  obtain ⟨-, -, untouched, -⟩ := toIsoDate_settled missing
  refine ⟨onLeapDay, leapText ▸ stamped _ onLeapDay, ⟨x, isDouble, afterFirst, beforeLast⟩,
    exists_date n x rfl isDouble afterFirst beforeLast, isFar, ?_, farText ▸ readable far, undated,
    untouched undated⟩
  rw [again, written far isFar, farText]

end Json

end ChartCompiler

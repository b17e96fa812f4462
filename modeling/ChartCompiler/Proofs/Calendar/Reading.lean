import Mathlib
import ChartCompiler.Proofs.Calendar.DateText
import ChartCompiler.Proofs.Calendar.DayNumber

/-!
Reading dates from text. Each of the four readers finds a date in exactly the texts of its form.
They all begin with the date in the same way (`DateText.looseDate_eq`), so where several of them
succeed they agree, and the first one that does finds the date that is written
(`readDate?_eq_some_iff`).
-/

namespace ChartCompiler.Calendar

variable {date : Date} {cs rest : List Char}

/-! ## Dates -/

theorem Digits.endsInTwoDigits {digits : List Char} {n : Nat} (isNumber : Digits digits n)
    (full : digits.length = 2) (front : List Char) : EndsInTwoDigits (front ++ digits) := by
  obtain ⟨a, b, rfl⟩ := List.length_eq_two.mp full
  exact ⟨front, a, b, rfl, isNumber.all a (by simp), isNumber.all b (by simp)⟩

theorem Digits.length_eq_two {blanks digits : List Char} {n : Nat}
    (isNumber : Digits digits n) (front : List Char) (blank : Blanks blanks) (short : digits.length ≤ 2)
    (ends : EndsInTwoDigits (front ++ '-' :: (blanks ++ digits))) : digits.length = 2 := by
  by_contra other
  have one : digits.length = 1 := by
    have := List.length_pos_iff.mpr isNumber.filled
    omega
  obtain ⟨d, rfl⟩ := List.length_eq_one_iff.mp one
  obtain ⟨start, a, b, same, isDigit, -⟩ := ends
  -- what stands in front of the only digit is a blank or the dash
  have split : (front ++ '-' :: blanks) ++ [d] = (start ++ [a]) ++ [b] := by simpa using same
  have before := List.append_inj_left' split rfl
  have inside : a ∈ '-' :: blanks := by
    have last := congrArg List.getLast? before
    rw [List.getLast?_append_cons, List.getLast?_concat] at last
    exact List.mem_of_getLast? last
  rcases List.mem_cons.mp inside with rfl | inside
  · exact absurd isDigit (by decide)
  · exact absurd (blank a inside) (by simp [not_isBlank_of_digit isDigit])

theorem looseDate_eq_some_iff :
    looseDate cs = some ((date.year, date.month, date.day), rest) ↔
      ∃ written, cs = written ++ rest ∧ LooseDate date written ∧
        (Text.Ends isDecimalDigit rest ∨ EndsInTwoDigits written) := by
  have dash : ∀ rest, Text.Ends isDecimalDigit ('-' :: rest) := fun _ => Text.ends_cons (by decide)
  simp only [looseDate, Option.bind_eq_bind, Option.bind_eq_some_iff, Prod.exists,
    after_eq_some_iff, Option.pure_def, Option.some.injEq, Prod.mk.injEq]
  constructor
  · rintro ⟨_, _, readYear, _, rfl, _, _, readMonth, _, rfl, _, _, readDay, ⟨rfl, rfl, rfl⟩, rfl⟩
    obtain ⟨year, rfl, isYear⟩ := (looseYear_eq_some_iff (dash _)).mp readYear
    obtain ⟨month, rfl, isMonth⟩ := (looseNumber_eq_some_iff_of_ends (dash _)).mp readMonth
    obtain ⟨blanks, digits, rfl, blank, isDay, short, ends⟩ := looseNumber_eq_some_iff.mp readDay
    refine ⟨_, ?_, .mk isYear isMonth (.mk blank isDay short), ends.symm.imp_right fun full => ?_⟩
    · simp
    · have two := isDay.endsInTwoDigits full (year ++ '-' :: (month ++ '-' :: blanks))
      simpa using two
  · rintro ⟨written, rfl, @⟨year, month, day, isYear, isMonth, isDay⟩, ends⟩
    obtain @⟨blanks, digits, _, blank, isDay, short⟩ := isDay
    have full : digits.length = 2 ∨ Text.Ends isDecimalDigit rest := by
      refine ends.symm.imp_left fun two => ?_
      refine isDay.length_eq_two (year ++ '-' :: month) blank short ?_
      simpa using two
    have whole : year ++ '-' :: (month ++ '-' :: (blanks ++ digits)) ++ rest =
        year ++ '-' :: (month ++ '-' :: (blanks ++ (digits ++ rest))) := by simp
    rw [whole]
    exact ⟨_, _, (looseYear_eq_some_iff (dash _)).mpr ⟨year, rfl, isYear⟩, _, rfl,
      _, _, (looseNumber_eq_some_iff_of_ends (dash _)).mpr ⟨month, rfl, isMonth⟩, _, rfl,
      _, _, looseNumber_eq_some_iff.mpr ⟨blanks, digits, rfl, blank, isDay, short, full⟩,
      ⟨rfl, rfl, rfl⟩, rfl⟩

/-- A date in fixed widths is a date, and has all digits of its day. -/
theorem FixedDate.looseDate (fixed : FixedDate date cs) :
    LooseDate date cs ∧ EndsInTwoDigits cs := by
  obtain @⟨year, month, day, n, isYear, year4, month2, day2⟩ := fixed
  refine ⟨.mk (isYear ▸ .plain year4.looseNumber) month2.looseNumber day2.looseNumber, ?_⟩
  have two := day2.endsInTwoDigits day2.length (year ++ '-' :: (month ++ ['-']))
  simpa using two

theorem FixedDate.exists_year (fixed : FixedDate date cs) : ∃ n : Nat, date.year = n := by
  obtain ⟨isYear, -, -, -⟩ := fixed
  exact ⟨_, isYear⟩

/-! ## Times of day -/

theorem Fraction.ends (isFraction : Fraction cs) : Text.Ends isDecimalDigit cs := by
  cases isFraction with
  | none => exact Text.ends_nil
  | some => exact Text.ends_cons (by decide)

theorem skipFraction_eq_nil_iff : skipFraction cs = some [] ↔ Fraction cs := by
  constructor
  · intro read
    obtain ⟨fraction, rfl, isFraction⟩ := skipFraction_eq read
    simpa using isFraction
  · intro isFraction
    simpa using skipFraction_append isFraction Text.ends_nil

theorem isLooseTime_iff : isLooseTime cs = true ↔ LooseTime cs := by
  have colon : ∀ rest, Text.Ends isDecimalDigit (':' :: rest) := fun _ => Text.ends_cons (by decide)
  rw [isLooseTime, Option.getD_eq_iff, or_iff_left (by simp)]
  simp only [Option.bind_eq_bind, Option.bind_eq_some_iff, Prod.exists, after_eq_some_iff,
    Option.pure_def, Option.some.injEq, Bool.and_eq_true, List.isEmpty_iff]
  constructor
  · rintro ⟨_, _, readHour, _, rfl, _, _, readMinute, _, rfl, _, _, readSecond, _, isFraction,
      isTime, rfl⟩
    have isFraction := skipFraction_eq_nil_iff.mp isFraction
    obtain ⟨hour, rfl, isHour⟩ := (looseNumber_eq_some_iff_of_ends (colon _)).mp readHour
    obtain ⟨minute, rfl, isMinute⟩ := (looseNumber_eq_some_iff_of_ends (colon _)).mp readMinute
    obtain ⟨second, rfl, isSecond⟩ :=
      (looseNumber_eq_some_iff_of_ends isFraction.ends).mp readSecond
    exact .mk isHour isMinute isSecond isTime isFraction
  · rintro @⟨hour, minute, second, fraction, _, _, _, isHour, isMinute, isSecond, isTime,
      isFraction⟩
    exact ⟨_, _, (looseNumber_eq_some_iff_of_ends (colon _)).mpr ⟨hour, rfl, isHour⟩, _, rfl,
      _, _, (looseNumber_eq_some_iff_of_ends (colon _)).mpr ⟨minute, rfl, isMinute⟩, _, rfl,
      _, _, (looseNumber_eq_some_iff_of_ends isFraction.ends).mpr ⟨second, rfl, isSecond⟩,
      _, skipFraction_eq_nil_iff.mpr isFraction, isTime, rfl⟩

/-- Blanks in front of a time of day are those in front of its hour. -/
theorem isLooseTime_dropWhile (cs : List Char) :
    isLooseTime (cs.dropWhile Text.isBlank) = isLooseTime cs := by
  simp only [isLooseTime, looseNumber, List.dropWhile_idempotent]

theorem isOffset_iff : isOffset cs = true ↔ Offset cs := by
  have two : 0 < 2 := by decide
  constructor
  · intro read
    unfold isOffset at read
    split at read
    next => exact .zulu (by decide)
    next => exact .zulu (by decide)
    next sign cs _ _ =>
      obtain ⟨isSign, readRest⟩ := Bool.and_eq_true_iff.mp read
      clear read
      split at readRest
      next h rest readHours =>
        obtain ⟨hours, rfl, isHours⟩ := (fixedNumber_eq_some_iff two).mp readHours
        split at readRest
        next m readMinutes =>
          obtain ⟨minutes, rfl, isMinutes⟩ := (fixedNumber_eq_some_iff two).mp readMinutes
          obtain ⟨fewHours, fewMinutes⟩ := Bool.and_eq_true_iff.mp readRest
          rw [List.append_nil]
          exact .signed (by simpa [or_assoc] using isSign) isHours (of_decide_eq_true fewHours)
            isMinutes (of_decide_eq_true fewMinutes)
        next => cases readRest
      next => cases readRest
    next => cases read
  · rintro (isZulu | ⟨isSign, isHours, fewHours, isMinutes, fewMinutes⟩)
    · fin_cases isZulu <;> rfl
    · have readMinutes := fixedNumber_append isMinutes []
      rw [List.append_nil] at readMinutes
      fin_cases isSign <;>
        simp [isOffset, fixedNumber_append isHours, readMinutes, fewHours, fewMinutes]

theorem Offset.ends (isOffset : Offset cs) :
    Text.Ends (fun c => isDecimalDigit c || c == '.') cs := by
  cases isOffset with
  | zulu isZulu => fin_cases isZulu <;> exact Text.ends_cons (by decide)
  | signed isSign => fin_cases isSign <;> exact Text.ends_cons (by decide)

/-! ## Timestamps -/

/-- The year, month and day at the front of a timestamp. -/
def fixedDate (cs : List Char) : Option ((Nat × Nat × Nat) × List Char) := do
  let (year, cs) ← fixedNumber 4 cs
  let cs ← after '-' cs
  let (month, cs) ← fixedNumber 2 cs
  let cs ← after '-' cs
  let (day, cs) ← fixedNumber 2 cs
  return ((year, month, day), cs)

/-- The text is the time of day and the offset that end a timestamp. -/
def isTimestampEnd (cs : List Char) : Bool :=
  let parts := do
    let (hour, cs) ← fixedNumber 2 cs
    let cs ← after ':' cs
    let (minute, cs) ← fixedNumber 2 cs
    let cs ← after ':' cs
    let (second, cs) ← fixedNumber 2 cs
    let cs ← skipFraction cs
    return isTime hour minute second && isOffset cs
  parts.getD false

theorem bind_ite_eq {α : Type} (passes : Option Bool) (x : Option α) :
    (passes.bind fun b => if b then x else none) = if passes.getD false then x else none := by
  cases passes <;> rfl

/-- A timestamp is a date, a separator and an end. -/
theorem readTimestamp?_eq (cs : List Char) :
    readTimestamp? cs = (fixedDate cs).bind fun
      | ((year, month, day), c :: rest) =>
        if (c = 'T' ∨ c = 't' ∨ c = ' ') ∧ isTimestampEnd rest then Date.of? year month day else none
      | (_, []) => none := by
  simp only [fixedDate, Option.bind_eq_bind, Option.bind_assoc, Option.pure_def, Option.bind_some]
  refine Option.bind_congr fun ⟨year, _⟩ _ => Option.bind_congr fun _ _ =>
    Option.bind_congr fun ⟨month, _⟩ _ => Option.bind_congr fun _ _ =>
    Option.bind_congr fun ⟨day, rest⟩ _ => ?_
  cases rest with
  | nil => rfl
  | cons c rest =>
    dsimp only
    split
    next isSep =>
      simp only [isSep, true_and, isTimestampEnd, ← bind_ite_eq]
      simp only [Option.bind_eq_bind, Option.bind_assoc, Option.pure_def, Option.bind_some]
    next other => simp [other]

theorem fixedDate_eq_some_iff {n : Nat} (isYear : date.year = n) :
    fixedDate cs = some ((n, date.month, date.day), rest) ↔
      ∃ written, cs = written ++ rest ∧ FixedDate date written := by
  have two : 0 < 2 := by decide
  have four : 0 < 4 := by decide
  simp only [fixedDate, Option.bind_eq_bind, Option.bind_eq_some_iff, Prod.exists,
    after_eq_some_iff, fixedNumber_eq_some_iff two, fixedNumber_eq_some_iff four, Option.pure_def,
    Option.some.injEq, Prod.mk.injEq]
  constructor
  · rintro ⟨_, _, ⟨year, rfl, year4⟩, _, rfl, _, _, ⟨month, rfl, month2⟩, _, rfl, _, _,
      ⟨day, rfl, day2⟩, ⟨rfl, rfl, rfl⟩, rfl⟩
    exact ⟨_, by simp, .mk isYear year4 month2 day2⟩
  · rintro ⟨_, rfl, @⟨year, month, day, m, isAlsoYear, year4, month2, day2⟩⟩
    obtain rfl : n = m := by omega
    simp only [List.append_assoc, List.cons_append]
    exact ⟨_, _, ⟨year, rfl, year4⟩, _, rfl, _, _, ⟨month, rfl, month2⟩, _, rfl, _, _,
      ⟨day, rfl, day2⟩, ⟨rfl, rfl, rfl⟩, rfl⟩

theorem isTimestampEnd_iff : isTimestampEnd cs = true ↔
    ∃ time offset, cs = time ++ offset ∧ FixedTime time ∧ Offset offset := by
  have two : 0 < 2 := by decide
  rw [isTimestampEnd, Option.getD_eq_iff, or_iff_left (by simp)]
  simp only [Option.bind_eq_bind, Option.bind_eq_some_iff, Prod.exists, after_eq_some_iff,
    fixedNumber_eq_some_iff two, Option.pure_def, Option.some.injEq, Bool.and_eq_true, isOffset_iff]
  constructor
  · rintro ⟨_, _, ⟨hour, rfl, hour2⟩, _, rfl, _, _, ⟨minute, rfl, minute2⟩, _, rfl, _, _,
      ⟨second, rfl, second2⟩, offset, skipped, isTime, isOffset⟩
    obtain ⟨fraction, rfl, isFraction⟩ := skipFraction_eq skipped
    exact ⟨_, offset, by simp, .mk hour2 minute2 second2 isTime isFraction, isOffset⟩
  · rintro ⟨_, offset, rfl,
      @⟨hour, minute, second, fraction, h, m, s, hour2, minute2, second2, isTime, isFraction⟩,
      isOffset⟩
    simp only [List.append_assoc, List.cons_append]
    exact ⟨_, _, ⟨hour, rfl, hour2⟩, _, rfl, _, _, ⟨minute, rfl, minute2⟩, _, rfl, _, _,
      ⟨second, rfl, second2⟩, offset, skipFraction_append isFraction isOffset.ends, isTime,
      isOffset⟩

/-! ## The four forms -/

theorem readPlain?_eq_some_iff : readPlain? cs = some date ↔ LooseDate date cs := by
  simp only [readPlain?, Option.bind_eq_bind, Option.bind_eq_some_iff, Prod.exists,
    Option.ite_none_right_eq_some, List.isEmpty_iff, Date.of?_eq_some_iff]
  constructor
  · rintro ⟨_, _, _, _, readDate, rfl, rfl, rfl, rfl⟩
    obtain ⟨written, rfl, isDate, -⟩ := looseDate_eq_some_iff.mp readDate
    simpa using isDate
  · intro isDate
    exact ⟨_, _, _, _, looseDate_eq_some_iff.mpr ⟨cs, by simp, isDate, .inl Text.ends_nil⟩, rfl, rfl,
      rfl, rfl⟩

theorem readJoined?_eq_some_iff : readJoined? cs = some date ↔
    ∃ written time, cs = written ++ 'T' :: time ∧ LooseDate date written ∧ LooseTime time := by
  simp only [readJoined?, Option.bind_eq_bind, Option.bind_eq_some_iff, Prod.exists,
    Option.ite_none_right_eq_some, after_eq_some_iff, isLooseTime_iff, Date.of?_eq_some_iff]
  constructor
  · rintro ⟨_, _, _, _, readDate, time, rfl, isTime, rfl, rfl, rfl⟩
    obtain ⟨written, rfl, isDate, -⟩ := looseDate_eq_some_iff.mp readDate
    exact ⟨written, time, rfl, isDate, isTime⟩
  · rintro ⟨written, time, rfl, isDate, isTime⟩
    have ends : Text.Ends isDecimalDigit ('T' :: time) := Text.ends_cons (by decide)
    exact ⟨_, _, _, _, looseDate_eq_some_iff.mpr ⟨written, rfl, isDate, .inl ends⟩, time, rfl, isTime,
      rfl, rfl, rfl⟩

theorem readSpaced?_eq_some_iff : readSpaced? cs = some date ↔
    ∃ written time, cs = written ++ time ∧ LooseDate date written ∧ LooseTime time ∧
      (Text.Ends isDecimalDigit time ∨ EndsInTwoDigits written) := by
  simp only [readSpaced?, Option.bind_eq_bind, Option.bind_eq_some_iff, Prod.exists,
    Option.ite_none_right_eq_some, isLooseTime_dropWhile, isLooseTime_iff, Date.of?_eq_some_iff]
  constructor
  · rintro ⟨_, _, _, time, readDate, isTime, rfl, rfl, rfl⟩
    obtain ⟨written, rfl, isDate, ends⟩ := looseDate_eq_some_iff.mp readDate
    exact ⟨written, time, rfl, isDate, isTime, ends⟩
  · rintro ⟨written, time, rfl, isDate, isTime, ends⟩
    exact ⟨_, _, _, _, looseDate_eq_some_iff.mpr ⟨written, rfl, isDate, ends⟩, isTime, rfl, rfl, rfl⟩

theorem readTimestamp?_eq_some_iff : readTimestamp? cs = some date ↔
    ∃ written sep time offset, cs = written ++ sep :: (time ++ offset) ∧ FixedDate date written ∧
      sep ∈ ['T', 't', ' '] ∧ FixedTime time ∧ Offset offset := by
  rw [readTimestamp?_eq, Option.bind_eq_some_iff]
  constructor
  · rintro ⟨⟨⟨n, month, day⟩, _ | ⟨sep, rest⟩⟩, readDate, read⟩
    · cases read
    · obtain ⟨⟨isSep, isEnd⟩, found⟩ := Option.ite_none_right_eq_some.mp read
      obtain ⟨isYear, rfl, rfl⟩ := Date.of?_eq_some_iff.mp found
      obtain ⟨written, rfl, isDate⟩ := (fixedDate_eq_some_iff isYear).mp readDate
      obtain ⟨time, offset, rfl, isTime, isOffset⟩ := isTimestampEnd_iff.mp isEnd
      exact ⟨written, sep, time, offset, rfl, isDate, by simpa using isSep, isTime, isOffset⟩
  · rintro ⟨written, sep, time, offset, rfl, isDate, isSep, isTime, isOffset⟩
    have isSep : sep = 'T' ∨ sep = 't' ∨ sep = ' ' := by simpa using isSep
    obtain ⟨n, isYear⟩ := isDate.exists_year
    refine ⟨_, (fixedDate_eq_some_iff isYear).mpr ⟨written, rfl, isDate⟩, ?_⟩
    exact Option.ite_none_right_eq_some.mpr
      ⟨⟨isSep, isTimestampEnd_iff.mpr ⟨time, offset, rfl, isTime, isOffset⟩⟩,
        Date.of?_eq_some_iff.mpr ⟨isYear, rfl, rfl⟩⟩

theorem dateText_iff : DateText date cs ↔
    readTimestamp? cs = some date ∨ readJoined? cs = some date ∨ readSpaced? cs = some date ∨
      readPlain? cs = some date := by
  rw [readTimestamp?_eq_some_iff, readJoined?_eq_some_iff, readSpaced?_eq_some_iff,
    readPlain?_eq_some_iff]
  constructor
  · rintro (⟨isDate, isSep, isTime, isOffset⟩ | ⟨isDate, isTime⟩ | ⟨isDate, isTime, ends⟩ | isDate)
    · exact .inl ⟨_, _, _, _, rfl, isDate, isSep, isTime, isOffset⟩
    · exact .inr (.inl ⟨_, _, rfl, isDate, isTime⟩)
    · exact .inr (.inr (.inl ⟨_, _, rfl, isDate, isTime, ends⟩))
    · exact .inr (.inr (.inr isDate))
  · rintro (⟨_, _, _, _, rfl, isDate, isSep, isTime, isOffset⟩ | ⟨_, _, rfl, isDate, isTime⟩ |
      ⟨_, _, rfl, isDate, isTime, ends⟩ | isDate)
    · exact .timestamp isDate isSep isTime isOffset
    · exact .joined isDate isTime
    · exact .spaced isDate isTime ends
    · exact .plain isDate

/-- In every form the date stands in front and is read in the same way. -/
theorem DateText.looseDate_eq (isText : DateText date cs) :
    ∃ rest, looseDate cs = some ((date.year, date.month, date.day), rest) := by
  obtain ⟨written, rest, whole, isDate, ends⟩ : ∃ written rest, cs = written ++ rest ∧
      LooseDate date written ∧ (Text.Ends isDecimalDigit rest ∨ EndsInTwoDigits written) := by
    obtain (⟨isDate, -, -, -⟩ | ⟨isDate, -⟩ | ⟨isDate, -, ends⟩ | isDate) := isText
    · exact ⟨_, _, rfl, isDate.looseDate.1, .inr isDate.looseDate.2⟩
    · exact ⟨_, _, rfl, isDate, .inl (Text.ends_cons (by decide))⟩
    · exact ⟨_, _, rfl, isDate, ends⟩
    · exact ⟨_, [], (List.append_nil _).symm, isDate, .inl Text.ends_nil⟩
  exact ⟨rest, looseDate_eq_some_iff.mpr ⟨written, whole, isDate, ends⟩⟩

/-- A text has one date at most. -/
theorem DateText.unique {other : Date} (isText : DateText date cs) (alike : DateText other cs) :
    date = other := by
  obtain ⟨rest, read⟩ := isText.looseDate_eq
  obtain ⟨otherRest, otherRead⟩ := alike.looseDate_eq
  have fields := Option.some.inj (read.symm.trans otherRead)
  cases date
  cases other
  simp_all

/-- A text is read as the date that is written between the blanks around it. -/
theorem readDate?_eq_some_iff {text : List Char} :
    readDate? text = some date ↔ DateText date (Text.trimChars text) := by
  have sound : ∀ {found}, readDate? text = some found → DateText found (Text.trimChars text) := by
    intro found read
    simp only [readDate?, Option.or_eq_some_iff] at read
    exact dateText_iff.mpr (by tauto)
  refine ⟨sound, fun isText => ?_⟩
  obtain ⟨found, read⟩ : ∃ found, readDate? text = some found := by
    rw [← Option.isSome_iff_exists]
    rcases dateText_iff.mp isText with read | read | read | read <;> simp [readDate?, read]
  rw [read, isText.unique (sound read)]

end ChartCompiler.Calendar

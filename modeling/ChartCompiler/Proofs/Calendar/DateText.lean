import Mathlib
import ChartCompiler.Calendar.Reading
import ChartCompiler.Proofs.Number.Text
import ChartCompiler.Proofs.Text.Runs

/-!
The grammar of dates in texts. `DateText` gives the four forms of a date by what is written,
piece after piece, and says nothing of reading: a timestamp in fixed widths, a date and a time of
day with `T` between them, the two with blanks or nothing between them, and a date alone. Where
nothing but digits stands between a day and an hour, the day has the first two of them.
-/

namespace ChartCompiler.Calendar

/-! ## Numbers -/

/-- White space, if any. -/
def Blanks (cs : List Char) : Prop :=
  ∀ c ∈ cs, Text.isBlank c = true

/-- Decimal digits, at least one, and their value. -/
structure Digits (cs : List Char) (n : Nat) : Prop where
  filled : cs ≠ []
  all : ∀ c ∈ cs, isDecimalDigit c = true
  value : digitsValue cs = n

/-- A number with all digits of its width. -/
structure FixedNumber (width : Nat) (cs : List Char) (n : Nat) : Prop extends Digits cs n where
  length : cs.length = width

/-- A number that may have fewer digits than its width, and blanks in front. -/
inductive LooseNumber (width : Nat) : List Char → Nat → Prop
  | mk {blanks digits : List Char} {n : Nat} :
    Blanks blanks → Digits digits n → digits.length ≤ width →
    LooseNumber width (blanks ++ digits) n

/-- A year of up to four digits, or with a sign and any number of digits. -/
inductive LooseYear : List Char → Int → Prop
  | plain {cs : List Char} {n : Nat} : LooseNumber 4 cs n → LooseYear cs n
  | plus {blanks digits : List Char} {n : Nat} :
    Blanks blanks → Digits digits n → LooseYear (blanks ++ '+' :: digits) n
  | minus {blanks digits : List Char} {n : Nat} :
    Blanks blanks → Digits digits n → LooseYear (blanks ++ '-' :: digits) (-n)

/-- A fraction of a second, if any: a point and digits. -/
inductive Fraction : List Char → Prop
  | none : Fraction []
  | some {digits : List Char} {n : Nat} : Digits digits n → Fraction ('.' :: digits)

/-! ## Dates and times of day -/

/-- A date in fixed widths. -/
inductive FixedDate (date : Date) : List Char → Prop
  | mk {year month day : List Char} {n : Nat} :
    date.year = n → FixedNumber 4 year n → FixedNumber 2 month date.month →
    FixedNumber 2 day date.day → FixedDate date (year ++ '-' :: (month ++ '-' :: day))

/-- A date. -/
inductive LooseDate (date : Date) : List Char → Prop
  | mk {year month day : List Char} :
    LooseYear year date.year → LooseNumber 2 month date.month → LooseNumber 2 day date.day →
    LooseDate date (year ++ '-' :: (month ++ '-' :: day))

/-- A time of day in fixed widths. The fraction may be any. -/
inductive FixedTime : List Char → Prop
  | mk {hour minute second fraction : List Char} {h m s : Nat} :
    FixedNumber 2 hour h → FixedNumber 2 minute m → FixedNumber 2 second s →
    isTime h m s = true → Fraction fraction →
    FixedTime (hour ++ ':' :: (minute ++ ':' :: (second ++ fraction)))

/-- A time of day. -/
inductive LooseTime : List Char → Prop
  | mk {hour minute second fraction : List Char} {h m s : Nat} :
    LooseNumber 2 hour h → LooseNumber 2 minute m → LooseNumber 2 second s →
    isTime h m s = true → Fraction fraction →
    LooseTime (hour ++ ':' :: (minute ++ ':' :: (second ++ fraction)))

/-- What a timestamp says of its time zone. -/
inductive Offset : List Char → Prop
  | zulu {c : Char} : c ∈ ['Z', 'z'] → Offset [c]
  | signed {sign : Char} {hours minutes : List Char} {h m : Nat} :
    sign ∈ ['+', '-', '\u2212'] → FixedNumber 2 hours h → h ≤ 23 → FixedNumber 2 minutes m →
    m ≤ 59 → Offset (sign :: (hours ++ ':' :: minutes))

/-- The last two characters are digits. -/
def EndsInTwoDigits (cs : List Char) : Prop :=
  ∃ front a b, cs = front ++ [a, b] ∧ isDecimalDigit a = true ∧ isDecimalDigit b = true

/-- The text is one of the four forms of a date. -/
inductive DateText (date : Date) : List Char → Prop
  | timestamp {written time offset : List Char} {sep : Char} :
    FixedDate date written → sep ∈ ['T', 't', ' '] → FixedTime time → Offset offset →
    DateText date (written ++ sep :: (time ++ offset))
  | joined {written time : List Char} :
    LooseDate date written → LooseTime time → DateText date (written ++ 'T' :: time)
  | spaced {written time : List Char} :
    LooseDate date written → LooseTime time →
    Text.Ends isDecimalDigit time ∨ EndsInTwoDigits written → DateText date (written ++ time)
  | plain {written : List Char} : LooseDate date written → DateText date written

/-! ## Reading numbers -/

section

variable {width n : Nat} {cs digits blanks rest : List Char} {c : Char}

theorem not_isBlank_of_digit (digit : isDecimalDigit c = true) : Text.isBlank c = false := by
  obtain ⟨low, high⟩ := isDecimalDigit_iff.mp digit
  simp only [Text.isBlank, Text.blankRanges, List.any_cons, List.any_nil, Bool.or_false,
    Bool.or_eq_false_iff, Bool.and_eq_false_iff, decide_eq_false_iff_not]
  omega

theorem blanks_nil : Blanks [] :=
  nofun

theorem Digits.isDecimalDigit_head (isNumber : Digits digits n)
    (starts : (digits ++ rest).head? = some c) : isDecimalDigit c = true := by
  obtain ⟨filled, all, -⟩ := isNumber
  rw [List.head?_append_of_ne_nil _ filled] at starts
  exact all c (List.mem_of_mem_head? starts)

theorem Digits.ends_isBlank (isNumber : Digits digits n) (rest : List Char) :
    Text.Ends Text.isBlank (digits ++ rest) := fun _ starts =>
  not_isBlank_of_digit (isNumber.isDecimalDigit_head starts)

theorem FixedNumber.looseNumber (isNumber : FixedNumber width digits n) :
    LooseNumber width digits n :=
  .mk blanks_nil isNumber.toDigits isNumber.length.le

theorem LooseNumber.blanks_append (blank : Blanks blanks) (isNumber : LooseNumber width cs n) :
    LooseNumber width (blanks ++ cs) n := by
  obtain ⟨more, isNumber, short⟩ := isNumber
  rw [← List.append_assoc]
  exact .mk (List.forall_mem_append.mpr ⟨blank, more⟩) isNumber short

theorem takeUpTo_append (all : ∀ c ∈ digits, isDecimalDigit c = true)
    (short : digits.length ≤ width)
    (ends : digits.length = width ∨ Text.Ends isDecimalDigit rest) :
    takeUpTo width (digits ++ rest) = (digits, rest) := by
  induction digits generalizing width with
  | nil =>
    cases width with
    | zero => rfl
    | succ width =>
      have ends := ends.resolve_left (by simp)
      cases rest with
      | nil => rfl
      | cons c rest => simp [takeUpTo, ends c rfl]
  | cons c digits ih =>
    obtain ⟨digit, all⟩ := List.forall_mem_cons.mp all
    cases width with
    | zero => simp at short
    | succ width =>
      rw [List.length_cons] at short ends
      rw [List.cons_append, takeUpTo, if_pos digit,
        ih all (by omega) (ends.imp_left Nat.succ.inj)]

theorem takeUpTo_eq {width : Nat} {cs digits rest : List Char}
    (taken : takeUpTo width cs = (digits, rest)) :
    cs = digits ++ rest ∧ (∀ c ∈ digits, isDecimalDigit c = true) ∧ digits.length ≤ width ∧
      (digits.length = width ∨ Text.Ends isDecimalDigit rest) := by
  induction width, cs using takeUpTo.induct generalizing digits with
  | case1 cs =>
    cases taken
    simp
  | case2 width =>
    cases taken
    simp [Text.ends_nil]
  | case3 width c cs digit more after found ih =>
    rw [takeUpTo, if_pos digit, found] at taken
    cases taken
    obtain ⟨whole, all, short, ends⟩ := ih found
    exact ⟨congrArg _ whole, List.forall_mem_cons.mpr ⟨digit, all⟩, Nat.succ_le_succ short,
      ends.imp_left (congrArg _)⟩
  | case4 width c cs other =>
    rw [takeUpTo, if_neg other] at taken
    cases taken
    exact ⟨rfl, nofun, Nat.zero_le _, .inr (Text.ends_cons (Bool.eq_false_iff.mpr other))⟩

theorem fixedNumber_eq_some_iff (wide : 0 < width) :
    fixedNumber width cs = some (n, rest) ↔
      ∃ digits, cs = digits ++ rest ∧ FixedNumber width digits n := by
  constructor
  · intro read
    obtain ⟨⟨digits, after⟩, taken⟩ : ∃ parts, takeUpTo width cs = parts := ⟨_, rfl⟩
    simp only [fixedNumber, taken] at read
    split at read
    next full =>
      cases read
      obtain ⟨whole, all, -, -⟩ := takeUpTo_eq taken
      exact ⟨digits, whole, ⟨List.length_pos_iff.mp (full ▸ wide), all, rfl⟩, full⟩
    next => cases read
  · rintro ⟨digits, rfl, ⟨-, all, rfl⟩, full⟩
    simp only [fixedNumber, takeUpTo_append all full.le (.inl full), if_pos full]

theorem fixedNumber_append (isNumber : FixedNumber width digits n) (rest : List Char) :
    fixedNumber width (digits ++ rest) = some (n, rest) := by
  have wide := isNumber.length ▸ List.length_pos_iff.mpr isNumber.filled
  exact (fixedNumber_eq_some_iff wide).mpr ⟨digits, rfl, isNumber⟩

theorem looseNumber_eq_some_iff :
    looseNumber width cs = some (n, rest) ↔
      ∃ blanks digits, cs = blanks ++ (digits ++ rest) ∧ Blanks blanks ∧ Digits digits n ∧
        digits.length ≤ width ∧ (digits.length = width ∨ Text.Ends isDecimalDigit rest) := by
  constructor
  · intro read
    obtain ⟨⟨digits, after⟩, taken⟩ :
      ∃ parts, takeUpTo width (cs.dropWhile Text.isBlank) = parts := ⟨_, rfl⟩
    simp only [looseNumber, taken] at read
    split at read
    next => cases read
    next filled =>
      cases read
      obtain ⟨whole, all, short, ends⟩ := takeUpTo_eq taken
      refine ⟨cs.takeWhile Text.isBlank, digits, ?_, fun c inside => List.mem_takeWhile_imp inside,
        ⟨by simpa using filled, all, rfl⟩, short, ends⟩
      rw [← whole, List.takeWhile_append_dropWhile]
  · rintro ⟨blanks, digits, rfl, blank, ⟨filled, all, rfl⟩, short, ends⟩
    have begins := Digits.ends_isBlank ⟨filled, all, rfl⟩ rest
    have someDigit : digits.isEmpty = false := by simpa using filled
    simp [looseNumber, Text.dropWhile_append blank begins, takeUpTo_append all short ends, someDigit]

/-- Where no digit follows, a number is what stands in front. -/
theorem looseNumber_eq_some_iff_of_ends (ends : Text.Ends isDecimalDigit rest) :
    looseNumber width cs = some (n, rest) ↔
      ∃ written, cs = written ++ rest ∧ LooseNumber width written n := by
  rw [looseNumber_eq_some_iff]
  constructor
  · rintro ⟨blanks, digits, rfl, blank, isNumber, short, -⟩
    exact ⟨_, (List.append_assoc ..).symm, .mk blank isNumber short⟩
  · rintro ⟨written, rfl, ⟨blank, isNumber, short⟩⟩
    exact ⟨_, _, List.append_assoc .., blank, isNumber, short, .inr ends⟩

theorem takeDigits_eq_iff :
    takeDigits cs = (digits, rest) ↔
      cs = digits ++ rest ∧ (∀ c ∈ digits, isDecimalDigit c = true) ∧
        Text.Ends isDecimalDigit rest := by
  constructor
  · rintro ⟨⟩
    refine ⟨List.takeWhile_append_dropWhile.symm, fun c inside => List.mem_takeWhile_imp inside, ?_⟩
    intro c inside
    simpa [Option.mem_def.mp inside] using List.head?_dropWhile_not isDecimalDigit cs
  · rintro ⟨rfl, all, ends⟩
    rw [takeDigits, Text.takeWhile_append all ends, Text.dropWhile_append all ends]

theorem after_eq_some_iff : after c cs = some rest ↔ cs = c :: rest := by
  cases cs with
  | nil => simp [after]
  | cons d cs =>
    rw [after, Option.ite_none_right_eq_some, Option.some.injEq, List.cons.injEq]

theorem takeDigits_append (isNumber : Digits digits n) (ends : Text.Ends isDecimalDigit rest) :
    takeDigits (digits ++ rest) = (digits, rest) :=
  takeDigits_eq_iff.mpr ⟨rfl, isNumber.all, ends⟩

theorem takeDigits_filled (filled : ¬ (takeDigits cs).1.isEmpty = true) :
    Digits (takeDigits cs).1 (digitsValue (takeDigits cs).1) ∧
      cs = (takeDigits cs).1 ++ (takeDigits cs).2 := by
  obtain ⟨whole, all, -⟩ := takeDigits_eq_iff.mp (rfl : takeDigits cs = (_, _))
  exact ⟨⟨by simpa using filled, all, rfl⟩, whole⟩

theorem skipFraction_append {fraction : List Char} (isFraction : Fraction fraction)
    (ends : Text.Ends (fun c => isDecimalDigit c || c == '.') rest) :
    skipFraction (fraction ++ rest) = some rest := by
  cases isFraction with
  | none =>
    rw [List.nil_append, skipFraction.eq_def]
    split
    next => exact absurd (ends '.' rfl) (by decide)
    next => rfl
  | some isNumber =>
    have ends : Text.Ends isDecimalDigit rest := fun c inside =>
      (Bool.or_eq_false_iff.mp (ends c inside)).1
    simp [skipFraction, takeDigits_append isNumber ends, isNumber.filled]

theorem skipFraction_eq (read : skipFraction cs = some rest) :
    ∃ fraction, cs = fraction ++ rest ∧ Fraction fraction := by
  unfold skipFraction at read
  split at read
  next more =>
    obtain ⟨filled, isRest⟩ := Option.ite_none_left_eq_some.mp read
    obtain ⟨isNumber, whole⟩ := takeDigits_filled filled
    cases isRest
    exact ⟨_, congrArg _ whole, .some isNumber⟩
  next =>
    cases read
    exact ⟨[], rfl, .none⟩

theorem looseYear_eq_some_iff {year : Int} (ends : Text.Ends isDecimalDigit rest) :
    looseYear cs = some (year, rest) ↔ ∃ written, cs = written ++ rest ∧ LooseYear written year := by
  constructor
  · intro read
    have whole : cs.takeWhile Text.isBlank ++ cs.dropWhile Text.isBlank = cs :=
      List.takeWhile_append_dropWhile
    have blank : Blanks (cs.takeWhile Text.isBlank) := fun c inside => List.mem_takeWhile_imp inside
    rw [looseYear.eq_def] at read
    dsimp only at read
    split at read
    next more isMinus =>
      obtain ⟨filled, isYear⟩ := Option.ite_none_left_eq_some.mp read
      obtain ⟨isNumber, split⟩ := takeDigits_filled filled
      cases isYear
      refine ⟨_, ?_, .minus blank isNumber⟩
      rw [List.append_assoc, List.cons_append, ← split, ← isMinus, whole]
    next more isPlus =>
      obtain ⟨filled, isYear⟩ := Option.ite_none_left_eq_some.mp read
      obtain ⟨isNumber, split⟩ := takeDigits_filled filled
      cases isYear
      refine ⟨_, ?_, .plus blank isNumber⟩
      rw [List.append_assoc, List.cons_append, ← split, ← isPlus, whole]
    next =>
      obtain ⟨⟨n, after⟩, isNumber, isYear⟩ := Option.map_eq_some_iff.mp read
      cases isYear
      obtain ⟨written, split, isNumber⟩ := (looseNumber_eq_some_iff_of_ends ends).mp isNumber
      refine ⟨_, ?_, .plain (isNumber.blanks_append blank)⟩
      rw [List.append_assoc, ← split, whole]
  · rintro ⟨written, rfl, isYear⟩
    rw [looseYear.eq_def]
    cases isYear with
    | @plain _ n isNumber =>
      obtain @⟨blanks, digits, _, blank, isNumber, short⟩ := isNumber
      rw [List.append_assoc, Text.dropWhile_append blank (isNumber.ends_isBlank rest)]
      have read : looseNumber 4 (digits ++ rest) = some (n, rest) :=
        looseNumber_eq_some_iff.mpr ⟨[], digits, rfl, blanks_nil, isNumber, short, .inr ends⟩
      split
      next isMinus => exact absurd (isNumber.isDecimalDigit_head (congrArg _ isMinus)) (by decide)
      next isPlus => exact absurd (isNumber.isDecimalDigit_head (congrArg _ isPlus)) (by decide)
      next => simp [read]
    | plus blank isNumber =>
      rw [List.append_assoc, List.cons_append, Text.dropWhile_append blank (Text.ends_cons (by decide))]
      simp [takeDigits_append isNumber ends, isNumber.filled, isNumber.value]
    | minus blank isNumber =>
      rw [List.append_assoc, List.cons_append, Text.dropWhile_append blank (Text.ends_cons (by decide))]
      simp [takeDigits_append isNumber ends, isNumber.filled, isNumber.value]

end

end ChartCompiler.Calendar

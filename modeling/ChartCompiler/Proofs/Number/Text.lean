import Mathlib
import ChartCompiler.Json.Text
import ChartCompiler.Number.Reading

/-!
The characters of number texts. Decimal digits are digits, at least one, and have the value that
was written (`digitsValue_decimalDigits`). Whatever style lays a number out, its text begins with
a digit or a minus sign and goes on with characters that only numbers are made of
(`isNumeral_chars`), so that a reader of expressions knows where it begins and where it ends.
-/

namespace ChartCompiler

/-! ## Digits -/

theorem isDecimalDigit_iff {c : Char} : isDecimalDigit c = true ↔ 48 ≤ c.toNat ∧ c.toNat ≤ 57 := by
  rw [isDecimalDigit, Bool.and_eq_true, decide_eq_true_eq, decide_eq_true_eq]
  exact Iff.rfl

theorem isDecimalDigit_of_mem {n : Nat} {c : Char} (inside : c ∈ decimalDigits n) :
    isDecimalDigit c = true :=
  Nat.isDigit_of_mem_toDigits (by decide) (by decide) inside

theorem isDecimalDigit_of_mem_zeros {k : Nat} {c : Char} (inside : c ∈ List.replicate k '0') :
    isDecimalDigit c = true := by
  rw [List.eq_of_mem_replicate inside]
  rfl

theorem decimalDigits_ne_nil (n : Nat) : decimalDigits n ≠ [] :=
  Nat.toDigits_ne_nil

theorem digitsValue_decimalDigits (n : Nat) : digitsValue (decimalDigits n) = n :=
  Nat.ofDigitChars_ten_toDigits

theorem digitsValue_zeros (k : Nat) (cs : List Char) :
    digitsValue (List.replicate k '0' ++ cs) = digitsValue cs := by
  induction k with
  | zero => rfl
  | succ k ih => exact ih

theorem digitsValue_append_zeros (cs : List Char) (k : Nat) :
    digitsValue (cs ++ List.replicate k '0') = 10 ^ k * digitsValue cs :=
  (Nat.ofDigitChars_append 0).trans Nat.ofDigitChars_replicate_zero

/-! ## Numerals -/

/-- A character inside a number text. -/
def isNumeralChar (c : Char) : Bool :=
  isDecimalDigit c || c == '.' || c == 'e' || c == 'E' || c == '+' || c == '-'

/-- A number text begins. -/
def startsNumeral (c : Char) : Bool :=
  isDecimalDigit c || c == '-'

/-- The text begins like a number and goes on like one. -/
inductive IsNumeral : List Char → Prop
  | mk {c : Char} {w : List Char} :
    startsNumeral c = true → (∀ d ∈ w, isNumeralChar d = true) → IsNumeral (c :: w)

section

variable {cs digits : List Char}

theorem isNumeralChar_of_digit {c : Char} (digit : isDecimalDigit c = true) :
    isNumeralChar c = true := by
  simp [isNumeralChar, digit]

theorem IsNumeral.append (numeral : IsNumeral cs) {more : List Char}
    (all : ∀ c ∈ more, isNumeralChar c = true) : IsNumeral (cs ++ more) := by
  obtain ⟨starts, first⟩ := numeral
  refine .mk starts fun c inside => ?_
  exact (List.mem_append.mp inside).elim (first c) (all c)

theorem IsNumeral.isNumeralChar (numeral : IsNumeral cs) : ∀ c ∈ cs, isNumeralChar c = true := by
  obtain ⟨starts, all⟩ := numeral
  refine List.forall_mem_cons.mpr ⟨?_, all⟩
  rcases Bool.or_eq_true_iff.mp starts with digit | minus
  · exact isNumeralChar_of_digit digit
  · rw [beq_iff_eq.mp minus]
    rfl

theorem isNumeral_of_digits (someDigit : digits ≠ [])
    (all : ∀ c ∈ digits, isDecimalDigit c = true) : IsNumeral digits := by
  cases digits with
  | nil => exact absurd rfl someDigit
  | cons c digits =>
    obtain ⟨first, rest⟩ := List.forall_mem_cons.mp all
    exact .mk (Bool.or_eq_true_iff.mpr (.inl first)) fun d inside =>
      isNumeralChar_of_digit (rest d inside)

theorem isNumeral_decimalDigits (n : Nat) : IsNumeral (decimalDigits n) :=
  isNumeral_of_digits (decimalDigits_ne_nil n) fun _ => isDecimalDigit_of_mem

theorem isNumeral_zero : IsNumeral ['0'] :=
  .mk rfl nofun

end

/-! ## Styles -/

namespace NumberStyle

variable {digits : List Char}

theorem isNumeralChar_of_wholePoint (style : NumberStyle) :
    ∀ c ∈ if style.wholePoint then ['.', '0'] else [], isNumeralChar c = true := by
  split <;> simp [isNumeralChar, isDecimalDigit]

theorem isNumeral_positional (style : NumberStyle) (someDigit : digits ≠ [])
    (all : ∀ c ∈ digits, isDecimalDigit c = true) (k : Int) :
    IsNumeral (style.positional digits k) := by
  have zeros : ∀ n, ∀ c ∈ List.replicate n '0', isNumeralChar c = true :=
    fun _ c inside => isNumeralChar_of_digit (isDecimalDigit_of_mem_zeros inside)
  have plain : ∀ c ∈ digits, isNumeralChar c = true :=
    fun c inside => isNumeralChar_of_digit (all c inside)
  unfold positional
  split
  · refine isNumeral_zero.append (List.forall_mem_cons.mpr ⟨rfl, fun c inside => ?_⟩)
    exact (List.mem_append.mp inside).elim (zeros _ c) (plain c)
  · split
    · have someFirst : digits.take k.toNat ≠ [] := by
        intro empty
        rcases List.take_eq_nil_iff.mp empty with none | none
        · omega
        · exact someDigit none
      refine (isNumeral_of_digits someFirst fun c first => all c (List.mem_of_mem_take first)).append
        (List.forall_mem_cons.mpr ⟨rfl, fun c last => plain c (List.mem_of_mem_drop last)⟩)
    · exact ((isNumeral_of_digits someDigit all).append (zeros _)).append
        style.isNumeralChar_of_wholePoint

theorem isNumeral_scientific (someDigit : digits ≠ [])
    (all : ∀ c ∈ digits, isDecimalDigit c = true) (k : Int) :
    IsNumeral (scientific digits k) := by
  have plain : ∀ c ∈ digits, isNumeralChar c = true :=
    fun c inside => isNumeralChar_of_digit (all c inside)
  have exponent : ∀ n, ∀ c ∈ decimalDigits n, isNumeralChar c = true :=
    fun n => (isNumeral_decimalDigits n).isNumeralChar
  unfold scientific
  refine IsNumeral.append ?_ (List.forall_mem_cons.mpr ⟨rfl, ?_⟩)
  · match digits with
    | [] => exact absurd rfl someDigit
    | [d] => exact isNumeral_of_digits someDigit all
    | d :: e :: rest =>
      obtain ⟨first, others⟩ := List.forall_mem_cons.mp all
      refine .mk (Bool.or_eq_true_iff.mpr (.inl first)) (List.forall_mem_cons.mpr ⟨rfl, ?_⟩)
      exact fun c inside => isNumeralChar_of_digit (others c inside)
  · split <;> exact List.forall_mem_cons.mpr ⟨rfl, exponent _⟩

theorem isNumeral_layout (style : NumberStyle) (d : Decimal) : IsNumeral (style.layout d) := by
  have someDigit := decimalDigits_ne_nil d.digits
  have all : ∀ c ∈ decimalDigits d.digits, isDecimalDigit c = true :=
    fun _ => isDecimalDigit_of_mem
  unfold layout
  split
  · exact style.isNumeral_positional someDigit all _
  · dsimp only
    split
    · exact style.isNumeral_positional someDigit all _
    · exact isNumeral_scientific someDigit all _

theorem isNumeral_write (style : NumberStyle) (x : Double) : IsNumeral (style.write x) := by
  have signed : ∀ {cs}, IsNumeral cs → IsNumeral ((if x.negative then ['-'] else []) ++ cs) := by
    intro cs numeral
    split
    · exact .mk rfl numeral.isNumeralChar
    · exact numeral
  unfold write
  dsimp only
  split
  · exact signed (isNumeral_zero.append style.isNumeralChar_of_wholePoint)
  · exact signed (style.isNumeral_layout _)

end NumberStyle

/-- The text of a number in JSON is a numeral. -/
theorem Json.Number.isNumeral_chars (n : Json.Number) : IsNumeral n.chars := by
  cases n with
  | integer n =>
    cases n with
    | ofNat n => exact isNumeral_decimalDigits n
    | negSucc n => exact .mk rfl (isNumeral_decimalDigits (n + 1)).isNumeralChar
  | double x => exact NumberStyle.json.isNumeral_write x

end ChartCompiler

import Mathlib
import ChartCompiler.Proofs.Number.Shortest
import ChartCompiler.Proofs.Number.Text
import ChartCompiler.Proofs.Text.Runs

/-!
The texts of different numbers are different (`Json.Number.chars_injective`). The text of an
unsigned double has three parts, the digits before and behind its point and a power of ten. They
can be told from the text (`NumberParts.text_injective`), and their value is that of the decimal
that was laid out (`NumberStyle.shows_layout`). As the shortest decimals of different doubles have
different values, their texts differ. No integer has the text of a double, which has a point or a
power of ten.
-/

namespace ChartCompiler

/-! ## Signs -/

/-- The sign of a number, which is only written if it is a minus. -/
def signChars (negative : Bool) : List Char :=
  if negative then ['-'] else []

/-- The sign can be told from the text of a number. -/
theorem signChars_append_inj {negative negative' : Bool} {cs cs' : List Char}
    (left : Text.Ends (· == '-') cs) (right : Text.Ends (· == '-') cs')
    (same : signChars negative ++ cs = signChars negative' ++ cs') :
    negative = negative' ∧ cs = cs' := by
  cases negative <;> cases negative'
  · exact ⟨rfl, same⟩
  · subst same
    exact absurd (left '-' rfl) nofun
  · subst same
    exact absurd (right '-' rfl) nofun
  · exact ⟨rfl, List.cons_injective same⟩

theorem unsigned_of_digits {digits : List Char} (filled : digits ≠ [])
    (all : ∀ c ∈ digits, isDecimalDigit c = true) (rest : List Char) :
    Text.Ends (· == '-') (digits ++ rest) := by
  obtain ⟨c, others, rfl⟩ := List.exists_cons_of_ne_nil filled
  refine Text.ends_cons (beq_eq_false_iff_ne.mpr ?_)
  intro minus
  subst minus
  cases all '-' List.mem_cons_self

/-! ## Parts -/

/-- The parts of an unsigned number text: digits, digits behind a point, and a power of ten behind
an `e`. -/
structure NumberParts where
  whole : List Char
  fraction : List Char
  power : Option Int

namespace NumberParts

/-- The text of a power of ten, which always has a sign. -/
def powerText : Option Int → List Char
  | none => []
  | some exponent => 'e' :: (if 0 ≤ exponent then '+' :: decimalDigits exponent.toNat
    else '-' :: decimalDigits (-exponent).toNat)

/-- The text of a fraction. -/
def fractionText : List Char → List Char
  | [] => []
  | digits => '.' :: digits

/-- The text that consists of the parts. -/
def text (parts : NumberParts) : List Char :=
  parts.whole ++ (fractionText parts.fraction ++ powerText parts.power)

/-- The value of the number with the parts. -/
def value (parts : NumberParts) : ℚ :=
  digitsValue (parts.whole ++ parts.fraction) * 10 ^ (parts.power.getD 0 - parts.fraction.length)

/-- There is a digit in front, and a point or a power of ten. -/
structure IsDouble (parts : NumberParts) : Prop where
  filled : parts.whole ≠ []
  whole : ∀ c ∈ parts.whole, isDecimalDigit c = true
  fraction : ∀ c ∈ parts.fraction, isDecimalDigit c = true
  marked : parts.fraction ≠ [] ∨ parts.power ≠ none

variable {p q : NumberParts}

theorem readExponent?_powerText (power : Option Int) :
    readExponent? (powerText power) = some (power.getD 0) := by
  have digits : ∀ n, ¬ ((decimalDigits n).isEmpty ∨ ¬ (decimalDigits n).all isDecimalDigit) := by
    intro n
    have all : (decimalDigits n).all isDecimalDigit = true :=
      List.all_eq_true.mpr fun _ => isDecimalDigit_of_mem
    simp [decimalDigits_ne_nil, all]
  cases power with
  | none => rfl
  | some exponent =>
    rw [powerText]
    split
    next positive =>
      simp only [readExponent?, true_or, if_true, if_neg (digits _), digitsValue_decimalDigits,
        Bool.false_eq_true, if_false, Option.getD_some, Int.toNat_of_nonneg positive]
    next negative =>
      simp only [readExponent?, true_or, if_true, if_neg (digits _), digitsValue_decimalDigits,
        Option.getD_some]
      rw [Int.toNat_of_nonneg (by omega), neg_neg]

theorem powerText_injective : Function.Injective powerText := by
  intro p q same
  have read := congrArg readExponent? same
  rw [readExponent?_powerText, readExponent?_powerText, Option.some.injEq] at read
  cases p <;> cases q
  · rfl
  · cases same
  · cases same
  · exact congrArg some read

theorem fractionText_of_ne_nil {digits : List Char} (someDigit : digits ≠ []) :
    fractionText digits = '.' :: digits := by
  obtain ⟨d, rest, rfl⟩ := List.exists_cons_of_ne_nil someDigit
  rfl

theorem ends_powerText (power : Option Int) : Text.Ends isDecimalDigit (powerText power) := by
  cases power with
  | none => exact Text.ends_nil
  | some exponent => exact Text.ends_cons rfl

theorem ends_tail (fraction : List Char) (power : Option Int) :
    Text.Ends isDecimalDigit (fractionText fraction ++ powerText power) := by
  cases fraction with
  | nil => exact ends_powerText power
  | cons c fraction => exact Text.ends_cons rfl

theorem tail_injective {fraction fraction' : List Char} {power power' : Option Int}
    (all : ∀ c ∈ fraction, isDecimalDigit c = true)
    (all' : ∀ c ∈ fraction', isDecimalDigit c = true)
    (same : fractionText fraction ++ powerText power = fractionText fraction' ++ powerText power') :
    fraction = fraction' ∧ powerText power = powerText power' := by
  cases fraction with
  | nil =>
    cases fraction' with
    | nil => exact ⟨rfl, same⟩
    | cons c fraction' => cases power <;> cases same
  | cons c fraction =>
    cases fraction' with
    | nil => cases power' <;> cases same
    | cons c' fraction' =>
      exact Text.append_inj all all' (ends_powerText power) (ends_powerText power')
        (List.cons.inj same).2

theorem text_injective (left : p.IsDouble) (right : q.IsDouble) (same : p.text = q.text) :
    p = q := by
  obtain ⟨whole, tails⟩ := Text.append_inj left.whole right.whole
    (ends_tail p.fraction p.power) (ends_tail q.fraction q.power) same
  obtain ⟨fraction, powers⟩ := tail_injective left.fraction right.fraction tails
  have power := powerText_injective powers
  cases p
  cases q
  congr

theorem IsDouble.unsigned (double : p.IsDouble) : Text.Ends (· == '-') p.text :=
  unsigned_of_digits double.filled double.whole _

/-- The text is not a mere run of digits. -/
theorem IsDouble.mark_mem (double : p.IsDouble) : '.' ∈ p.text ∨ 'e' ∈ p.text := by
  obtain ⟨whole, fraction, power⟩ := p
  rcases double.marked with some | some
  · obtain ⟨c, rest, rfl⟩ := List.exists_cons_of_ne_nil some
    exact .inl (List.mem_append_right _ List.mem_cons_self)
  · obtain ⟨exponent, rfl⟩ := Option.ne_none_iff_exists'.mp some
    exact .inr (List.mem_append_right _ (List.mem_append_right _ List.mem_cons_self))

/-- The text is put together from parts that have the value. -/
def Shows (text : List Char) (value : ℚ) : Prop :=
  ∃ parts : NumberParts, parts.IsDouble ∧ parts.text = text ∧ parts.value = value

theorem shows_point {whole fraction : List Char} {value : ℚ} (filled : whole ≠ [])
    (all : ∀ c ∈ whole, isDecimalDigit c = true) (filled' : fraction ≠ [])
    (all' : ∀ c ∈ fraction, isDecimalDigit c = true)
    (written : digitsValue (whole ++ fraction) * 10 ^ (-(fraction.length : Int)) = value) :
    Shows (whole ++ '.' :: fraction) value := by
  refine ⟨⟨whole, fraction, none⟩, ⟨filled, all, all', .inl filled'⟩, ?_, ?_⟩
  · rw [text, fractionText_of_ne_nil filled', powerText, List.append_nil]
  · rw [NumberParts.value, Option.getD_none, zero_sub, written]

end NumberParts

/-! ## Layout -/

namespace NumberStyle

open NumberParts

section

variable {digits : List Char} {k : Int}

theorem shows_small (someDigit : digits ≠ []) (all : ∀ c ∈ digits, isDecimalDigit c = true)
    (small : k ≤ 0) :
    Shows ('0' :: '.' :: (List.replicate (-k).toNat '0' ++ digits))
      (digitsValue digits * 10 ^ (k - digits.length)) := by
  refine shows_point (List.cons_ne_nil '0' []) ?_ ?_ ?_ ?_
  · simp [isDecimalDigit]
  · simp [someDigit]
  · exact List.forall_mem_append.mpr ⟨fun _ => isDecimalDigit_of_mem_zeros, all⟩
  · have leading : digitsValue (['0'] ++ (List.replicate (-k).toNat '0' ++ digits)) =
        digitsValue digits := (digitsValue_zeros 1 _).trans (digitsValue_zeros _ digits)
    rw [leading, List.length_append, List.length_replicate]
    congr 2
    omega

theorem shows_inside (all : ∀ c ∈ digits, isDecimalDigit c = true) (large : 0 < k)
    (inside : k.toNat < digits.length) :
    Shows (digits.take k.toNat ++ '.' :: digits.drop k.toNat)
      (digitsValue digits * 10 ^ (k - digits.length)) := by
  refine shows_point ?_ ?_ ?_ ?_ ?_
  · have someFirst : 0 < (digits.take k.toNat).length := by
      rw [List.length_take]
      omega
    exact List.ne_nil_of_length_pos someFirst
  · exact fun c first => all c (List.mem_of_mem_take first)
  · exact List.drop_eq_nil_iff.not.mpr (by omega)
  · exact fun c last => all c (List.mem_of_mem_drop last)
  · rw [List.take_append_drop, List.length_drop]
    congr 2
    omega

theorem shows_whole (someDigit : digits ≠ []) (all : ∀ c ∈ digits, isDecimalDigit c = true)
    (behind : digits.length ≤ k.toNat) :
    Shows (digits ++ List.replicate (k.toNat - digits.length) '0' ++ ['.', '0'])
      (digitsValue digits * 10 ^ (k - digits.length)) := by
  refine shows_point ?_ ?_ (List.cons_ne_nil '0' []) ?_ ?_
  · simp [someDigit]
  · exact List.forall_mem_append.mpr ⟨all, fun _ => isDecimalDigit_of_mem_zeros⟩
  · simp [isDecimalDigit]
  · have trailing : digits ++ List.replicate (k.toNat - digits.length) '0' ++ ['0'] =
        digits ++ List.replicate (k.toNat - digits.length + 1) '0' := by
      rw [List.replicate_succ', List.append_assoc]
    have positive := List.length_pos_of_ne_nil someDigit
    have power : k - digits.length = ((k.toNat - digits.length : Nat) : Int) := by omega
    rw [trailing, digitsValue_append_zeros, power]
    push_cast
    rw [pow_succ, zpow_natCast]
    simp
    ring

theorem shows_scientific (someDigit : digits ≠ []) (all : ∀ c ∈ digits, isDecimalDigit c = true) :
    Shows (scientific digits k) (digitsValue digits * 10 ^ (k - digits.length)) := by
  obtain ⟨d, rest, rfl⟩ := List.exists_cons_of_ne_nil someDigit
  obtain ⟨first, others⟩ := List.forall_mem_cons.mp all
  refine ⟨⟨[d], rest, some (k - 1)⟩, ⟨nofun, by simpa using first, others, .inr nofun⟩, ?_, ?_⟩
  · cases rest <;> rfl
  · rw [NumberParts.value, List.length_cons]
    congr 2
    dsimp only [Option.getD_some]
    omega

end

/-- A decimal is laid out as a text that shows its value. -/
theorem shows_layout (d : Decimal) : Shows (json.layout d) d.value := by
  have someDigit := decimalDigits_ne_nil d.digits
  have all : ∀ c ∈ decimalDigits d.digits, isDecimalDigit c = true :=
    fun _ => isDecimalDigit_of_mem
  have value : (digitsValue (decimalDigits d.digits) : ℚ) *
      10 ^ ((decimalDigits d.digits).length + d.exponent - (decimalDigits d.digits).length) =
      d.value := by
    rw [digitsValue_decimalDigits, add_sub_cancel_left]
    rfl
  rw [← value]
  unfold layout
  dsimp only [json]
  split
  next =>
    unfold positional
    split
    next small => exact shows_small someDigit all small
    next large =>
      split
      next inside => exact shows_inside all (by omega) inside
      next behind => exact shows_whole someDigit all (by omega)
  next => exact shows_scientific someDigit all

end NumberStyle

/-! ## Numbers -/

theorem decimalInteger_eq (n : Int) :
    decimalInteger n = signChars (decide (n < 0)) ++ decimalDigits n.natAbs := by
  cases n with
  | ofNat n => rfl
  | negSucc n =>
    rw [decide_eq_true (Int.negSucc_lt_zero n)]
    rfl

theorem decimalInteger_injective : Function.Injective decimalInteger := by
  intro n m same
  have unsigned : ∀ k, Text.Ends (· == '-') (decimalDigits k) := by
    intro k
    rw [← List.append_nil (decimalDigits k)]
    exact unsigned_of_digits (decimalDigits_ne_nil k) (fun _ => isDecimalDigit_of_mem) []
  rw [decimalInteger_eq, decimalInteger_eq] at same
  obtain ⟨sign, digits⟩ := signChars_append_inj (unsigned _) (unsigned _) same
  have size := congrArg digitsValue digits
  rw [digitsValue_decimalDigits, digitsValue_decimalDigits] at size
  rw [decide_eq_decide] at sign
  omega

theorem mark_not_mem_decimalInteger (n : Int) :
    '.' ∉ decimalInteger n ∧ 'e' ∉ decimalInteger n := by
  have digits : ∀ c ∈ decimalInteger n, c = '-' ∨ isDecimalDigit c = true := by
    intro c inside
    rw [decimalInteger_eq, List.mem_append] at inside
    refine inside.imp (fun sign => ?_) isDecimalDigit_of_mem
    unfold signChars at sign
    split at sign
    · exact List.mem_singleton.mp sign
    · cases sign
  constructor <;> intro inside <;> rcases digits _ inside with minus | digit
  · cases minus
  · cases digit
  · cases minus
  · cases digit

/-- The text of a double shows its sign and its value. -/
theorem Double.exists_shows_write (x : Double) :
    ∃ cs, NumberStyle.json.write x = signChars x.negative ++ cs ∧
      NumberParts.Shows cs (x.shown .even) := by
  unfold NumberStyle.write Double.shown
  dsimp only
  split
  next zero =>
    refine ⟨['0', '.', '0'], rfl, ?_⟩
    refine NumberParts.shows_point (List.cons_ne_nil '0' []) ?_ (List.cons_ne_nil '0' []) ?_ ?_
    · simp [isDecimalDigit]
    · simp [isDecimalDigit]
    · simp [digitsValue]
  next nonzero => exact ⟨_, rfl, NumberStyle.shows_layout _⟩

theorem Double.write_injective : Function.Injective NumberStyle.json.write := by
  intro x y same
  obtain ⟨_, xText, p, left, rfl, xValue⟩ := x.exists_shows_write
  obtain ⟨_, yText, q, right, rfl, yValue⟩ := y.exists_shows_write
  rw [xText, yText] at same
  obtain ⟨sign, texts⟩ := signChars_append_inj left.unsigned right.unsigned same
  have parts := NumberParts.text_injective left right texts
  exact eq_of_shown sign (xValue.symm.trans (parts ▸ yValue))

/-- Different numbers have different texts, even if they have the same value. -/
theorem Json.Number.chars_injective : Function.Injective Json.Number.chars := by
  have apart : ∀ n x, decimalInteger n ≠ NumberStyle.json.write x := by
    intro n x same
    obtain ⟨_, text, parts, double, rfl, -⟩ := x.exists_shows_write
    obtain ⟨noPoint, noPower⟩ := mark_not_mem_decimalInteger n
    rw [same, text] at noPoint noPower
    exact double.mark_mem.elim (fun point => noPoint (List.mem_append_right _ point))
      fun power => noPower (List.mem_append_right _ power)
  intro n m same
  cases n <;> cases m
  · exact congrArg _ (decimalInteger_injective same)
  · exact (apart _ _ same).elim
  · exact (apart _ _ same.symm).elim
  · exact congrArg _ (Double.write_injective same)

end ChartCompiler

import Mathlib
import ChartCompiler.Number.Shortest

/-!
The decimals of doubles, as rational numbers. The decimals that a magnitude covers are those whose
value lies between two ends (`Magnitude.covers_iff`), and the shortest decimal is one of them
(`Magnitude.reads_shortest`). No value lies between the ends of two magnitudes
(`Magnitude.IsBinary.eq_of_reads`): the end that neighbours share is only taken by the one with the
even significand. So the shortest decimal determines the magnitude, and with the sign it determines
all the bits (`Double.eq_of_shown`).
-/

namespace ChartCompiler

/-! ## Exact comparison -/

/-- The value of a decimal. -/
def Decimal.value (d : Decimal) : ℚ :=
  d.digits * 10 ^ d.exponent

theorem zpow_mul_pow_toNat {b : ℚ} (nonzero : b ≠ 0) (i : Int) :
    b ^ i * b ^ (-i).toNat = b ^ i.toNat := by
  rw [← zpow_natCast, ← zpow_natCast, ← zpow_add₀ nonzero]
  congr 1
  omega

/-- Both sides are compared after the negative powers have been multiplied away. -/
theorem compareScaled_eq (a : Nat) (i : Int) (n : Nat) (j : Int) :
    compareScaled a i n j = cmp ((a : ℚ) * 10 ^ i) (n * 2 ^ j) := by
  have clear : (0 : ℚ) < 10 ^ (-i).toNat * 2 ^ (-j).toNat := by positivity
  have left : ((a * Nat.pow 10 i.toNat * Nat.pow 2 (-j).toNat : Nat) : ℚ) =
      a * 10 ^ i * (10 ^ (-i).toNat * 2 ^ (-j).toNat) := by
    push_cast [Nat.pow_eq]
    rw [← zpow_mul_pow_toNat (by norm_num) i]
    ring
  have right : ((n * Nat.pow 2 j.toNat * Nat.pow 10 (-i).toNat : Nat) : ℚ) =
      n * 2 ^ j * (10 ^ (-i).toNat * 2 ^ (-j).toNat) := by
    push_cast [Nat.pow_eq]
    rw [← zpow_mul_pow_toNat (by norm_num) j]
    ring
  have cast : StrictMono (Nat.cast : Nat → ℚ) := Nat.strictMono_cast
  rw [compareScaled, ← cmp_eq_compare, ← cast.cmp_map_eq, left, right, cmp_mul_pos_right clear]

namespace Magnitude

/-! ## The values that round to a magnitude -/

/-- The lower end of the values that round to a magnitude, in quarters of its last binary digit. -/
def lowQuarters (x : Magnitude) : Nat :=
  if x.narrowBelow then 4 * x.significand - 1 else 4 * x.significand - 2

/-- The upper end, in quarters of the last binary digit. -/
def highQuarters (x : Magnitude) : Nat :=
  4 * x.significand + 2

/-- The value of a number of quarters of the last binary digit. -/
def quarters (x : Magnitude) (n : Nat) : ℚ :=
  n * 2 ^ (x.exponent - 2)

/-- The value rounds to the magnitude. One at an end does if the significand is even. -/
structure Reads (x : Magnitude) (v : ℚ) : Prop where
  low : x.quarters x.lowQuarters ≤ v
  high : v ≤ x.quarters x.highQuarters
  ends : v = x.quarters x.lowQuarters ∨ v = x.quarters x.highQuarters → x.significand % 2 = 0

variable {x y : Magnitude} {v : ℚ}

theorem covers_iff (x : Magnitude) (d : Decimal) : x.covers d = true ↔ x.Reads d.value := by
  have below : compareScaled d.digits d.exponent
      (if x.narrowBelow then 4 * x.significand - 1 else 4 * x.significand - 2) (x.exponent - 2) =
      cmp d.value (x.quarters x.lowQuarters) := compareScaled_eq ..
  have above : compareScaled d.digits d.exponent (4 * x.significand + 2) (x.exponent - 2) =
      cmp d.value (x.quarters x.highQuarters) := compareScaled_eq ..
  simp only [covers, below, above, Bool.and_eq_true, Bool.or_eq_true, beq_iff_eq, cmp_eq_lt_iff,
    cmp_eq_gt_iff, cmp_eq_eq_iff]
  constructor
  · intro inside
    obtain ⟨low, high⟩ := inside
    refine ⟨?_, ?_, ?_⟩
    · exact low.elim le_of_lt fun atEnd => atEnd.2.ge
    · exact high.elim le_of_lt fun atEnd => atEnd.2.le
    · intro atEnd
      rcases atEnd with atLow | atHigh
      · exact low.elim (fun strict => absurd atLow strict.ne') And.left
      · exact high.elim (fun strict => absurd atHigh strict.ne) And.left
  · intro reads
    constructor
    · exact reads.low.lt_or_eq.imp id fun atLow => ⟨reads.ends (.inl atLow.symm), atLow.symm⟩
    · exact reads.high.lt_or_eq.imp id fun atHigh => ⟨reads.ends (.inr atHigh), atHigh⟩

theorem strictMono_quarters (x : Magnitude) : StrictMono x.quarters := fun _ _ less =>
  mul_lt_mul_of_pos_right (Nat.cast_lt.mpr less) (by positivity)

theorem Reads.pos (reads : x.Reads v) (nonzero : x.significand ≠ 0) : 0 < v := by
  have low : 0 < x.lowQuarters := by
    unfold lowQuarters
    split <;> omega
  have positive := x.strictMono_quarters low
  rw [quarters, Nat.cast_zero, zero_mul] at positive
  exact positive.trans_le reads.low

/-! ## The shortest decimal -/

/-- A magnitude that is not zero lies between its ends. -/
theorem reads_self (nonzero : x.significand ≠ 0) : x.Reads (x.quarters (4 * x.significand)) := by
  have low : x.lowQuarters < 4 * x.significand := by
    unfold lowQuarters
    split <;> omega
  have high : 4 * x.significand < x.highQuarters := by
    unfold highQuarters
    omega
  refine ⟨(x.strictMono_quarters low).le, (x.strictMono_quarters high).le, ?_⟩
  intro atEnd
  rcases atEnd with atLow | atHigh
  · exact absurd atLow (x.strictMono_quarters low).ne'
  · exact absurd atHigh (x.strictMono_quarters high).ne

theorem value_exact (x : Magnitude) : x.exact.value = x.quarters (4 * x.significand) := by
  have whole : x.quarters (4 * x.significand) = x.significand * 2 ^ x.exponent := by
    rw [quarters, zpow_sub₀ (by norm_num)]
    push_cast
    ring
  rw [whole, exact]
  split
  next natural =>
    obtain ⟨n, isNat⟩ := Int.eq_ofNat_of_zero_le natural
    simp [Decimal.value, isNat]
  next negative =>
    obtain ⟨n, isNeg⟩ : ∃ n : Nat, x.exponent = -n := ⟨(-x.exponent).toNat, by omega⟩
    have ten : (10 : ℚ) = 5 * 2 := by norm_num
    have five : ((5 : ℚ) ^ n) ≠ 0 := by positivity
    simp only [Decimal.value, isNeg, neg_neg, Int.toNat_natCast, Nat.pow_eq, Nat.cast_mul,
      Nat.cast_pow, Nat.cast_ofNat, zpow_neg, zpow_natCast, ten, mul_pow]
    field_simp

end Magnitude

theorem Decimal.value_trimmed (d : Decimal) : d.trimmed.value = d.value := by
  fun_induction Decimal.trimmed d with
  | case1 d zeros ih =>
    have tenfold : d.digits = 10 * (d.digits / 10) := by omega
    rw [ih, Decimal.value, Decimal.value, tenfold, zpow_add_one₀ (by norm_num)]
    simp only [Nat.mul_div_cancel_left _ (show 0 < 10 by decide)]
    push_cast
    ring
  | case2 d => rfl

namespace Magnitude

variable {x y : Magnitude} {v : ℚ}

theorem covers_of_onGrid? {tie : Tie} {e : Int} {d : Decimal} (found : x.onGrid? tie e = some d) :
    x.covers d = true := by
  unfold onGrid? at found
  dsimp only at found
  split at found
  next => cases found
  next lower _ => exact Option.some.inj found ▸ lower
  next _ upper => exact Option.some.inj found ▸ upper
  next lower upper =>
    repeat' split at found
    all_goals first | exact Option.some.inj found ▸ lower | exact Option.some.inj found ▸ upper

/-- The shortest decimal of a magnitude other than zero rounds to it. -/
theorem reads_shortest (nonzero : x.significand ≠ 0) (tie : Tie) :
    x.Reads (x.shortest tie).value := by
  rw [shortest, Decimal.value_trimmed]
  cases search : (List.range 17).findSome? fun n =>
    x.onGrid? tie (x.pointPosition - (n + 1 : Nat)) with
  | none =>
    rw [Option.getD_none, value_exact]
    exact reads_self nonzero
  | some d =>
    obtain ⟨n, -, found⟩ := List.exists_of_findSome?_eq_some search
    exact (x.covers_iff d).mp (covers_of_onGrid? found)

/-! ## Magnitudes of doubles -/

/-- What all magnitudes of doubles satisfy: at most fifty-three binary digits, and exactly so many
above the least exponent, where the powers of two are narrow below. -/
structure IsBinary (x : Magnitude) : Prop where
  least : -1074 ≤ x.exponent
  below : x.significand < 2 ^ 53
  full : -1074 < x.exponent → 2 ^ 52 ≤ x.significand
  narrow : x.narrowBelow = true ↔ -1074 < x.exponent ∧ x.significand = 2 ^ 52

theorem quarters_shift {k : Nat} (shift : y.exponent = x.exponent + k) (n : Nat) :
    y.quarters n = x.quarters (n * 2 ^ k) := by
  rw [quarters, quarters, shift, show x.exponent + k - 2 = x.exponent - 2 + k by omega,
    zpow_add₀ (by norm_num), zpow_natCast]
  push_cast
  ring

namespace IsBinary

/-- The lower end of a magnitude with a larger exponent, or with the same exponent and a larger
significand, is not below the upper end. Where they coincide, one of the significands is odd. -/
theorem highQuarters_le (left : x.IsBinary) (right : y.IsBinary) {k : Nat}
    (shift : y.exponent = x.exponent + k) (less : k = 0 → x.significand < y.significand) :
    x.highQuarters ≤ y.lowQuarters * 2 ^ k ∧
      (x.highQuarters = y.lowQuarters * 2 ^ k →
        ¬ (x.significand % 2 = 0 ∧ y.significand % 2 = 0)) := by
  have bound := left.below
  cases k with
  | zero =>
    -- only neighbours touch, and one of them is odd
    have smaller := less rfl
    unfold highQuarters lowQuarters
    split <;> omega
  | succ k =>
    -- the largest significand touches the next power of two from below, and it is odd
    have least := left.least
    have above : -1074 < y.exponent := by omega
    have full := right.full above
    have low : 2 ^ 54 - 1 ≤ y.lowQuarters := by
      by_cases power : y.significand = 2 ^ 52
      · rw [lowQuarters, if_pos (right.narrow.mpr ⟨above, power⟩)]
        omega
      · unfold lowQuarters
        split <;> omega
    have doubled : y.lowQuarters * 2 ≤ y.lowQuarters * 2 ^ (k + 1) :=
      Nat.mul_le_mul_left _ (Nat.le_self_pow k.succ_ne_zero 2)
    unfold highQuarters
    omega

/-- No value rounds to two magnitudes, the larger of which is the second. -/
theorem not_reads (left : x.IsBinary) (right : y.IsBinary) {k : Nat}
    (shift : y.exponent = x.exponent + k) (less : k = 0 → x.significand < y.significand)
    (inLeft : x.Reads v) (inRight : y.Reads v) : False := by
  obtain ⟨apart, odd⟩ := left.highQuarters_le right shift less
  have low := inRight.low
  rw [quarters_shift shift] at low
  have ordered := x.strictMono_quarters.monotone apart
  have atHigh : v = x.quarters x.highQuarters := le_antisymm inLeft.high (ordered.trans low)
  have atLow : x.quarters (y.lowQuarters * 2 ^ k) = v := le_antisymm low (atHigh ▸ ordered)
  refine odd (x.strictMono_quarters.injective (atHigh.symm.trans atLow.symm)) ⟨?_, ?_⟩
  · exact inLeft.ends (.inr atHigh)
  · exact inRight.ends (.inl ((quarters_shift shift _).trans atLow).symm)

end IsBinary

/-- A value rounds to one magnitude only. -/
theorem IsBinary.eq_of_reads (left : x.IsBinary) (right : y.IsBinary) (inLeft : x.Reads v)
    (inRight : y.Reads v) : x.exponent = y.exponent ∧ x.significand = y.significand := by
  rcases lt_trichotomy x.exponent y.exponent with less | same | greater
  · obtain ⟨k, shift⟩ := Int.le.dest less.le
    exact (left.not_reads right shift.symm (by omega) inLeft inRight).elim
  · refine ⟨same, ?_⟩
    rcases lt_trichotomy x.significand y.significand with less | same' | greater
    · exact (left.not_reads right (by omega) (fun _ => less) inLeft inRight (k := 0)).elim
    · exact same'
    · exact (right.not_reads left (by omega) (fun _ => greater) inRight inLeft (k := 0)).elim
  · obtain ⟨k, shift⟩ := Int.le.dest greater.le
    exact (right.not_reads left shift.symm (by omega) inRight inLeft).elim

end Magnitude

/-! ## Doubles -/

namespace Double

theorem exponentBits_eq (x : Double) : x.exponentBits = x.bits.toNat / 2 ^ 52 % 2 ^ 11 := by
  rw [exponentBits, UInt64.toNat_and, UInt64.toNat_shiftRight, Nat.shiftRight_eq_div_pow]
  exact Nat.and_two_pow_sub_one_eq_mod _ 11

theorem fractionBits_eq (x : Double) : x.fractionBits = x.bits.toNat % 2 ^ 52 := by
  rw [fractionBits, UInt64.toNat_and]
  exact Nat.and_two_pow_sub_one_eq_mod _ 52

theorem negative_eq (x : Double) : x.negative = decide (x.bits.toNat / 2 ^ 63 ≠ 0) := by
  have shifted : (x.bits >>> 63).toNat = x.bits.toNat / 2 ^ 63 := by
    rw [UInt64.toNat_shiftRight, Nat.shiftRight_eq_div_pow]
    rfl
  rw [Bool.eq_iff_iff, negative, bne_iff_ne, decide_eq_true_eq, ← shifted]
  exact not_congr UInt64.toNat_inj.symm

/-- The sign, the exponent and the fraction are all there is to a double. -/
theorem ext_fields {x y : Double} (sign : x.negative = y.negative)
    (exponent : x.exponentBits = y.exponentBits) (fraction : x.fractionBits = y.fractionBits) :
    x = y := by
  have xBound := x.bits.toNat_lt
  have yBound := y.bits.toNat_lt
  simp only [negative_eq, exponentBits_eq, fractionBits_eq, decide_eq_decide]
    at sign exponent fraction
  have bits : x.bits = y.bits := UInt64.toNat_inj.mp (by omega)
  cases x
  cases y
  cases bits
  rfl

theorem fractionBits_lt (x : Double) : x.fractionBits < 2 ^ 52 :=
  x.fractionBits_eq ▸ Nat.mod_lt _ (by decide)

theorem magnitude_of_subnormal {x : Double} (subnormal : x.exponentBits = 0) :
    x.magnitude = ⟨x.fractionBits, -1074, false⟩ :=
  if_pos subnormal

theorem magnitude_of_normal {x : Double} (normal : x.exponentBits ≠ 0) :
    x.magnitude = ⟨2 ^ 52 + x.fractionBits, (x.exponentBits : Int) - 1075,
      decide (x.fractionBits = 0) && decide (1 < x.exponentBits)⟩ :=
  if_neg normal

theorem isBinary_magnitude (x : Double) : x.magnitude.IsBinary := by
  have bound := x.fractionBits_lt
  by_cases subnormal : x.exponentBits = 0
  · rw [magnitude_of_subnormal subnormal]
    constructor <;> dsimp only
    · omega
    · omega
    · omega
    · simp
  · rw [magnitude_of_normal subnormal]
    constructor <;> dsimp only
    · omega
    · omega
    · omega
    · rw [Bool.and_eq_true, decide_eq_true_eq, decide_eq_true_eq]
      omega

/-- Doubles of the same sign and magnitude are the same. -/
theorem ext_magnitude {x y : Double} (sign : x.negative = y.negative)
    (exponent : x.magnitude.exponent = y.magnitude.exponent)
    (significand : x.magnitude.significand = y.magnitude.significand) : x = y := by
  have xBound := x.fractionBits_lt
  have yBound := y.fractionBits_lt
  have fields : x.exponentBits = y.exponentBits ∧ x.fractionBits = y.fractionBits := by
    by_cases xSubnormal : x.exponentBits = 0 <;> by_cases ySubnormal : y.exponentBits = 0
    · rw [magnitude_of_subnormal xSubnormal, magnitude_of_subnormal ySubnormal] at significand
      exact ⟨xSubnormal.trans ySubnormal.symm, significand⟩
    · rw [magnitude_of_subnormal xSubnormal, magnitude_of_normal ySubnormal] at significand
      dsimp only at significand
      omega
    · rw [magnitude_of_normal xSubnormal, magnitude_of_subnormal ySubnormal] at significand
      dsimp only at significand
      omega
    · rw [magnitude_of_normal xSubnormal, magnitude_of_normal ySubnormal] at exponent significand
      dsimp only at exponent significand
      omega
  exact ext_fields sign fields.1 fields.2

/-- The value that is shown of a double besides its sign: that of its shortest decimal, or zero. -/
def shown (x : Double) (tie : Tie) : ℚ :=
  if x.magnitude.significand = 0 then 0 else (x.magnitude.shortest tie).value

theorem shown_pos {x : Double} (nonzero : x.magnitude.significand ≠ 0) (tie : Tie) :
    0 < x.shown tie := by
  rw [shown, if_neg nonzero]
  exact (Magnitude.reads_shortest nonzero tie).pos nonzero

theorem exponent_of_zero {x : Double} (zero : x.magnitude.significand = 0) :
    x.magnitude.exponent = -1074 := by
  have binary := x.isBinary_magnitude
  have least := binary.least
  have full := binary.full
  omega

/-- What is shown of a double, its sign and a value, determines the double. -/
theorem eq_of_shown {x y : Double} (sign : x.negative = y.negative) {tie : Tie}
    (same : x.shown tie = y.shown tie) : x = y := by
  by_cases xZero : x.magnitude.significand = 0 <;> by_cases yZero : y.magnitude.significand = 0
  · refine ext_magnitude sign ?_ (xZero.trans yZero.symm)
    rw [exponent_of_zero xZero, exponent_of_zero yZero]
  · have positive := shown_pos yZero tie
    rw [← same, shown, if_pos xZero] at positive
    exact (lt_irrefl _ positive).elim
  · have positive := shown_pos xZero tie
    rw [same, shown, if_pos yZero] at positive
    exact (lt_irrefl _ positive).elim
  · rw [shown, shown, if_neg xZero, if_neg yZero] at same
    have inLeft := Magnitude.reads_shortest xZero tie
    have inRight := Magnitude.reads_shortest yZero tie
    rw [← same] at inRight
    obtain ⟨exponent, significand⟩ :=
      x.isBinary_magnitude.eq_of_reads y.isBinary_magnitude inLeft inRight
    exact ext_magnitude sign exponent significand

end Double

end ChartCompiler

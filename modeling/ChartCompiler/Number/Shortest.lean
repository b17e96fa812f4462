import ChartCompiler.Number.Double

/-!
The shortest decimal of a binary64 magnitude, selected by exact arithmetic on
natural numbers. A magnitude `m * 2 ^ q` stands for the interval of reals that
round to it; of the decimals with the fewest digits inside that interval the
nearest one is taken. Two candidates may be equally near, and which of them
wins is the caller's choice (`Tie`).
-/

namespace ChartCompiler

/-- A non-negative magnitude `significand * 2 ^ exponent`. Below a power of two
the neighbouring double is half as far away as above it, and `narrowBelow`
records that. -/
structure Magnitude where
  significand : Nat
  exponent : Int
  narrowBelow : Bool
deriving DecidableEq

/-- The magnitude of a double: subnormal numbers have no hidden bit. -/
def Double.magnitude (x : Double) : Magnitude :=
  let e := x.exponentBits
  let f := x.fractionBits
  if e = 0 then ⟨f, -1074, false⟩
  else ⟨0x10000000000000 + f, (e : Int) - 1075, decide (f = 0) && decide (1 < e)⟩

/-- The decimal `digits * 10 ^ exponent`. -/
structure Decimal where
  digits : Nat
  exponent : Int
deriving DecidableEq

/-- What happens when two decimals of the same length are equally near. -/
inductive Tie where
  | even
  | up
deriving DecidableEq

/-- Compares `a * 10 ^ i` with `n * 2 ^ j` without rounding. -/
def compareScaled (a : Nat) (i : Int) (n : Nat) (j : Int) : Ordering :=
  compare (a * Nat.pow 10 i.toNat * Nat.pow 2 (-j).toNat)
    (n * Nat.pow 2 j.toNat * Nat.pow 10 (-i).toNat)

namespace Magnitude

/-- The decimal lies among the reals that round to this magnitude. The ends of
the interval belong to it exactly when the significand is even. -/
def covers (x : Magnitude) (d : Decimal) : Bool :=
  let low := if x.narrowBelow then 4 * x.significand - 1 else 4 * x.significand - 2
  let high := 4 * x.significand + 2
  let closed := x.significand % 2 == 0
  let below := compareScaled d.digits d.exponent low (x.exponent - 2)
  let above := compareScaled d.digits d.exponent high (x.exponent - 2)
  (below == .gt || (closed && below == .eq)) && (above == .lt || (closed && above == .eq))

/-- The whole number of steps of size `10 ^ e` below the magnitude. -/
def stepsBelow (x : Magnitude) (e : Int) : Nat :=
  (x.significand * Nat.pow 2 x.exponent.toNat * Nat.pow 10 (-e).toNat) /
    (Nat.pow 2 (-x.exponent).toNat * Nat.pow 10 e.toNat)

/-- The least `k` with `x < 10 ^ k`, for a magnitude that is not zero. The
binary logarithm gives an estimate that is off by one at most. -/
def pointPosition (x : Magnitude) : Int :=
  let estimate := ((Nat.log2 x.significand + x.exponent) * 30103).fdiv 100000 + 1
  let less (k : Int) : Bool := compareScaled 1 k x.significand x.exponent == .gt
  if less (estimate - 1) then estimate - 1
  else if less estimate then estimate
  else estimate + 1

/-- The decimal with steps of size `10 ^ e` that reads back to the magnitude,
if one of the two neighbours of the magnitude does. -/
def onGrid? (x : Magnitude) (tie : Tie) (e : Int) : Option Decimal :=
  let steps := x.stepsBelow e
  let lower : Decimal := ⟨steps, e⟩
  let upper : Decimal := ⟨steps + 1, e⟩
  match x.covers lower, x.covers upper with
  | false, false => none
  | true, false => some lower
  | false, true => some upper
  | true, true =>
    match compareScaled (2 * steps + 1) e (2 * x.significand) x.exponent, tie with
    | .gt, _ => some lower
    | .lt, _ => some upper
    | .eq, .up => some upper
    | .eq, .even => if steps % 2 = 0 then some lower else some upper

/-- The exact decimal value of the magnitude. -/
def exact (x : Magnitude) : Decimal :=
  if 0 ≤ x.exponent then ⟨x.significand * Nat.pow 2 x.exponent.toNat, 0⟩
  else ⟨x.significand * Nat.pow 5 (-x.exponent).toNat, x.exponent⟩

end Magnitude

/-- Moves the trailing zeros of the digits into the exponent. -/
def Decimal.trimmed (d : Decimal) : Decimal :=
  if h : d.digits ≠ 0 ∧ d.digits % 10 = 0 then
    Decimal.trimmed ⟨d.digits / 10, d.exponent + 1⟩
  else d
termination_by d.digits
decreasing_by
  exact Nat.div_lt_self (Nat.pos_of_ne_zero h.1) (by decide)

/-- The shortest decimal that reads back to a magnitude other than zero: grids
of one to seventeen digits are tried in turn, and the exact value stands behind
them. -/
def Magnitude.shortest (x : Magnitude) (tie : Tie) : Decimal :=
  let k := x.pointPosition
  let found := (List.range 17).findSome? fun n => x.onGrid? tie (k - (n + 1 : Nat))
  (found.getD x.exact).trimmed

end ChartCompiler

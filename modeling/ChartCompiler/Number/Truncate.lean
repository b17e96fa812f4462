import ChartCompiler.Number.Shortest
import ChartCompiler.Number.Word

/-!
The whole part of a double, computed exactly and held inside sixty-four bits.
-/

namespace ChartCompiler

namespace Magnitude

/-- The whole part of the magnitude. -/
def whole (x : Magnitude) : Nat :=
  if 0 ≤ x.exponent then x.significand * Nat.pow 2 x.exponent.toNat
  else x.significand / Nat.pow 2 (-x.exponent).toNat

end Magnitude

/-- The double rounded toward zero; what does not fit a signed integer of
sixty-four bits becomes the nearest one that does. -/
def Double.truncated (x : Double) : Int :=
  let n := x.magnitude.whole
  if x.negative then -(min n bound63 : Nat) else (min n (bound63 - 1) : Nat)

end ChartCompiler

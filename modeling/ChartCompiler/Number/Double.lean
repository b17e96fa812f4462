/-!
Finite binary64 numbers. A `Double` is its sixty-four bits together with the
fact that they denote neither an infinity nor a NaN, so that equality of
doubles is equality of bits and can be decided: `0.0` and `-0.0` differ, and
every double has a text. Arithmetic is done on `Float` and comes back through
`Double.ofFloat?`, which refuses what is not finite.
-/

namespace ChartCompiler

/-- A finite binary64 number, kept as its bits. The eleven exponent bits are
not all set, which excludes the infinities and NaN. -/
structure Double where
  bits : UInt64
  finite : (bits >>> 52) &&& 0x7FF ≠ 0x7FF
deriving DecidableEq

namespace Double

/-- The number as a machine float. -/
def toFloat (x : Double) : Float :=
  Float.ofBits x.bits

/-- The double a machine float holds, if it is finite. -/
def ofFloat? (x : Float) : Option Double :=
  if h : (x.toBits >>> 52) &&& 0x7FF ≠ 0x7FF then some ⟨x.toBits, h⟩ else none

/-- Positive zero. -/
def zero : Double :=
  ⟨0, by decide⟩

/-- The sign bit, which zero has as well. -/
def negative (x : Double) : Bool :=
  x.bits >>> 63 != 0

/-- The eleven bits of the biased exponent. -/
def exponentBits (x : Double) : Nat :=
  ((x.bits >>> 52) &&& 0x7FF).toNat

/-- The fifty-two bits of the fraction. -/
def fractionBits (x : Double) : Nat :=
  (x.bits &&& 0xFFFFFFFFFFFFF).toNat

end Double

end ChartCompiler

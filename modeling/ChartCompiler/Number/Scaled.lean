import ChartCompiler.Number.Reading
import ChartCompiler.Number.Shortest

/-!
Decimals of sixty-four bits, and the floats they are scaled to.
`Decimal.ofDigits` keeps as many digits as sixty-four bits hold, and
`Decimal.toFloat` rounds them to a float and scales it by a rounded power of
ten. Up to fifteen digits and a power of at most twenty-two this is the nearest
float; beyond that each rounding may move the result to a neighbour, so
`1999.9999999999998` becomes `2000.0`. `floatOfDecimal` rounds only once.
-/

namespace ChartCompiler

/-- Appends digits to a number while the result fits sixty-four bits. The
digits from the first one that does not fit are left. -/
def appendDigits (n : Nat) : List Char → Nat × List Char
  | [] => (n, [])
  | c :: rest =>
    let next := 10 * n + (c.toNat - '0'.toNat)
    if next < bound64 then appendDigits next rest else (n, c :: rest)

/-- The decimal of the digits before and after a point and a power of ten. A
digit before the point that does not fit still raises the exponent; one after
it is dropped. -/
def Decimal.ofDigits (whole fraction : List Char) (power : Int) : Decimal :=
  let (n, uncounted) := appendDigits 0 whole
  let (digits, dropped) := appendDigits n fraction
  ⟨digits, power + uncounted.length + dropped.length - fraction.length⟩

/-- A float times a power of ten, infinite when it is too large. The power is
rounded by itself; one below `10 ^ -308` is divided out in several steps. -/
def scaleByTen (x : Float) (exponent : Int) : Float :=
  if x == 0.0 then x
  else if 308 < exponent then 1.0 / 0.0
  else if 0 ≤ exponent then x * floatOfDecimal 1 exponent
  else if -308 ≤ exponent then x / floatOfDecimal 1 (-exponent)
  else scaleByTen (x / floatOfDecimal 1 308) (exponent + 308)
termination_by (-exponent).toNat

/-- The float of a decimal: its digits rounded, then scaled. -/
def Decimal.toFloat (d : Decimal) : Float :=
  scaleByTen (floatOfDecimal d.digits 0) d.exponent

end ChartCompiler

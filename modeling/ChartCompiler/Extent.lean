import ChartCompiler.Json.Basic

/-!
Extents: the closed range between the least and the greatest finite number of a
column.
-/

namespace ChartCompiler

/-- A closed range of numbers. -/
structure Extent where
  low : Double
  high : Double
deriving DecidableEq

namespace Extent

/-- The smaller of two numbers, the first if they are equal. -/
def least (a b : Double) : Double :=
  if b.toFloat < a.toFloat then b else a

/-- The larger of two numbers, the first if they are equal. -/
def greatest (a b : Double) : Double :=
  if a.toFloat < b.toFloat then b else a

/-- The extent that holds both. -/
def union (a b : Extent) : Extent :=
  ⟨least a.low b.low, greatest a.high b.high⟩

/-- The extent of a number. -/
def single (x : Double) : Extent :=
  ⟨x, x⟩

/-- The union of a list of extents, if there is one. -/
def unionAll? : List Extent → Option Extent
  | [] => none
  | e :: rest => some (rest.foldl union e)

/-- The extent of some numbers, if there are any. -/
def ofDoubles (xs : List Double) : Option Extent :=
  unionAll? (xs.map single)

/-- The extent of the finite numbers among some floats. -/
def ofFloats (xs : List Float) : Option Extent :=
  ofDoubles (xs.filterMap Double.ofFloat?)

/-- The union of the extents that are there. -/
def merge (extents : List (Option Extent)) : Option Extent :=
  unionAll? (extents.filterMap id)

/-- The width of the range. -/
def span (e : Extent) : Float :=
  e.high.toFloat - e.low.toFloat

/-- The middle of the range. -/
def center (e : Extent) : Float :=
  (e.low.toFloat + e.high.toFloat) / 2.0

/-- The number lies in the range. -/
def contains (e : Extent) (x : Float) : Bool :=
  e.low.toFloat ≤ x && x ≤ e.high.toFloat

/-- The range as the domain of a scale. -/
def domain (e : Extent) : Json :=
  .array [.number (.double e.low), .number (.double e.high)]

end Extent

end ChartCompiler

import ChartCompiler.Number.Layout

/-!
Floats inside texts, where one that is not finite may also occur.
-/

namespace ChartCompiler

/-- The text of a float inside an expression: the shortest digits without an
exponent, or the word for a value that is not finite. -/
def displayFloat (x : Float) : String :=
  match Double.ofFloat? x with
  | some d => d.display
  | none => if x.isNaN then "NaN" else if x < 0.0 then "-inf" else "inf"

end ChartCompiler

import ChartCompiler.Calendar.Reading
import ChartCompiler.Json.Basic
import ChartCompiler.Number.Truncate

/-!
Data values as calendar dates: numbers are milliseconds since 1970, texts are
read as dates, and what denotes no date is left as it is.
-/

namespace ChartCompiler.Json

/-- The date a value denotes. -/
def asDate? : Json → Option Calendar.Date
  | .number n => (Double.ofFloat? n.toFloat).bind fun x => Calendar.Date.ofMilliseconds? x.truncated
  | .string s => Calendar.readDate? s.toList
  | _ => none

/-- The text of the date a value denotes, or the value itself. -/
def toIsoDate (value : Json) : Json :=
  match value.asDate? with
  | some date => .string date.text
  | none => value

end ChartCompiler.Json

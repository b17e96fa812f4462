import ChartCompiler.Json.Text
import ChartCompiler.Number.Reading
import ChartCompiler.Text.Blank

/-!
Readings of a single data value: as a number, and as a label.
-/

namespace ChartCompiler.Json

/-- The finite number a value denotes. A text counts if it is a number text
with blanks around it. -/
def asDouble? : Json → Option Double
  | .number n => Double.ofFloat? n.toFloat
  | .string s => readDouble? (Text.trimChars s.toList)
  | _ => none

/-- The value as it is shown: a text without quotes, nothing for `null`, the
JSON text of anything else. -/
def label : Json → String
  | .string s => s
  | .null => ""
  | other => other.compact

end ChartCompiler.Json

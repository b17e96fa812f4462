import ChartCompiler.Encoding
import ChartCompiler.Data.Dataset
import ChartCompiler.Viewport

/-!
What a chart builder may read. Builders turn a context into the fragment of a
document that is particular to their kind of chart.
-/

namespace ChartCompiler

/-- Everything a builder may read. -/
structure ChartContext where
  config : ChartConfig
  schema : Schema
  data : Dataset
  selection : Selection
  /-- the entries of tooltips -/
  tooltip : List Json
  /-- channel encodings shared by all builders, laid over their own -/
  shared : Fragment
  palette : Palette
  viewport : Viewport

namespace ChartContext

/-- The field bound to a channel, or the empty text. -/
def field (ctx : ChartContext) (channel : Channel) : String :=
  (ctx.config.field channel).getD ""

/-- The parameters that most charts carry. -/
def params (ctx : ChartContext) : Json :=
  .array (selectionParams ctx.selection)

end ChartContext

/-- The format of a document made of encodings. -/
def encodingDialect : String := "https://vega.github.io/schema/vega-lite/v6.json"

/-- The format of a document made of marks, scales and transforms. -/
def markDialect : String := "https://vega.github.io/schema/vega/v6.json"

end ChartCompiler

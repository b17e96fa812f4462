import ChartCompiler.Chart.Context

/-!
Heatmaps: two axes of labels, and a quantity as colour.
-/

namespace ChartCompiler.Chart

/-- The colour of a cell, which is always a quantity. -/
def cellColor (ctx : ChartContext) (field : String) : Fragment :=
  (Fragment.ofMembers
    [("field", field), ("type", "quantitative"), ("title", fieldTitle ctx.schema field),
     ("scale", .object [("scheme", quantityScheme)])]).merge (formatHint ctx.schema field)

/-- A heatmap. -/
def heatmap (ctx : ChartContext) : Fragment :=
  let color := ctx.field .color
  let positions := Fragment.ofMembers
    [("x", (plainEncoding ctx.schema (ctx.field .x)).toJson),
     ("y", (plainEncoding ctx.schema (ctx.field .y)).toJson)]
  let encoding :=
    if color = "" then positions else positions.set "color" (cellColor ctx color).toJson
  .ofMembers
    [("params", ctx.params), ("mark", "rect"),
     ("encoding", (encoding.set "tooltip" (.array ctx.tooltip)).toJson)]

end ChartCompiler.Chart

import ChartCompiler.Chart.Context
import ChartCompiler.Chart.Expression

/-!
Donut charts: arcs measured by x and coloured by the labels of y, and a label on
every slice of at least a twentieth of the whole.
-/

namespace ChartCompiler.Chart

/-- Labels on the slices that are large enough. -/
def sliceLabels (ctx : ChartContext) (value category : String) : Json :=
  .object
    [("transform", .array
       [.object [("window", .array
          [.object [("op", "sum"), ("field", value), ("as", "total")]])],
        .object [("calculate", Expression.datum value ++ " / datum.total"), ("as", "angle_pct")],
        .object [("filter", "datum.angle_pct > 0.05")]]),
     ("mark", .object
       [("type", "text"), ("radius", 85), ("color", ctx.palette.sliceLabel), ("fontSize", 10)]),
     ("encoding", .object
       [("theta", .object [("field", value), ("type", "quantitative"), ("stack", true)]),
        ("text", .object [("field", category), ("type", "nominal")]),
        ("order", .object [("field", value), ("sort", "descending")])])]

/-- A donut chart. -/
def donut (ctx : ChartContext) : Fragment :=
  let value := ctx.field .x
  let category := ctx.field .y
  let legend : Json := .object
    [("title", if category = "" then "Category" else category), ("orient", "right")]
  let color :=
    (encodeField ctx.schema category (.ofMembers [("legend", legend)]) true none).set
      "type" "nominal"
  let encoding := Fragment.compose
    [.ofMembers
       [("theta", .object [("type", "quantitative"), ("field", value)]),
        ("color", color.toJson)],
     interactionEncodings,
     .ofMembers [("tooltip", .array ctx.tooltip),
       ("order", .object [("field", value), ("sort", "descending")])],
     ctx.shared]
  let arcs : Json := .object
    [("params", ctx.params),
     ("mark", .object
       [("type", "arc"), ("innerRadius", 50), ("outerRadius", 120), ("strokeWidth", 2)]),
     ("encoding", encoding.toJson)]
  .ofMembers [("layer", .array [arcs, sliceLabels ctx value category])]

end ChartCompiler.Chart

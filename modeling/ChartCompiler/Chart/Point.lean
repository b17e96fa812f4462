import ChartCompiler.Chart.Context

/-!
Scatter plots. The positions belong to the whole plot, so that a layer of texts
beside the points shares them.
-/

namespace ChartCompiler.Chart

/-- Texts beside the points. -/
def pointLabels (ctx : ChartContext) (field : String) : Json :=
  .object
    [("mark", .object
       [("type", "text"), ("align", "left"), ("baseline", "middle"), ("dx", 5), ("fontSize", 8)]),
     ("encoding", .object
       [("text", .object [("field", field), ("type", "nominal")]),
        ("color", .object [("value", ctx.palette.pointLabel)])])]

/-- The parameters of a scatter plot, which can also be brushed. -/
def pointParams (ctx : ChartContext) : Json :=
  .array <| selectionParams ctx.selection ++
    [.object [("name", "brush"), ("select", .object [("type", "interval")])]]

/-- A scatter plot; points are filled when a field gives their size. -/
def point (ctx : ChartContext) : Fragment :=
  let sizeField := ctx.config.field .size
  let size := sizeEncoding ctx.schema ctx.config sizeField ctx.viewport.mobile
  let encoding :=
    (ctx.shared.setSome "size" (if size.isEmpty then none else some size.toJson)).set
      "tooltip" (.array ctx.tooltip)
  let points : Json := .object
    [("params", pointParams ctx),
     ("mark", .object
       [("type", "point"), ("filled", sizeField.isSome), ("color", ctx.palette.mark)]),
     ("encoding", encoding.toJson)]
  let labels := (ctx.config.field .note).filter ctx.schema.contains
  let x := encodeField ctx.schema (ctx.field .x) .empty true ctx.config.scaleX
  let y := encodeField ctx.schema (ctx.field .y) .empty true ctx.config.scaleY
  .ofMembers
    [("layer", .array (points :: labels.toList.map (pointLabels ctx))),
     ("encoding", .object [("x", x.toJson), ("y", y.toJson)])]

end ChartCompiler.Chart

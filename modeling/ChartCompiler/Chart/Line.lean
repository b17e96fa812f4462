import ChartCompiler.Chart.Context

/-!
Line and area charts. Each measure is drawn twice: a muted ghost that is always
visible and owns the parameters, and above it the part inside the brushed range
in colour. A second measure gets a pair of its own and a scale of its own.
-/

namespace ChartCompiler.Chart

/-- The two layers of a measure. -/
inductive SeriesLayer where
  | ghost
  | filtered
deriving DecidableEq

/-- The brush, seeded with the x value of the first selected record that has
one. -/
def brushParam (ctx : ChartContext) : Json :=
  let seed := ctx.selection.records.findSome? (Entries.get? · (ctx.field .x))
  .object
    [("name", "brush"),
     ("select", .object [("type", "interval"), ("encodings", .array ["x"])]),
     ("value", .array (seed.toList.map fun v => .object [("x", v)]))]

/-- The selection of a series, seeded with the records that name no x value. -/
def seriesSelectParam (ctx : ChartContext) : Json :=
  let seeds := ctx.selection.records.filter fun record => !Entries.contains record (ctx.field .x)
  .object
    [("name", "select"),
     ("select", .object
       [("type", "point"), ("on", "click"), ("clear", "dragleave,dblclick"),
        ("encodings", .array ["y"])]),
     ("value", .array (seeds.map .object))]

/-- Keeps the rows inside the brushed range. -/
def brushFilter : Json :=
  .array [.object [("filter", .object [("param", "brush")])]]

/-- A position with the format hint of its field on the axis. -/
def axisEncoding (ctx : ChartContext) (field : String) (scale : Option ScaleType) : Fragment :=
  encodeField ctx.schema field (.ofMembers [("axis", (formatHint ctx.schema field).toJson)])
    true scale

/-- A layer of the first measure. -/
def primaryLayer (ctx : ChartContext) (area : Bool) (layer : SeriesLayer) : Fragment :=
  let color := ctx.field .color
  let outline : Json := match layer with
    | .ghost => .object [("color", ctx.palette.ghostOutline)]
    | .filtered => true
  let mark := Fragment.ofMembers [("type", if area then "area" else "line")]
  let mark := if area then mark.set "line" outline else mark
  let mark := mark.set "color" <| match layer with
    | .ghost => ctx.palette.ghost
    | .filtered => ctx.palette.filteredMark
  let positions := Fragment.ofMembers
    [("x", (axisEncoding ctx (ctx.field .x) ctx.config.scaleX).toJson),
     ("y", (axisEncoding ctx (ctx.field .y) ctx.config.scaleY).toJson),
     ("tooltip", .array ctx.tooltip)]
  let encoding :=
    if color = "" then positions
    else match layer with
      | .ghost => positions.set "detail" (.object [("field", color)])
      | .filtered => positions.merge ctx.shared
  let head : String × Json := match layer with
    | .ghost => ("params", .array [highlightParam, seriesSelectParam ctx, brushParam ctx])
    | .filtered => ("transform", brushFilter)
  .ofMembers [head, ("mark", mark.toJson), ("encoding", encoding.toJson)]

/-- The parameter that follows the pointer over the second measure. -/
def secondHighlightParam : Json :=
  .object
    [("name", "highlight2"),
     ("select", .object [("type", "point"), ("on", "mouseover"), ("clear", "mouseout")])]

/-- A layer of the second measure, drawn dashed. -/
def secondaryLayer (ctx : ChartContext) (layer : SeriesLayer) : Fragment :=
  let color := match layer with
    | .ghost => ctx.palette.ghost
    | .filtered => ctx.palette.secondaryMark
  let encoding := (Fragment.ofMembers
    [("x", (encodeField ctx.schema (ctx.field .x) .empty true ctx.config.scaleX).toJson),
     ("y", (encodeField ctx.schema (ctx.field .y2) .empty true none).toJson),
     ("tooltip", .array ctx.tooltip)]).merge ctx.shared
  let head : String × Json := match layer with
    | .ghost => ("params", .array [secondHighlightParam])
    | .filtered => ("transform", brushFilter)
  .ofMembers
    [head,
     ("mark", .object [("type", "line"), ("color", color), ("strokeDash", .array [4, 2])]),
     ("encoding", encoding.toJson)]

/-- A line chart, or an area chart. -/
def series (ctx : ChartContext) (area : Bool) : Fragment :=
  let first :=
    [(primaryLayer ctx area .ghost).toJson, (primaryLayer ctx area .filtered).toJson]
  if ctx.field .y2 = "" then .ofMembers [("layer", .array first)]
  else
    let second := [(secondaryLayer ctx .ghost).toJson, (secondaryLayer ctx .filtered).toJson]
    .ofMembers
      [("layer", .array [.object [("layer", .array first)], .object [("layer", .array second)]]),
       ("resolve", .object [("scale", .object [("y", "independent")])])]

end ChartCompiler.Chart

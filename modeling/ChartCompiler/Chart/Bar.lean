import ChartCompiler.Chart.Context
import ChartCompiler.Config.Defaults

/-!
Bar charts, standing and lying.
-/

namespace ChartCompiler.Chart

/-- A bar in the mark colour. -/
def barMark (ctx : ChartContext) : Json :=
  .object [("type", "bar"), ("color", ctx.palette.mark)]

/-- The axis of a measure, with the format of its column if there is one. -/
def valueAxis (ctx : ChartContext) (field : String) : Fragment :=
  match columnFormat ctx.schema field with
  | some format => .ofMembers [("axis", .object [("format", format)])]
  | none => .empty

/-- Labels longer than thirteen characters are cut on a small screen. -/
def mobileLabel : String :=
  "datum.label.length > 13 ? slice(datum.label, 0, 10) + '...' : datum.label"

/-- The fragment of a bar chart around its encoding. -/
def barFragment (ctx : ChartContext) (encoding : Fragment) : Fragment :=
  .ofMembers [("params", ctx.params), ("mark", barMark ctx), ("encoding", encoding.toJson)]

/-- Standing bars: labels along the bottom, tilted when there are many, in the
order of their totals. -/
def bar (ctx : ChartContext) : Fragment :=
  let x := ctx.field .x
  let y := ctx.field .y
  let labels := if x = "" then 0 else ctx.data.uniqueCount x none
  let angle : Json := if labelCutoff < labels then .int (-45) else 0
  let xEncoding :=
    (encodeField ctx.schema x (.ofMembers [("axis", .object [("labelAngle", angle)])])
      true none).setSome "sort" (sortOrder x y)
  let yEncoding := encodeField ctx.schema y (valueAxis ctx y) true ctx.config.scaleY
  barFragment ctx <| .compose
    [.ofMembers [("x", xEncoding.toJson), ("y", yEncoding.toJson)],
     interactionEncodings,
     .ofMembers [("tooltip", .array ctx.tooltip),
       ("order", .object [("field", y), ("sort", "descending")])],
     ctx.shared]

/-- Lying bars: labels along the left side, in the order of their totals. -/
def barh (ctx : ChartContext) : Fragment :=
  let x := ctx.field .x
  let y := ctx.field .y
  let label : String := if ctx.viewport.mobile then mobileLabel else "datum.label"
  let yEncoding :=
    (encodeField ctx.schema y (.ofMembers [("axis", .object [("labelExpr", label)])])
      true none).setSome "sort" (sortOrder y x)
  let xEncoding := encodeField ctx.schema x (valueAxis ctx x) true ctx.config.scaleX
  barFragment ctx <| .compose
    [.ofMembers [("y", yEncoding.toJson), ("x", xEncoding.toJson)],
     interactionEncodings,
     .ofMembers [("tooltip", .array ctx.tooltip)],
     ctx.shared]

end ChartCompiler.Chart

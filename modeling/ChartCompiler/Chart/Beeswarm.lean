import ChartCompiler.Chart.Context
import ChartCompiler.Chart.Expression
import ChartCompiler.Extent
import ChartCompiler.Geo.Projection
import ChartCompiler.Number.Display

/-!
Swarms: one dot for every row, pulled towards the band of its label by a force
simulation. The document is written in marks; the selection is tested by a
generated expression.
-/

namespace ChartCompiler.Chart

/-! ## Size of the swarm -/

/-- Up to this many points the simulation and the dots have their full size. -/
def fullSwarm : Nat := 200

/-- The factor by which larger swarms shrink: the square root of their excess. -/
def swarmFactor (points : Nat) : Float :=
  if points ≤ fullSwarm then 1.0
  else (Geo.floatOfNat fullSwarm / Geo.floatOfNat points).sqrt

/-- The steps of the simulation. -/
def swarmIterations (points : Nat) : Nat :=
  max (400.0 * swarmFactor points).round.toUInt32.toNat 1

/-! ## Testing the selection -/

/-- The test that a row has a value in a field; an array asks for any of its
items. -/
def fieldTest (field : String) (value : Json) : String :=
  match value with
  | .array _ => "indexof(" ++ value.compact ++ ", " ++ Expression.datum field ++ ") >= 0"
  | _ => Expression.datum field ++ " === " ++ value.compact

/-- The test that a row has all values of a record. -/
def recordTest (record : Row) : String :=
  " && ".intercalate (record.map fun entry => fieldTest entry.1 entry.2)

/-- The test that a row matches the selection: any of its records, or every row
when there is none. -/
def selectionTest (selection : Selection) : String :=
  let records := selection.records.filter fun record => !record.isEmpty
  if records.isEmpty then "true"
  else " || ".intercalate (records.map fun record => "(" ++ recordTest record ++ ")")

/-! ## The document -/

/-- The text of the tooltip: the bound fields other than the facet, each once. -/
def swarmTooltip (ctx : ChartContext) : String :=
  let fields :=
    ((ctx.config.boundFields.filter fun entry => entry.1 ≠ .trellis).map Prod.snd).eraseDups
  let entries := fields.map fun field =>
    Expression.text (fieldTitle ctx.schema field) ++ ": " ++ Expression.datum field
  "\x7b" ++ ", ".intercalate entries ++ "\x7d"

/-- The scales: a band for every label of x, colours, and sizes if a field gives
them. -/
def swarmScales (ctx : ChartContext) (x color : String) : List Json :=
  let factor := swarmFactor ctx.data.rows.length
  [.object
     [("name", "xscale"), ("type", "band"),
      ("domain", .object [("data", "base"), ("field", x), ("sort", true)]),
      ("range", "width")],
   .object
     [("name", "color"), ("type", "ordinal"),
      ("domain", .object [("data", "base"), ("field", color)]),
      ("range", .object [("scheme", labelScheme)])]] ++
  (ctx.config.field .size).toList.map fun field =>
    let domain := match Extent.ofDoubles (ctx.data.numbers field) with
      | some extent => extent.domain
      | none => .array [0.0, 1.0]
    .object
      [("name", "size"), ("type", "linear"), ("zero", false), ("domain", domain),
       ("range", .array [.ofFloat (36.0 * factor), .ofFloat (900.0 * factor)])]

/-- The area of a dot. -/
def dotSize (ctx : ChartContext) : Json :=
  match ctx.config.field .size with
  | some field => .object [("scale", "size"), ("field", field)]
  | none => .object [("value", 256.0)]

/-- The radius by which dots keep apart. -/
def dotRadius (ctx : ChartContext) : Json :=
  match ctx.config.field .size with
  | some field => .object [("expr", "sqrt(" ++ Expression.datum field ++ ") / 2")]
  | none => 8.0

/-- The dots. -/
def swarmNodes (ctx : ChartContext) (x color : String) : Json :=
  let middle := Json.ofFloat (Geo.floatOfNat ctx.viewport.height / 2.0)
  .object
    [("name", "nodes"), ("type", "symbol"), ("from", .object [("data", "base")]),
     ("encode", .object
       [("enter", .object
          [("fill", .object [("scale", "color"), ("field", color)]),
           ("xfocus", .object [("scale", "xscale"), ("field", x), ("band", 0.5)]),
           ("yfocus", .object [("value", middle)]),
           ("tooltip", .object [("signal", swarmTooltip ctx)])]),
        ("update", .object
          [("size", dotSize ctx),
           ("fillOpacity", .array
             [.object [("test", selectionTest ctx.selection), ("value", 1)],
              .object [("value", 0.3)]]),
           ("stroke", .object [("value", "white")]),
           ("strokeWidth", .array
             [.object [("test", "datum === highlight"), ("value", 2)],
              .object [("value", 1)]]),
           ("zindex", .object [("value", 0)])]),
        ("hover", .object
          [("stroke", .object [("value", ctx.palette.hoverStroke)]),
           ("strokeWidth", .object [("value", 1)]),
           ("zindex", .object [("value", 1)])])]),
     ("transform", .array
       [.object
          [("type", "force"), ("iterations", .int (swarmIterations ctx.data.rows.length)),
           ("static", true),
           ("forces", .array
             [.object [("force", "collide"), ("iterations", 1), ("radius", dotRadius ctx)],
              .object [("force", "x"), ("x", "xfocus"), ("strength", 0.2)],
              .object [("force", "y"), ("y", "yfocus"), ("strength", 0.1)]])]])]

/-- The signals: the hovered row, and the selection. -/
def swarmSignals (ctx : ChartContext) : Json :=
  .array
    [.object
       [("name", "highlight"), ("value", .object []),
        ("on", .array
          [.object [("events", "@nodes:mouseover"), ("update", "datum")],
           .object [("events", "@nodes:mouseout"), ("update", "\x7b\x7d")]])],
     .object [("name", "select"), ("value", ctx.selection.toJson)]]

/-- A swarm. Without a colour field the labels of x give the colour. -/
def beeswarm (ctx : ChartContext) : Fragment :=
  let x := ctx.field .x
  let color := (ctx.config.field .color).getD x
  .ofMembers
    [("$schema", markDialect),
     ("description", "Force-directed swarm grouping each record by category."),
     ("width", .int ctx.viewport.width),
     ("height", .int ctx.viewport.height),
     ("padding", 5),
     ("data", .array [.object [("name", "base"), ("values", ctx.data.toJson)]]),
     ("signals", swarmSignals ctx),
     ("scales", .array (swarmScales ctx x color)),
     ("axes", .array [.object [("orient", "bottom"), ("scale", "xscale")]]),
     ("marks", .array [swarmNodes ctx x color])]

end ChartCompiler.Chart

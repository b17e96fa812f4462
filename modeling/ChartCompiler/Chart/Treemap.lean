import ChartCompiler.Chart.Context
import ChartCompiler.Error

/-!
Treemaps: one rectangle for every label of x, as large as the sum of the size
field or else of y, or as the number of rows. Labels are hidden on rectangles
that are too small for them.
-/

namespace ChartCompiler.Chart

/-- The corners of a rectangle. -/
def corners : List (String × Json) :=
  [("x", .object [("field", "x0"), ("type", "quantitative"), ("axis", .null)]),
   ("x2", .object [("field", "x1")]),
   ("y", .object [("field", "y0"), ("type", "quantitative"), ("axis", .null)]),
   ("y2", .object [("field", "y1")])]

/-- The rectangle holds less than a twentieth of the whole. -/
def smallSlice : String := "datum.value < datum.sum_value / 20"

/-- The rectangle is also too narrow for a number. -/
def narrowSlice : String := smallSlice ++ " || (datum.x1 - datum.x0) < 40"

/-- White, or nothing where a test holds. -/
def whiteUnless (test : String) : Json :=
  .object
    [("condition", .object [("test", test), ("value", "transparent")]), ("value", "white")]

/-- The steps from rows to rectangles. -/
def treemapTransform (category : String) (size : Option String) : Json :=
  let aggregate : Json := match size with
    | some field => .object [("op", "sum"), ("field", field), ("as", "value")]
    | none => .object [("op", "count"), ("as", "value")]
  .array
    [.object [("aggregate", .array [aggregate]), ("groupby", .array [category])],
     .object [("joinaggregate", .array
       [.object [("op", "sum"), ("field", "value"), ("as", "sum_value")]])],
     .object
       [("type", "treemap"), ("field", "value"),
        ("size", .array [.object [("signal", "width")], .object [("signal", "height")]]),
        ("padding", 2),
        ("as", .array ["x0", "y0", "x1", "y1", "depth", "children"])]]

/-- The rectangles. -/
def treemapRects (ctx : ChartContext) : Json :=
  let encoding := (Fragment.ofMembers <| corners ++
    [("tooltip", .array ctx.tooltip),
     ("fillOpacity", .object
       [("condition", .object [("param", "select"), ("value", 1)]), ("value", 0.7)]),
     ("strokeWidth", .object
       [("condition", .array
          [.object [("param", "select"), ("empty", false), ("value", 2)],
           .object [("param", "highlight"), ("empty", false), ("value", 1)]]),
        ("value", 0.5)])]).merge ctx.shared
  .object
    [("params", ctx.params),
     ("mark", .object
       [("type", "rect"), ("stroke", "white"), ("strokeWidth", 1), ("cursor", "pointer")]),
     ("encoding", encoding.toJson)]

/-- The labels. -/
def treemapNames (category : String) : Json :=
  .object
    [("mark", .object
       [("type", "text"), ("baseline", "middle"), ("align", "center"), ("fontSize", 11),
        ("fontWeight", "bold"), ("lineBreak", true), ("strokeWidth", 0)]),
     ("encoding", .object <| corners ++
       [("text", .object [("field", category), ("type", "nominal")]),
        ("color", whiteUnless smallSlice)])]

/-- The numbers below the labels. -/
def treemapValues (ctx : ChartContext) (field : String) : Json :=
  let format := (columnFormat ctx.schema field).getD ",d"
  .object
    [("mark", .object
       [("type", "text"), ("baseline", "middle"), ("align", "center"), ("fontSize", 10),
        ("strokeWidth", 0)]),
     ("encoding", .object <| corners ++
       [("text", .object [("field", "value"), ("type", "quantitative"), ("format", format)]),
        ("color", whiteUnless narrowSlice)])]

/-- A treemap, which needs a field of labels. -/
def treemap (ctx : ChartContext) : Except ChartError Fragment :=
  match ctx.config.field .x with
  | none => .error (.missingField "treemap" "xField")
  | some category =>
    let size := (ctx.config.field .size).or (ctx.config.field .y)
    let layers := [treemapRects ctx, treemapNames category] ++
      size.toList.map (treemapValues ctx)
    .ok <| .ofMembers
      [("transform", treemapTransform category size), ("layer", .array layers)]

end ChartCompiler.Chart

import ChartCompiler.Chart.Context

/-!
Box plots, whose whiskers reach to the extremes, one box for every group.
-/

namespace ChartCompiler.Chart

/-- A box plot. -/
def boxplot (ctx : ChartContext) : Fragment :=
  let y := encodeField ctx.schema (ctx.field .y) .empty true ctx.config.scaleY
  let encoding := (Fragment.ofMembers
    [("x", (plainEncoding ctx.schema (ctx.field .group)).toJson),
     ("y", y.toJson),
     ("tooltip", .array ctx.tooltip)]).merge ctx.shared
  .ofMembers
    [("params", ctx.params),
     ("mark", .object [("type", "boxplot"), ("extent", "min-max")]),
     ("encoding", encoding.toJson)]

end ChartCompiler.Chart

import ChartCompiler.Chart.Bar
import ChartCompiler.Chart.Beeswarm
import ChartCompiler.Chart.Boxplot
import ChartCompiler.Chart.Donut
import ChartCompiler.Chart.Headline
import ChartCompiler.Chart.Heatmap
import ChartCompiler.Chart.Line
import ChartCompiler.Chart.Map
import ChartCompiler.Chart.Point
import ChartCompiler.Chart.Treemap

/-!
One builder for every kind of chart.
-/

namespace ChartCompiler.Chart

/-- The fragment that is particular to a kind of chart. -/
def build (kind : ChartKind) (ctx : ChartContext) : Except ChartError Fragment :=
  match kind with
  | .bar => .ok (bar ctx)
  | .barh => .ok (barh ctx)
  | .line => .ok (series ctx false)
  | .area => .ok (series ctx true)
  | .point => .ok (point ctx)
  | .heatmap => .ok (heatmap ctx)
  | .donut => .ok (donut ctx)
  | .boxplot => .ok (boxplot ctx)
  | .treemap => treemap ctx
  | .beeswarm => .ok (beeswarm ctx)
  | .headline => .ok (headline ctx)
  | .usaMap => map ctx

end ChartCompiler.Chart

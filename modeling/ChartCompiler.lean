import ChartCompiler.Calendar.Date
import ChartCompiler.Calendar.Reading
import ChartCompiler.Calendar.Value
import ChartCompiler.Chart.Bar
import ChartCompiler.Chart.Beeswarm
import ChartCompiler.Chart.Boxplot
import ChartCompiler.Chart.Build
import ChartCompiler.Chart.Context
import ChartCompiler.Chart.Donut
import ChartCompiler.Chart.Expression
import ChartCompiler.Chart.Headline
import ChartCompiler.Chart.Heatmap
import ChartCompiler.Chart.Line
import ChartCompiler.Chart.Map
import ChartCompiler.Chart.Point
import ChartCompiler.Chart.Treemap
import ChartCompiler.CommandLine.Answer
import ChartCompiler.CommandLine.Arguments
import ChartCompiler.Compile
import ChartCompiler.Config.Basic
import ChartCompiler.Config.Controller
import ChartCompiler.Config.Defaults
import ChartCompiler.Config.Json
import ChartCompiler.Config.Kind
import ChartCompiler.Config.Resolve
import ChartCompiler.Data.Csv
import ChartCompiler.Data.Dataset
import ChartCompiler.Data.Value
import ChartCompiler.Encoding
import ChartCompiler.Entries
import ChartCompiler.Error
import ChartCompiler.Extent
import ChartCompiler.Fragment
import ChartCompiler.Geo.Projection
import ChartCompiler.Geo.Region
import ChartCompiler.Interaction
import ChartCompiler.Json.Basic
import ChartCompiler.Json.Decode
import ChartCompiler.Json.Reader
import ChartCompiler.Json.Record
import ChartCompiler.Json.Text
import ChartCompiler.Main
import ChartCompiler.Number.Display
import ChartCompiler.Number.Double
import ChartCompiler.Number.Layout
import ChartCompiler.Number.Reading
import ChartCompiler.Number.Scaled
import ChartCompiler.Number.Shortest
import ChartCompiler.Number.Truncate
import ChartCompiler.Number.Word
import ChartCompiler.Render.Basic
import ChartCompiler.Render.Renderer
import ChartCompiler.Render.Schedule
import ChartCompiler.Schema.Basic
import ChartCompiler.Schema.Column
import ChartCompiler.Schema.ColumnType
import ChartCompiler.Schema.Json
import ChartCompiler.Selection
import ChartCompiler.Shorthand.Call
import ChartCompiler.Shorthand.Config
import ChartCompiler.Shorthand.Token
import ChartCompiler.Text.Ascii
import ChartCompiler.Text.Blank
import ChartCompiler.Text.Case
import ChartCompiler.Text.Printable
import ChartCompiler.Text.Quoted
import ChartCompiler.Theme
import ChartCompiler.Viewport
import ChartCompiler.Proofs.Render.Current
import ChartCompiler.Proofs.Render.Swap
import ChartCompiler.Proofs.Render.RequestOrder
import ChartCompiler.Proofs.Render.Ledger
import ChartCompiler.Proofs.Render.ViewLife
import ChartCompiler.Proofs.Render.Visible
import ChartCompiler.Proofs.Render.Failure
import ChartCompiler.Proofs.Render.Status
import ChartCompiler.Proofs.Config.Setting
import ChartCompiler.Proofs.Shorthand.Grammar
import ChartCompiler.Proofs.Shorthand.Argument
import ChartCompiler.Proofs.Shorthand.Call
import ChartCompiler.Proofs.Config.Spelling
import ChartCompiler.Proofs.Config.Overlay
import ChartCompiler.Proofs.Config.Completion
import ChartCompiler.Proofs.Compile.Stability
import ChartCompiler.Proofs.Compile.Failure
import ChartCompiler.Proofs.Config.StaleSelection
import ChartCompiler.Proofs.Entries
import ChartCompiler.Proofs.Fragment
import ChartCompiler.Proofs.Data.Quoted
import ChartCompiler.Proofs.Data.Bytes
import ChartCompiler.Proofs.Data.Table
import ChartCompiler.Proofs.Compile.Drawing
import ChartCompiler.Proofs.Compile.Facet
import ChartCompiler.Proofs.Compile.Palette
import ChartCompiler.Proofs.Compile.References
import ChartCompiler.Proofs.Compile.Names
import ChartCompiler.Proofs.Interaction.Timing
import ChartCompiler.Proofs.Schema.RoundTrip
import ChartCompiler.Proofs.Config.Fallback
import ChartCompiler.Proofs.Text.Runs
import ChartCompiler.Proofs.Number.Text
import ChartCompiler.Proofs.Number.Shortest
import ChartCompiler.Proofs.Number.Parts
import ChartCompiler.Proofs.Json.Compact
import ChartCompiler.Proofs.Interaction.Payload
import ChartCompiler.Proofs.Calendar.DayNumber
import ChartCompiler.Proofs.Calendar.DateText
import ChartCompiler.Proofs.Calendar.Reading
import ChartCompiler.Proofs.Calendar.IsoDate
import ChartCompiler.Proofs.Expression.Accessor
import ChartCompiler.Proofs.Expression.Condition
import ChartCompiler.Proofs.Expression.Token
import ChartCompiler.Proofs.Expression.SelectionTest
import ChartCompiler.Proofs.Config.DefaultColor
import ChartCompiler.Proofs.Compile.RegionJoin
import ChartCompiler.Proofs.Compile.Channels
import ChartCompiler.Proofs.Interaction.BrushKey
import ChartCompiler.Proofs.Compile.Legend

import ChartCompiler.Chart.Build
import ChartCompiler.Config.Resolve

/-!
Compiling a request into a chart document. Documents made of encodings are the
base document with the chart laid over it, the chart moved into a facet when a
trellis field is bound, and the title last; documents made of marks are the
chart itself with the title on top.
-/

namespace ChartCompiler

/-- Everything needed to compile one chart. -/
structure ChartRequest where
  schema : Schema
  data : Dataset
  /-- may be partial -/
  config : ChartConfig := {}
  selection : Selection := .empty
  theme : Theme := .light
  viewport : Viewport := {}
  title : Option String := none

/-- The document below every chart made of encodings. -/
def baseDocument (data : Dataset) : Fragment :=
  .ofMembers
    [("$schema", encodingDialect),
     ("data", .object [("values", data.toJson)]),
     ("width", "container"),
     ("height", "container"),
     ("config", .object [("scale", .object [("bandPaddingInner", 0.2)])])]

/-- Kinds that can be split into small multiples. -/
def ChartKind.supportsTrellis : ChartKind → Bool
  | beeswarm | headline | usaMap | treemap => false
  | _ => true

/-- The base document with the chart repeated for every value of a field. -/
def trellis (schema : Schema) (field : String) (base chart : Fragment) : Fragment :=
  let facet : Json := .object
    [("field", field), ("type", measureType schema field), ("title", fieldTitle schema field)]
  let cell := (Fragment.ofMembers [("width", "container"), ("height", 200)]).merge chart
  (((base.erase "width").erase "height").set "facet" facet).set "spec" cell.toJson

/-- The shared encodings of a chart: the colour channel, if it is bound. A
heatmap builds its own. -/
def sharedEncoding (schema : Schema) (config : ChartConfig) (kind : ChartKind)
    (mobile : Bool) : Fragment :=
  let field := if kind = .heatmap then none else config.field .color
  let color := colorEncoding schema config field mobile
  if color.isEmpty then .empty else .ofMembers [("color", color.toJson)]

namespace ChartRequest

/-- The context in which a resolved configuration is drawn. -/
def context (request : ChartRequest) (config : ChartConfig) (kind : ChartKind) : ChartContext where
  config := config
  schema := request.schema
  data := request.data
  selection := request.selection.retainBound config
  tooltip := tooltipEntries request.schema config
  shared := sharedEncoding request.schema config kind request.viewport.mobile
  palette := request.theme.palette
  viewport := request.viewport

/-- The title, if the configuration shows it. -/
def shownTitle (request : ChartRequest) (config : ChartConfig) : Fragment :=
  match request.title.filter fun _ => config.showsTitle with
  | some title => .ofMembers [("title", title)]
  | none => .empty

/-- The document around a chart. -/
def document (request : ChartRequest) (config : ChartConfig) (kind : ChartKind)
    (chart : Fragment) : Fragment :=
  if kind.isLowLevel then chart
  else
    let base := baseDocument request.data
    match (config.field .trellis).filter fun _ => kind.supportsTrellis with
    | some field => trellis request.schema field base chart
    | none => base.merge chart

/-- Compiles the request. -/
def compile (request : ChartRequest) : Except ChartError Json := do
  let config ← resolveConfig request.config request.data request.schema
  match config.kind with
  | none => .error .noDefaultChart
  | some kind =>
    let chart ← Chart.build kind (request.context config kind)
    let body := request.document config kind chart
    return (Fragment.compose [body, request.shownTitle config]).toJson

end ChartRequest

end ChartCompiler

import ChartCompiler.Chart.Context
import ChartCompiler.Data.Value
import ChartCompiler.Error
import ChartCompiler.Geo.Projection
import ChartCompiler.Geo.Region
import ChartCompiler.Number.Display

/-!
Maps. With a longitude and a latitude the rows are drawn as points over an
outline; with a field of regions the outline is coloured region by region, the
rows being joined to it by the region's numeric code.
-/

namespace ChartCompiler.Chart

/-- The outlines a map is drawn on. -/
inductive Outline where
  | states
  | countries
deriving DecidableEq

namespace Outline

/-- Where the outline comes from. -/
def source : Outline → Json
  | states => .object
    [("url", "https://cdn.jsdelivr.net/npm/vega-datasets@2.2.0/data/us-10m.json"),
     ("format", .object [("type", "topojson"), ("feature", "states")])]
  | countries => .object
    [("url", "https://cdn.jsdelivr.net/npm/vega-datasets@2/data/world-110m.json"),
     ("format", .object [("type", "topojson"), ("feature", "countries")])]

/-- The code of the region that a label names. -/
def code? (outline : Outline) (label : String) : Option Nat :=
  match outline with
  | states => (Geo.findState? label).map Geo.State.code
  | countries => Geo.findCountry? label

end Outline

/-- The parameters of a map. -/
def mapParams (ctx : ChartContext) : Json :=
  .array
    [.object
       [("name", "highlight"),
        ("select", .object [("type", "point"), ("on", "pointerover"), ("clear", "mouseout")])],
     .object [("name", "select"), ("select", "point"), ("value", ctx.selection.toJson)]]

/-- The entry of a field in a map's tooltip. -/
def mapTooltip (ctx : ChartContext) (field type : String) : Json :=
  ((Fragment.ofMembers
    [("field", field), ("type", type), ("title", fieldTitle ctx.schema field)]).setSome
      "format" ((columnFormat ctx.schema field).map .string)).toJson

/-- The land below the points. -/
def landLayer (ctx : ChartContext) (outline : Outline) : Json :=
  .object
    [("data", outline.source),
     ("mark", .object
       [("type", "geoshape"), ("fill", ctx.palette.mapLand), ("stroke", ctx.palette.mapBorder)])]

/-! ## Points -/

/-- The colour of points: by label, or by quantity. -/
def mapPointColor (ctx : ChartContext) (field : String) : Json :=
  let categorical := ctx.schema.fieldIs field .categorical
  let base := Fragment.ofMembers
    [("field", field),
     ("type", if categorical then "nominal" else "quantitative"),
     ("title", Text.words field),
     ("scale", .object [("scheme", if categorical then "category20" else "viridis")])]
  (if ctx.viewport.mobile && !categorical then base.set "legend" (legendPlacement true)
    else base).toJson

/-- The points of a map. -/
def mapPoints (ctx : ChartContext) (longitude latitude : String) : Json :=
  let size := ctx.config.field .size
  let tooltip := (longitude :: latitude :: size.toList).map fun field =>
    mapTooltip ctx field "quantitative"
  let positions := Fragment.ofMembers
    [("longitude", .object [("field", longitude), ("type", "quantitative")]),
     ("latitude", .object [("field", latitude), ("type", "quantitative")])]
  let dot (field : String) : Json := .object
    [("field", field), ("type", "quantitative"), ("title", Text.words field),
     ("scale", .object [("type", "quantize"), ("nice", true)])]
  let sized := positions.setSome "size" (size.map dot)
  let color := match (ctx.config.field .color).filter ctx.schema.contains with
    | some field => mapPointColor ctx field
    | none => .object [("value", ctx.palette.mapPoint)]
  .object
    [("mark", .object [("type", "circle"), ("tooltip", true)]),
     ("params", mapParams ctx),
     ("encoding", ((sized.set "color" color).set "tooltip" (.array tooltip)).toJson)]

/-- The places of the rows that have both coordinates. -/
def placesOf (ctx : ChartContext) (longitude latitude : String) : List Geo.Point :=
  ctx.data.rows.filterMap fun row => do
    let x ← (← Entries.get? row longitude).asDouble?
    let y ← (← Entries.get? row latitude).asDouble?
    return (x.toFloat, y.toFloat)

/-- The projection that frames a set of points on the world. -/
def fittedProjection (points : List Geo.Point) : Json :=
  match Geo.mercatorFit points with
  | some fit => .object
    [("type", "mercator"),
     ("scale", .object [("expr", "min(width, height) * " ++ displayFloat fit.scale)]),
     ("center", .array [.ofFloat fit.center.1, .ofFloat fit.center.2])]
  | none => .object [("type", "mercator")]

/-- A map of points, over the US when they cover it and over the world
otherwise. -/
def scatterMap (ctx : ChartContext) (longitude latitude : String) : Fragment :=
  let points := placesOf ctx longitude latitude
  let layers (outline : Outline) : Json :=
    .array [landLayer ctx outline, mapPoints ctx longitude latitude]
  if Geo.isNationwideUs points then
    .ofMembers [("projection", .object [("type", "albersUsa")]), ("layer", layers .states)]
  else
    .ofMembers [("projection", fittedProjection points), ("layer", layers .countries)]

/-! ## Regions -/

/-- A row with the code of its region in front; a label that names no region has
no code and drops out of the join. -/
def keyedRow (outline : Outline) (geo : String) (row : Row) : Json :=
  let label := ((Entries.get? row geo).map Json.label).getD ""
  let code : Json := match outline.code? label with
    | some n => .int n
    | none => .null
  .object (("id", code) :: row.filter fun entry => entry.1 ≠ "id")

/-- The colour of regions, with a legend beside the map. -/
def regionColor (ctx : ChartContext) (field : String) : Json :=
  let legend := ((Fragment.ofMembers [("title", Text.words field)]).setSome
    "format" ((columnFormat ctx.schema field).map .string)).merge
      (.ofMembers [("orient", "right"), ("anchor", "middle")])
  .object
    [("field", field), ("type", "quantitative"),
     ("scale", .object [("type", "quantize"), ("nice", true), ("zero", true)]),
     ("legend", legend.toJson)]

/-- The encoding of the regions. -/
def regionEncoding (ctx : ChartContext) (geo : String) : Fragment :=
  let color := ctx.config.field .color
  let tooltip := mapTooltip ctx geo "nominal" ::
    color.toList.map fun field => mapTooltip ctx field "quantitative"
  (Fragment.empty.setSome "color" (color.map (regionColor ctx))).merge <| .ofMembers
    [("opacity", .object
       [("condition", .object [("param", "select"), ("value", 1)]), ("value", 0.3)]),
     ("stroke", .object
       [("condition", .object [("param", "highlight"), ("empty", false), ("value", "black")]),
        ("value", ctx.palette.mapBorder)]),
     ("strokeWidth", .object
       [("condition", .object [("param", "highlight"), ("empty", false), ("value", 2)]),
        ("value", 0.5)]),
     ("tooltip", .array tooltip)]

/-- The land below the regions; the world is drawn without Antarctica. -/
def regionLand (ctx : ChartContext) (outline : Outline) : Json :=
  match outline with
  | .states => landLayer ctx .states
  | .countries => .object
    [("data", outline.source),
     ("transform", .array [.object [("filter", "datum.id !== 10")]]),
     ("mark", .object
       [("type", "geoshape"), ("fill", ctx.palette.mapLand), ("stroke", ctx.palette.mapBorder),
        ("strokeWidth", 0.5)])]

/-- A map of regions. -/
def choropleth (ctx : ChartContext) (outline : Outline) (geo : String) : Fragment :=
  let joined := [Channel.color, .size, .geo].filterMap ctx.config.field
  let projection : String := match outline with
    | .states => "albersUsa"
    | .countries => "mercator"
  let regions : Json := .object
    [("data", outline.source),
     ("transform", .array
       [.object
          [("lookup", "id"),
           ("from", .object
             [("data", .object
                [("values", .array (ctx.data.rows.map (keyedRow outline geo)))]),
              ("key", "id"),
              ("fields", Json.strings joined)])]]),
     ("params", mapParams ctx),
     ("mark", .object [("type", "geoshape")]),
     ("encoding", (regionEncoding ctx geo).toJson)]
  .ofMembers
    [("projection", .object [("type", projection)]),
     ("layer", .array [regionLand ctx outline, regions]),
     ("config", .object [("view", .object [("stroke", .null)])])]

/-- The outline on which the regions of a field are drawn. -/
def outlineOf? (ctx : ChartContext) (geo : String) : Option Outline :=
  match (ctx.schema.get? geo).bind Column.region? with
  | some .usState | some .usStateShort => some .states
  | some .country => some .countries
  | none => none

/-- A map of points when both coordinates are bound, else a map of regions. -/
def map (ctx : ChartContext) : Except ChartError Fragment :=
  match ctx.config.field .x, ctx.config.field .y with
  | some longitude, some latitude => .ok (scatterMap ctx longitude latitude)
  | _, _ =>
    match ctx.config.field .geo with
    | none => .error .unsupportedMap
    | some geo =>
      match outlineOf? ctx geo with
      | some outline => .ok (choropleth ctx outline geo)
      | none => .error .unsupportedMap

end ChartCompiler.Chart

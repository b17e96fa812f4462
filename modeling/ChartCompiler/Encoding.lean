import ChartCompiler.Config.Basic
import ChartCompiler.Fragment
import ChartCompiler.Schema.Basic
import ChartCompiler.Selection
import ChartCompiler.Text.Case
import ChartCompiler.Theme

/-!
Encodings: how a field is drawn on a channel. An encoding holds the field, the
type by which it is measured, a title in words, hints about its format, and
what the chart adds to them.
-/

namespace ChartCompiler

/-! ## Titles -/

namespace Text

/-- The pieces of a text between underscores. -/
def splitUnderscores : List Char → List (List Char)
  | [] => [[]]
  | c :: rest =>
    match splitUnderscores rest with
    | [] => [[c]]
    | piece :: pieces => if c = '_' then [] :: piece :: pieces else (c :: piece) :: pieces

/-- A word with a capital in front. -/
def capitalized : List Char → List Char
  | [] => []
  | c :: rest => capital c ++ rest

/-- The words of a name whose parts are joined by underscores: each starts with
a capital, and one blank stands between two. -/
def words (name : String) : String :=
  let parts := (splitUnderscores name.toList).filter fun piece => !piece.isEmpty
  String.ofList (List.intercalate [' '] (parts.map capitalized))

end Text

/-- The title of a field: the words of its description, else of its name. -/
def fieldTitle (schema : Schema) (field : String) : String :=
  let description := (schema.get? field).bind (·.description)
  Text.words ((description.filter (· ≠ "")).getD field)

/-! ## Types and formats -/

/-- How a field is measured. Time on the calendar is temporal, a calendar part
or a time of day is ordinal, and a field without a column is nominal. -/
def measureType (schema : Schema) (field : String) : String :=
  match schema.get? field with
  | none => "nominal"
  | some column =>
    if column.isTemporal then (if column.type.isCalendar then "temporal" else "ordinal")
    else if column.isNumeric then "quantitative"
    else "nominal"

/-- Members that the base type of a field adds to its encoding. -/
def formatHint (schema : Schema) (field : String) : Fragment :=
  match (schema.get? field).map Column.type with
  | some .money => .ofMembers [("format", "$,.2f")]
  | some .percent => .ofMembers [("format", ".1%")]
  | some .date => .ofMembers [("timeUnit", "yearmonthdate")]
  | some .time => .ofMembers [("timeUnit", "hoursminutesseconds")]
  | some .datetime => .ofMembers [("timeUnit", "yearmonthdatehours")]
  | _ => .empty

/-- The format of a field's labels: the one of its column, else the usual one
for money and percentages. -/
def columnFormat (schema : Schema) (field : String) : Option String := do
  let column ← schema.get? field
  match column.format.filter (· ≠ "") with
  | some format => some format
  | none =>
    match column.type with
    | .money => some "$,.2f"
    | .percent => some ".1%"
    | _ => none

/-! ## Channels -/

/-- The encoding of a field, with what the chart adds. Without a field there is
no encoding. -/
def encodeField (schema : Schema) (field : String) (added : Fragment) (titled : Bool)
    (scale : Option ScaleType) : Fragment :=
  if field = "" then .empty
  else
    let base := Fragment.ofMembers [("field", field), ("type", measureType schema field)]
    let base := if titled then base.set "title" (fieldTitle schema field) else base
    let encoding := (base.merge (formatHint schema field)).merge added
    match scale with
    | some s => encoding.set "scale" (.object [("type", s.name)])
    | none => encoding

/-- The encoding of a field with a title and nothing added. -/
def plainEncoding (schema : Schema) (field : String) : Fragment :=
  encodeField schema field .empty true none

/-- Where a legend is put. -/
def legendPlacement (mobile : Bool) : Json :=
  if mobile then .object [("orient", "bottom"), ("direction", "horizontal")]
  else .object [("orient", "right"), ("direction", "vertical")]

/-- The legend of a channel: hidden, or put where there is room. -/
def legendOf (config : ChartConfig) (mobile : Bool) : Json :=
  if config.hidesLegend then .null else legendPlacement mobile

/-- The colour scheme of quantities. -/
def quantityScheme : String := "viridis"

/-- The colour scheme of labels. -/
def labelScheme : String := "category20c"

/-- The colour channel of a field, if the schema has a column for it. -/
def colorEncoding (schema : Schema) (config : ChartConfig) (field : Option String)
    (mobile : Bool) : Fragment :=
  match field.filter schema.contains with
  | none => .empty
  | some field =>
    let type := measureType schema field
    let scheme := if type = "quantitative" then quantityScheme else labelScheme
    let base := Fragment.ofMembers
      [("field", field), ("type", type), ("title", fieldTitle schema field),
       ("scale", .object [("scheme", scheme)]),
       ("condition", .array
         [.object [("param", "highlight"), ("empty", false), ("value", highlightColor)]])]
    (base.merge (formatHint schema field)).set "legend" (legendOf config mobile)

/-- The size channel of a field, if the schema has a column for it. -/
def sizeEncoding (schema : Schema) (config : ChartConfig) (field : Option String)
    (mobile : Bool) : Fragment :=
  match field.filter schema.contains with
  | none => .empty
  | some field =>
    let base := Fragment.ofMembers
      [("field", field), ("type", "quantitative"), ("title", fieldTitle schema field)]
    (base.merge (formatHint schema field)).set "legend" (legendOf config mobile)

/-- The order of an axis by the sum of another field, largest first. -/
def sortOrder (field measure : String) : Option Json :=
  if field = "" ∨ measure = "" then none
  else some (.object [("field", measure), ("op", "sum"), ("order", "descending")])

/-- Opacity and stroke by which marks show that they are selected or hovered. -/
def interactionEncodings : Fragment :=
  .ofMembers
    [("fillOpacity", .object
       [("condition", .object [("param", "select"), ("value", 1)]), ("value", 0.3)]),
     ("strokeWidth", .object
       [("condition", .array
          [.object [("param", "select"), ("empty", false), ("value", 2)],
           .object [("param", "highlight"), ("empty", false), ("value", 1)]]),
        ("value", 0)])]

/-- The bound fields a tooltip shows: columns of the schema other than the facet,
each once, in channel order. -/
def tooltipFields (schema : Schema) (config : ChartConfig) : List String :=
  ((config.boundFields.filter fun (channel, field) =>
    channel ≠ .trellis && schema.contains field).map Prod.snd).eraseDups

/-- The entries of a tooltip. -/
def tooltipEntries (schema : Schema) (config : ChartConfig) : List Json :=
  (tooltipFields schema config).map fun field => (plainEncoding schema field).toJson

/-! ## Parameters -/

/-- The parameter that follows the pointer. -/
def highlightParam : Json :=
  .object
    [("name", "highlight"),
     ("select", .object [("type", "point"), ("on", "mouseover"), ("clear", "mouseout")])]

/-- The parameter that holds the selected points. -/
def selectParam (selection : Selection) : Json :=
  .object
    [("name", "select"),
     ("select", .object [("type", "point"), ("on", "click,touchend")]),
     ("value", selection.toJson),
     ("nearest", true)]

/-- The parameters that most charts carry. -/
def selectionParams (selection : Selection) : List Json :=
  [highlightParam, selectParam selection]

end ChartCompiler

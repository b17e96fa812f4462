import ChartCompiler.Chart.Context
import ChartCompiler.Chart.Expression
import ChartCompiler.Data.Value
import ChartCompiler.Geo.Projection
import ChartCompiler.Number.Display

/-!
Headlines: a card for every column with its value in the first row and its name
below, spread over the width of the container or, on a small screen, over its
height. Fonts are as large as the longest text allows.
-/

namespace ChartCompiler.Chart

/-! ## Layout -/

/-- The least and the greatest size of a font in pixels. -/
structure FontBounds where
  least : Float
  greatest : Float

def valueFont (mobile : Bool) : FontBounds :=
  if mobile then ⟨8.0, 24.0⟩ else ⟨8.0, 30.0⟩

def labelFont (mobile : Bool) : FontBounds :=
  if mobile then ⟨8.0, 12.0⟩ else ⟨8.0, 14.0⟩

/-- The share of the container at which a card is centred. -/
def cardOffset (index total : Nat) : Float :=
  if total ≤ 1 then 0.5
  else (Geo.floatOfNat index / Geo.floatOfNat (total - 1)) * 0.7 + 0.15

/-- The largest whole font size at which a text of the given length fits into a
card, a glyph being six tenths of the size wide. -/
def cardFontSize (dimension : Float) (cards longest : Nat) (bounds : FontBounds) : Float :=
  let extent := dimension / Geo.floatOfNat (max cards 1)
  let length := Geo.floatOfNat (max longest 1)
  (Geo.clamp bounds.least bounds.greatest (extent / (length * 0.6))).floor

/-- An expression moved by a number of pixels. -/
def shifted (base : String) (delta : Float) : String :=
  if delta < 0.0 then base ++ " - " ++ displayFloat (-delta)
  else if 0.0 < delta then base ++ " + " ++ displayFloat delta
  else base

/-- Where a card stands, as expressions for its x and y. -/
def cardPlace (index total : Nat) (mobile : Bool) (shift : Float) : String × String :=
  let offset := displayFloat ((cardOffset index total * 10000.0).round / 10000.0)
  if mobile then ("width / 2", shifted ("height * " ++ offset) shift)
  else ("width * " ++ offset, shifted "height / 2" shift)

/-! ## Cards -/

/-- The column holds pictures. -/
def isImage (column : Column) : Bool :=
  column.hasTrait "image"

/-- The name below a value. -/
def cardLabel (column : Column) : String :=
  Text.words column.name

/-- The value of a card, in the format of its column if there is one. -/
def cardValue (ctx : ChartContext) (column : Column) : Json :=
  match columnFormat ctx.schema column.name with
  | some format =>
    .object [("signal", "format(" ++ Expression.datum column.name ++ ", " ++
      Expression.text format ++ ")")]
  | none => .object [("field", column.name)]

/-- The length of the longest text on any card. -/
def longestText (columns : List Column) (first : Option Row) : Nat :=
  let lengths := columns.map fun column =>
    let value := (first.bind (Entries.get? · column.name)).map fun v => v.label.length
    max (value.getD 0) (cardLabel column).length
  match lengths with
  | [] => 1
  | n :: rest => rest.foldl max n

/-- The picture of a card. -/
def imageMark (column : Column) (total : Nat) (place : String × String) : Json :=
  .object
    [("type", "image"), ("from", .object [("data", "base")]),
     ("encode", .object [("update", .object
       [("url", .object [("field", column.name)]),
        ("x", .object [("signal", place.1)]),
        ("y", .object [("signal", place.2)]),
        ("width", .object [("signal", "width / " ++ toString total)]),
        ("height", .object [("signal", "height / " ++ toString total)]),
        ("align", .object [("value", "center")]),
        ("baseline", .object [("value", "middle")])])])]

/-- The value of a card. -/
def valueMark (ctx : ChartContext) (column : Column) (font : Float)
    (place : String × String) : Json :=
  .object
    [("type", "text"), ("from", .object [("data", "base")]),
     ("encode", .object [("update", .object
       [("text", cardValue ctx column),
        ("x", .object [("signal", place.1)]),
        ("y", .object [("signal", place.2)]),
        ("fontSize", .object [("value", .ofFloat font)]),
        ("fontWeight", .object [("value", "bold")]),
        ("align", .object [("value", "center")]),
        ("baseline", .object [("value", "middle")]),
        ("fill", .object [("value", ctx.palette.headlineValue)])])])]

/-- The name of a card. -/
def labelMark (ctx : ChartContext) (column : Column) (font : Float)
    (place : String × String) : Json :=
  .object
    [("type", "text"),
     ("encode", .object [("update", .object
       [("text", .object [("value", cardLabel column)]),
        ("x", .object [("signal", place.1)]),
        ("y", .object [("signal", place.2)]),
        ("fontSize", .object [("value", .ofFloat font)]),
        ("fontWeight", .object [("value", "normal")]),
        ("align", .object [("value", "center")]),
        ("baseline", .object [("value", "top")]),
        ("fill", .object [("value", ctx.palette.headlineLabel)])])])]

/-- The marks of a card: its value or picture when there is a row, and its name
unless it is a picture. -/
def cardMarks (ctx : ChartContext) (valueFont labelFont : Float) (total : Nat)
    (column : Column) (index : Nat) : List Json :=
  let mobile := ctx.viewport.mobile
  let above := cardPlace index total mobile (-20.0)
  let below := cardPlace index total mobile (if mobile then 0.0 else 10.0)
  let value :=
    if ctx.data.rows.isEmpty then []
    else if isImage column then [imageMark column total above]
    else [valueMark ctx column valueFont above]
  let label := if isImage column then [] else [labelMark ctx column labelFont below]
  value ++ label

/-- A headline. -/
def headline (ctx : ChartContext) : Fragment :=
  let mobile := ctx.viewport.mobile
  let columns := ctx.schema.columns
  let first := ctx.data.rows.head?
  let total := columns.length
  let dimension := Geo.floatOfNat (if mobile then ctx.viewport.height else ctx.viewport.width)
  let longest := longestText columns first
  let value := cardFontSize dimension total longest (valueFont mobile)
  let label := cardFontSize dimension total longest (labelFont mobile)
  let marks := columns.zipIdx.flatMap fun (column, index) =>
    cardMarks ctx value label total column index
  .ofMembers
    [("$schema", markDialect),
     ("description", "Headline metric display"),
     ("width", .int ctx.viewport.width),
     ("height", .int ctx.viewport.height),
     ("autosize", .object [("type", "fit"), ("contains", "padding")]),
     ("data", .array
       [.object [("name", "base"), ("values", .array (first.toList.map .object))]]),
     ("marks", .array marks)]

end ChartCompiler.Chart

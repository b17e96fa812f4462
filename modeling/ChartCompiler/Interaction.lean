import ChartCompiler.Calendar.Value
import ChartCompiler.Config.Basic
import ChartCompiler.Data.Value
import ChartCompiler.Schema.Basic

/-!
Interaction: what clicks and brushes on a chart mean. A coordinator follows one
chart; it remembers when the last click and the last cleared brush happened, so
that the side effects of a click (a brush that clears itself, a click that
bubbles to the background) are not reported a second time. Times are counted in
milliseconds.
-/

namespace ChartCompiler

/-! ## Values in filters -/

/-- The value as a filter on the column carries it: a date for calendar columns,
a whole number for years, and the value itself otherwise. -/
def Column.filterValue (column : Column) (value : Json) : Json :=
  if column.type.isCalendar then value.toIsoDate
  else if column.hasTrait "year" then
    match value.asDouble? with
    | some x => .int x.truncated
    | none => value
  else value

/-- A click on a chart of the kind filters by the column. -/
def Column.isClickable (column : Column) (kind : Option ChartKind) : Bool :=
  column.isCategorical || column.isGeographic || column.isLatitude || column.isLongitude ||
    (column.isTemporal && kind ≠ some .area)

/-! ## Listeners -/

/-- What a view is listened to for. -/
inductive Listener where
  | event (name : String)
  | signal (name : String)
deriving DecidableEq, Repr

/-- The listeners of a chart: a series listens to its brush and to clicks, a
small screen to touches, everything else to clicks. -/
def listenerPlan (config : ChartConfig) (mobile : Bool) : List Listener :=
  if config.kind.any ChartKind.isTimeSeries then [.signal "brush", .event "click"]
  else if mobile then [.event "touchend"]
  else [.event "click"]

/-! ## Reports -/

/-- A click or a brush in terms of the data. -/
structure DimensionClick where
  /-- filter values by the filter key of their column -/
  filters : List (String × Json)
  /-- the values themselves by field -/
  chart : List (String × Json)
  /-- the click adds to the filters instead of replacing them -/
  append : Bool
deriving DecidableEq

namespace DimensionClick

/-- A click that filters by nothing. -/
def empty (append : Bool) : DimensionClick :=
  ⟨[], [], append⟩

/-- Adds a column with its filter value and its value. -/
def insert (click : DimensionClick) (column : Column) (filter value : Json) : DimensionClick :=
  { click with
    filters := Entries.insert click.filters column.filterKey filter
    chart := Entries.insert click.chart column.name value }

/-- The click filters by nothing. -/
def isEmpty (click : DimensionClick) : Bool :=
  click.filters.isEmpty

end DimensionClick

/-- What a coordinator reports to its owner. -/
inductive InteractionCall where
  | dimension (click : DimensionClick)
  | point (datum : Row)
  | background
deriving DecidableEq

/-! ## The coordinator -/

/-- A cleared brush this soon after a click belongs to the click. -/
def brushClearWindow : Nat := 750

/-- A background click this soon after a click on a card has bubbled up. -/
def bubbleWindow : Nat := 50

/-- The coordinator of one chart. -/
structure Coordinator where
  config : ChartConfig
  schema : Schema
  lastClick : Option Nat := none
  lastBrushClear : Option Nat := none

namespace Coordinator

/-- The last click lies less than `window` before `now`. -/
def clickedWithin (c : Coordinator) (now window : Nat) : Bool :=
  c.lastClick.any fun t => now - t < window

/-- The value of a field that is there and not `null`. -/
def present? (datum : Row) (field : String) : Option Json :=
  (Entries.get? datum field).filter fun v => !v.isNull

/-- Takes one bound channel into the payload of a click. -/
def payloadStep (c : Coordinator) (datum : Row) (click : DimensionClick)
    (binding : Channel × String) : DimensionClick :=
  let (channel, field) := binding
  if channel = .trellis || Entries.contains click.chart field then click
  else
    match c.schema.get? field, present? datum field with
    | some column, some value =>
      if column.isClickable c.config.kind then
        click.insert column (column.filterValue value) value
      else click
    | _, _ => click

/-- The payload of a click on a row. A bound field of regions stands alone and
keeps its value; otherwise every bound field that is eligible takes part. -/
def payload (c : Coordinator) (datum : Row) (append : Bool) : DimensionClick :=
  match c.config.field .geo with
  | some geo =>
    match c.schema.get? geo, present? datum geo with
    | some column, some value => (DimensionClick.empty append).insert column value value
    | _, _ => .empty append
  | none => c.config.boundFields.foldl (c.payloadStep datum) (.empty append)

/-- A click, on a row or beside all rows. -/
def click (c : Coordinator) (now : Nat) (shift : Bool) (datum : Option Row) :
    Coordinator × List InteractionCall :=
  let bubbled := c.config.kind = some .headline && c.clickedWithin now bubbleWindow
  let c := { c with lastClick := some now }
  match datum with
  | none => (c, if bubbled then [] else [.background])
  | some datum =>
    let payload := c.payload datum shift
    (c, (if payload.isEmpty then [] else [.dimension payload]) ++ [.point datum])

/-- The member of a brushed range that holds the values of a column. -/
def brushKey (column : Column) : String :=
  if column.type.isCalendar then "yearmonthdate_" ++ column.name else column.name

/-- The values brushed over a column, if there are any. -/
def brushed? (column : Column) (range : Json) : Option (List Json) :=
  ((range.member? (brushKey column)).bind Json.asArray?).filter fun values => !values.isEmpty

/-- The filter of a brushed range on a column whose values can be ordered. -/
def rangeFilter? (column : Column) (first last : Json) : Option Json :=
  if column.type.isCalendar then some (.array [first.toIsoDate, last.toIsoDate])
  else if column.type.isNumeric then some (.array [first, last])
  else none

/-- The report of a brushed range. -/
def rangeCalls (column : Column) (values : List Json) : List InteractionCall :=
  match values.head?, values.getLast? with
  | some first, some last =>
    match rangeFilter? column first last with
    | some filter =>
      [.dimension ((DimensionClick.empty false).insert column filter (.array [first, last]))]
    | none => []
  | _, _ => []

/-- A change of the brushed range. -/
def brush (c : Coordinator) (now : Nat) (range : Json) : Coordinator × List InteractionCall :=
  if c.config.kind.any ChartKind.isTimeSeries then
    match (c.config.field .x).bind c.schema.get? with
    | none => (c, [])
    | some column =>
      match brushed? column range with
      | some values => (c, rangeCalls column values)
      | none =>
        ({ c with lastBrushClear := some now },
          if c.clickedWithin now brushClearWindow then [] else [.background])
  else (c, [.background])

/-- Follows a change of the configuration; the times are kept. -/
def setConfig (c : Coordinator) (config : ChartConfig) : Coordinator :=
  { c with config := config }

end Coordinator

end ChartCompiler

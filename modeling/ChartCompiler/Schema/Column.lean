import ChartCompiler.Schema.ColumnType

/-!
Columns and their meaning. What a column is good for is never stored: it is
derived from the base type and from traits, dotted names such as
`location.us_state` whose last segment counts.

- numeric: a quantity that is neither a latitude nor a longitude
- temporal: a point in time, or a column that carries a calendar part
- categorical: a label, or a column that carries a calendar part
- geographic: a column that names states or countries
-/

namespace ChartCompiler

/-- One column of a schema. -/
structure Column where
  name : String
  type : ColumnType
  traits : List String := []
  format : Option String := none
  description : Option String := none
  /-- the concept address under which filters on the column are emitted -/
  address : Option String := none
deriving DecidableEq

/-- A family of regions that a column may name. -/
inductive RegionKind where
  | usState
  | usStateShort
  | country
deriving DecidableEq, Repr

namespace Column

/-- The key of filters on the column: its address, else its name. -/
def filterKey (column : Column) : String :=
  column.address.getD column.name

/-- The segment after the last point of a dotted name. -/
def lastSegment (t : String) : String :=
  String.ofList (t.toList.reverse.takeWhile (· ≠ '.')).reverse

/-- Some trait has the given last segment. -/
def hasTrait (column : Column) (t : String) : Bool :=
  column.traits.any (lastSegment · = t)

/-- Some trait ends in the given text. -/
def hasTraitEnding (column : Column) (ending : String) : Bool :=
  column.traits.any fun t => ending.toList.isSuffixOf t.toList

/-- Traits that name a part of the calendar. -/
def calendarParts : List String :=
  ["year", "month", "day", "hour", "minute", "second"]

/-- The column carries a calendar part, such as the year of an order. -/
def hasCalendarPart (column : Column) : Bool :=
  calendarParts.any column.hasTrait

def isLatitude (column : Column) : Bool :=
  column.hasTraitEnding "latitude"

def isLongitude (column : Column) : Bool :=
  column.hasTraitEnding "longitude"

def isNumeric (column : Column) : Bool :=
  column.type.isNumeric && !column.isLatitude && !column.isLongitude

def isTemporal (column : Column) : Bool :=
  column.type.isTemporal || column.hasCalendarPart

def isCategorical (column : Column) : Bool :=
  column.type.isCategorical || column.hasCalendarPart

/-- The family of regions the column names. State abbreviations are looked for
first, because their trait contains that of state names. -/
def region? (column : Column) : Option RegionKind :=
  if column.hasTraitEnding "us_state_short" then some .usStateShort
  else if column.hasTraitEnding "us_state" then some .usState
  else if column.hasTraitEnding "country" then some .country
  else none

def isGeographic (column : Column) : Bool :=
  column.region?.isSome

end Column

/-- A class of columns that a chart may ask for. -/
inductive Bucket where
  | all
  | numeric
  | categorical
  | temporal
  | geographic
  | latitude
  | longitude
deriving DecidableEq, Repr

/-- The column belongs to the bucket. -/
def Bucket.holds : Bucket → Column → Bool
  | all, _ => true
  | numeric, c => c.isNumeric
  | categorical, c => c.isCategorical
  | temporal, c => c.isTemporal
  | geographic, c => c.isGeographic
  | latitude, c => c.isLatitude
  | longitude, c => c.isLongitude

end ChartCompiler

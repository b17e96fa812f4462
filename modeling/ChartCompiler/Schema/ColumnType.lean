import ChartCompiler.Text.Ascii

/-!
Base types of columns, their names, and the families they fall into.
-/

namespace ChartCompiler

/-- The base type of a column. -/
inductive ColumnType where
  | number | integer | float | money | percent
  | date | datetime | time | timestamp
  | string | boolean | url | email | phone
  | json | array | struct
deriving DecidableEq, Repr

namespace ColumnType

/-- Every base type. -/
def all : List ColumnType :=
  [number, integer, float, money, percent, date, datetime, time, timestamp,
   string, boolean, url, email, phone, json, array, struct]

/-- The name a schema gives the type. -/
def name : ColumnType → String
  | number => "NUMBER"
  | integer => "INTEGER"
  | float => "FLOAT"
  | money => "MONEY"
  | percent => "PERCENT"
  | date => "DATE"
  | datetime => "DATETIME"
  | time => "TIME"
  | timestamp => "TIMESTAMP"
  | string => "STRING"
  | boolean => "BOOLEAN"
  | url => "URL"
  | email => "EMAIL"
  | phone => "PHONE"
  | json => "JSON"
  | array => "ARRAY"
  | struct => "STRUCT"

/-- The type with a name, in any ASCII case. -/
def ofName? (s : String) : Option ColumnType :=
  all.find? (·.name = Text.upper s)

/-- Types whose values are quantities. -/
def isNumeric : ColumnType → Bool
  | number | integer | float | money | percent => true
  | _ => false

/-- Types whose values are points in time. -/
def isTemporal : ColumnType → Bool
  | date | datetime | time | timestamp => true
  | _ => false

/-- Types whose values lie on the calendar; a time of day does not. -/
def isCalendar : ColumnType → Bool
  | date | datetime | timestamp => true
  | _ => false

/-- Types whose values are labels. -/
def isCategorical : ColumnType → Bool
  | string | boolean | url | email | phone => true
  | _ => false

end ColumnType

end ChartCompiler

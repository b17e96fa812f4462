import ChartCompiler.Data.Csv
import ChartCompiler.Data.Value
import ChartCompiler.Error
import ChartCompiler.Schema.Basic

/-!
Datasets: the rows a chart is drawn from, read from a JSON array of objects or
from a table with a header line.
-/

namespace ChartCompiler

/-- Rows in order. -/
structure Dataset where
  rows : List Row
deriving DecidableEq

namespace Dataset

/-- The dataset without rows. -/
def empty : Dataset :=
  ⟨[]⟩

instance : Inhabited Dataset := ⟨empty⟩

/-! ## Reading -/

/-- The rows among the items of an array, counted from `index`. -/
def rowsOfItems (index : Nat) : List Json → Except ChartError (List Row)
  | [] => .ok []
  | .object members :: rest => (rowsOfItems (index + 1) rest).map (members :: ·)
  | _ :: _ => .error (.rowNotObject index)

/-- Reads a JSON array of objects. -/
def ofJson : Json → Except ChartError Dataset
  | .array items => (rowsOfItems 0 items).map Dataset.mk
  | _ => .error .dataNotArray

/-- The value of a cell. An empty cell is `null`; numbers and truth values are
recognised in columns of such a type, everything else is text. -/
def typedCell (cell : String) (type : Option ColumnType) : Json :=
  if cell = "" then .null
  else match type with
    | some .boolean =>
      let word := Text.lower cell
      if word = "true" ∨ word = "1" ∨ word = "yes" then .bool true
      else if word = "false" ∨ word = "0" ∨ word = "no" then .bool false
      else .string cell
    | some t =>
      if t.isNumeric then
        match readInteger? cell.toList with
        | some n => .int n
        | none =>
          match readDouble? cell.toList with
          | some x => .number (.double x)
          | none => .string cell
      else .string cell
    | none => .string cell

/-- The row of a record under a header. A repeated header keeps its first place
and its last cell. -/
def rowOf (schema : Schema) (header cells : List String) : Row :=
  Entries.ofPairs <| (header.zip cells).map fun (name, cell) =>
    (name, typedCell cell ((schema.get? name).map Column.type))

/-- The rows of the records under a header, counted from `number`. Every record
has as many cells as the header. -/
def rowsOfRecords (schema : Schema) (header : List String) (number : Nat) :
    List (Option (List String)) → Except ChartError (List Row)
  | [] => .ok []
  | none :: _ => .error (.csvRecord number)
  | some cells :: rest =>
    if cells.length ≠ header.length then .error (.csvRecord number)
    else
      (rowsOfRecords schema header (number + 1) rest).map
        (rowOf schema header (cells.map Text.trim) :: ·)

/-- The dataset of records, the first of which is the header. -/
def ofRecords (schema : Schema) : List (Option (List String)) → Except ChartError Dataset
  | [] => .ok empty
  | none :: _ => .error .csvHeaders
  | some header :: records =>
    (rowsOfRecords schema (header.map Text.trim) 1 records).map Dataset.mk

/-- Reads a table with a header line from a text. -/
def ofCsv (schema : Schema) (text : String) : Except ChartError Dataset :=
  ofRecords schema ((Csv.ofChars text.toList).map some)

/-- Reads a table with a header line from bytes. -/
def ofCsvBytes (schema : Schema) (bytes : List UInt8) : Except ChartError Dataset :=
  ofRecords schema (Csv.ofBytes bytes)

/-! ## Looking at values -/

/-- The rows as a JSON array. -/
def toJson (data : Dataset) : Json :=
  .array (data.rows.map .object)

/-- The values of a field, in row order; rows without the field are skipped. -/
def values (data : Dataset) (field : String) : List Json :=
  data.rows.filterMap (Entries.get? · field)

/-- The number of distinct values of a field among the first `sample` rows, or
among all rows. -/
def uniqueCount (data : Dataset) (field : String) (sample : Option Nat) : Nat :=
  let sampled : Dataset := ⟨data.rows.take (sample.getD data.rows.length)⟩
  ((sampled.values field).map Json.compact).eraseDups.length

/-- The values of a field that denote finite numbers. -/
def numbers (data : Dataset) (field : String) : List Double :=
  (data.values field).filterMap Json.asDouble?

end Dataset

end ChartCompiler

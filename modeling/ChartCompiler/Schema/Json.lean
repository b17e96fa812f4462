import ChartCompiler.Error
import ChartCompiler.Schema.Basic

/-!
Schemas as JSON. A schema is written as an object keyed by column name, and
read from such an object or from an array of columns. In an object a column
without a name of its own takes its key; in an array every column needs a name.
-/

namespace ChartCompiler

namespace Column

/-- The members of a column in declaration order. -/
def memberNames : List String :=
  ["name", "type", "traits", "format", "description", "address"]

/-- A column whose type may still be missing. -/
structure Draft where
  name : String := ""
  type : Option ColumnType := none
  traits : List String := []
  format : Option String := none
  description : Option String := none
  address : Option String := none

namespace Draft

/-- A base type by its name. -/
def decodeType (value : Json) : Decoded ColumnType := do
  let s ← Decode.string value
  match ColumnType.ofName? s with
  | some t => .ok t
  | none => .error (.unknownColumnType s)

/-- Takes in one member. -/
def step (draft : Draft) (key : String) (value : Json) : Decoded Draft :=
  match key with
  | "name" => return { draft with name := ← Decode.string value }
  | "type" => return { draft with type := some (← decodeType value) }
  | "traits" => return { draft with traits := ← Decode.list Decode.string value }
  | "format" => return { draft with format := ← Decode.optional Decode.string value }
  | "description" => return { draft with description := ← Decode.optional Decode.string value }
  | "address" => return { draft with address := ← Decode.optional Decode.string value }
  | _ => .ok draft

/-- The column, once it has a type. -/
def column? (draft : Draft) : Option Column :=
  draft.type.map fun t =>
    { name := draft.name, type := t, traits := draft.traits, format := draft.format,
      description := draft.description, address := draft.address }

end Draft

/-- Reads a column. Only its type has to be there. -/
def ofJson (value : Json) : Decoded Column := do
  let draft ← Decode.record "struct Column" memberNames Draft.step {} value
  match draft.column?, value with
  | some column, _ => .ok column
  | none, .array _ => .error (.wrongLength 1 "struct Column with 6 elements")
  | none, _ => .error (.missingField "type")

/-- The member of an optional text, if it is there. -/
def optionalMember (key : String) (value : Option String) : List (String × Json) :=
  value.toList.map fun s => (key, .string s)

/-- A column as JSON; optional members are written when they are set. -/
def toJson (column : Column) : Json :=
  .object <|
    [("name", .string column.name), ("type", .string column.type.name),
     ("traits", Json.strings column.traits)] ++
    optionalMember "format" column.format ++
    optionalMember "description" column.description ++
    optionalMember "address" column.address

end Column

namespace Schema

/-- Reads the column under a key of a schema object. -/
def entryOfJson (key : String) (value : Json) : Except ChartError Column :=
  match Column.ofJson value with
  | .error cause => .error (.schemaEntry key cause)
  | .ok column => .ok (if column.name = "" then { column with name := key } else column)

/-- Reads a schema from an object keyed by column name or an array of columns. -/
def ofJson : Json → Except ChartError Schema
  | .object members => do
    let columns ← members.mapM fun (key, value) => entryOfJson key value
    return ofColumns columns
  | .array items =>
    match items.mapM Column.ofJson with
    | .error cause => .error (.schemaItem cause)
    | .ok columns =>
      match columns.findIdx? (·.name = "") with
      | some index => .error (.unnamedSchemaItem index)
      | none => .ok (ofColumns columns)
  | _ => .error (.invalidData "schema must be a JSON object or array")

/-- A schema as an object keyed by column name. -/
def toJson (schema : Schema) : Json :=
  .object (schema.columns.map fun c => (c.name, c.toJson))

end Schema

end ChartCompiler

import ChartCompiler.Config.Kind
import ChartCompiler.Json.Decode

/-!
What can go wrong on the way from a request to a chart document, and the
wording of each failure.
-/

namespace ChartCompiler

/-- A failure of the compiler or of the readers in front of it. -/
inductive ChartError where
  /-- a map has neither coordinates nor a field with a known region trait -/
  | unsupportedMap
  /-- a chart kind lacks a channel it draws from -/
  | missingField (chart channel : String)
  /-- no kind of chart fits the schema -/
  | noDefaultChart
  | invalidData (reason : String)
  | unknownColumnType (name : String)
  /-- a column of a schema object is malformed -/
  | schemaEntry (key : String) (cause : DecodeError)
  /-- a column of a schema array is malformed -/
  | schemaItem (cause : DecodeError)
  | unnamedSchemaItem (index : Nat)
  | dataNotArray
  | rowNotObject (index : Nat)
  | csvHeaders
  /-- a record of another length than the header, or of bytes that are no text -/
  | csvRecord (number : Nat)
  /-- the shorthand grammar rejects the text -/
  | shorthand
  | notColumnName (key : String)
  | notTruthValue (key shown : String)
  | notScaleName (key : String)
  | unknownScale (error : UnknownName)
  | unknownConfigKey (key : String)
deriving DecidableEq

/-- The text of a failure. -/
def ChartError.message : ChartError → String
  | unsupportedMap =>
    "Unsupported map configuration: must provide either xField and yField for scatter plot or geoField"
  | missingField chart channel => chart ++ " chart requires a bound " ++ channel ++ " field"
  | noDefaultChart =>
    "No chart kind fits the schema: at least one numeric or geographic column is required"
  | invalidData reason => "Invalid input data: " ++ reason
  | unknownColumnType name => "Unknown column type '" ++ name ++ "'"
  | schemaEntry key cause => "Invalid schema entry '" ++ key ++ "': " ++ cause.message
  | schemaItem cause => "Invalid schema entry: " ++ cause.message
  | unnamedSchemaItem index => "Schema entry " ++ toString index ++ " has no name"
  | dataNotArray => "Input data must be a JSON array of objects"
  | rowNotObject index => "Item " ++ toString index ++ " in data array is not an object"
  | csvHeaders => "Failed to read CSV headers"
  | csvRecord number => "Failed to read CSV record " ++ toString number
  | shorthand => "Invalid chart config"
  | notColumnName key => "'" ++ key ++ "' expects a column name"
  | notTruthValue key shown => "'" ++ key ++ "' expects true or false, got " ++ shown
  | notScaleName key => "'" ++ key ++ "' expects a scale name"
  | unknownScale error => error.message
  | unknownConfigKey key => "Unknown config key '" ++ key ++ "'"

end ChartCompiler

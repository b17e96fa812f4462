import ChartCompiler.CommandLine.Arguments
import ChartCompiler.Compile
import ChartCompiler.Config.Json
import ChartCompiler.Schema.Json
import ChartCompiler.Shorthand.Config

/-!
What the command answers: the kinds of chart that fit a schema, or a chart
document. The texts of the files are handed in; a text that could not be read is
missing.
-/

namespace ChartCompiler.CommandLine

/-- Why the command fails. -/
inductive CommandError where
  | schemaUnreadable (path : String)
  | schemaNotJson
  | dataUnreadable (path : String)
  | inputUnreadable
  | csv
  | dataNotJson
  | configNotJson
  | selection
  | compile (cause : ChartError)
  /-- a failure with a wording of its own -/
  | chart (error : ChartError)
deriving DecidableEq

/-- The text of a failure. -/
def CommandError.message : CommandError → String
  | schemaUnreadable path => "Failed to read schema file " ++ path
  | schemaNotJson => "Schema file is not valid JSON"
  | dataUnreadable path => "Failed to read data file " ++ path
  | inputUnreadable => "Failed to read data from stdin"
  | csv => "Failed to parse CSV data"
  | dataNotJson => "Data is not valid JSON"
  | configNotJson => "Failed to parse JSON chart config"
  | selection => "Selection must be a JSON array of objects"
  | compile _ => "Failed to compile chart"
  | chart error => error.message

/-- The value that is there, or a failure. -/
def orFail {α : Type} (error : CommandError) : Option α → Except CommandError α
  | some a => .ok a
  | none => .error error

/-- The schema in the text of a file. -/
def readSchema (path : String) (text : Option String) : Except CommandError Schema := do
  let text ← orFail (.schemaUnreadable path) text
  let value ← orFail .schemaNotJson (Json.read? text)
  (Schema.ofJson value).mapError .chart

/-- The data in a text, which comes from a file or from standard input. -/
def readData (path : Option String) (format : DataFormat) (schema : Schema)
    (text : Option String) : Except CommandError Dataset := do
  let unreadable : CommandError :=
    match path with
    | some path => .dataUnreadable path
    | none => .inputUnreadable
  let text ← orFail unreadable text
  match format with
  | .csv => (Dataset.ofCsv schema text).mapError fun _ => .csv
  | .json =>
    let value ← orFail .dataNotJson (Json.read? text)
    (Dataset.ofJson value).mapError .chart

/-- A configuration: JSON when its first character that is not white space is an
opening brace, shorthand otherwise. -/
def readConfig (text : String) : Except CommandError ChartConfig :=
  if (text.toList.dropWhile Text.isBlank).head? = some '\x7b' then
    orFail .configNotJson (ChartConfig.read? text)
  else (Shorthand.parse text).mapError .chart

/-- A selection. -/
def readSelection (text : String) : Except CommandError Selection := do
  let value ← orFail .selection (Json.read? text)
  (Selection.ofJson value).mapError fun _ => .selection

namespace Arguments

/-- A value as it is printed. -/
def print (arguments : Arguments) (value : Json) : String :=
  (if arguments.pretty then value.pretty else value.compact) ++ "\n"

/-- The chart that the arguments ask for. -/
def request (arguments : Arguments) (schema : Schema) (data : Option String) :
    Except CommandError ChartRequest := do
  let data ← readData arguments.data arguments.format schema data
  let config ← arguments.config.mapM readConfig
  let selection ← arguments.selection.mapM readSelection
  return {
    schema, data
    config := config.getD {}
    selection := selection.getD .empty
    theme := arguments.theme
    viewport := arguments.viewport
    title := arguments.title }

/-- The text that the command prints, from the texts of the schema and of the
data. -/
def answer (arguments : Arguments) (schema data : Option String) :
    Except CommandError String := do
  let schema ← readSchema arguments.schema schema
  if arguments.eligible then
    return arguments.print (Json.strings ((eligibleKinds schema).map ChartKind.name))
  let request ← arguments.request schema data
  let document ← request.compile.mapError .compile
  return arguments.print document

end Arguments

end ChartCompiler.CommandLine

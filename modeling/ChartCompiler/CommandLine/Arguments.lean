import ChartCompiler.Config.Kind
import ChartCompiler.Number.Reading
import ChartCompiler.Viewport

/-!
The arguments of the command. An option is written with two dashes; one that
takes a value has it attached by `=` or as the next argument, which then does
not start with a dash. Every option stands at most once and the schema has to be
given. Anything else is refused as a whole.
-/

namespace ChartCompiler.CommandLine

/-! ## Options -/

/-- Options without a value. -/
inductive Switch where
  | mobile
  | eligible
  | pretty
deriving DecidableEq, Repr

/-- Options with a value. -/
inductive Setting where
  | schema
  | data
  | format
  | config
  | theme
  | width
  | height
  | title
  | selection
deriving DecidableEq, Repr

/-- The options without a value, by name. -/
def switches : List (String × Switch) :=
  [("mobile", .mobile), ("eligible", .eligible), ("pretty", .pretty)]

/-- The options with a value, by name. -/
def settings : List (String × Setting) :=
  [("schema", .schema), ("data", .data), ("format", .format), ("config", .config),
   ("theme", .theme), ("width", .width), ("height", .height), ("title", .title),
   ("selection", .selection)]

/-- The options that were given, in order. -/
structure GivenOptions where
  switches : List Switch := []
  settings : List (Setting × String) := []

namespace GivenOptions

/-- No option was given twice. -/
def areDistinct (given : GivenOptions) : Bool :=
  decide (given.switches.Nodup ∧ (given.settings.map Prod.fst).Nodup)

/-- The option was given. -/
def has (given : GivenOptions) (switch : Switch) : Bool :=
  given.switches.contains switch

/-- The value of an option. -/
def value? (given : GivenOptions) (setting : Setting) : Option String :=
  (given.settings.find? fun entry => entry.1 = setting).map Prod.snd

end GivenOptions

/-- The name and the attached value of an argument that starts with two
dashes. -/
def splitOption? (argument : String) : Option (String × Option String) :=
  match argument.toList with
  | '-' :: '-' :: text =>
    let name := String.ofList (text.takeWhile (· ≠ '='))
    match text.dropWhile (· ≠ '=') with
    | _ :: value => some (name, some (String.ofList value))
    | [] => some (name, none)
  | _ => none

/-- An argument that cannot be the value of the option before it: it starts with
a dash and has more than that. -/
def startsOption (argument : String) : Bool :=
  argument.startsWith "-" && argument ≠ "-"

/-- The options in a list of arguments. Two dashes alone may end it. -/
def readOptions? : List String → Option GivenOptions
  | [] => some {}
  | ["--"] => some {}
  | argument :: rest => do
    let (name, attached) ← splitOption? argument
    match switches.lookup name, settings.lookup name with
    | some switch, _ =>
      if attached.isSome then none
      else
        let given ← readOptions? rest
        some { given with switches := switch :: given.switches }
    | none, some setting =>
      match attached, rest with
      | some value, rest =>
        let given ← readOptions? rest
        some { given with settings := (setting, value) :: given.settings }
      | none, value :: rest =>
        if startsOption value then none
        else
          let given ← readOptions? rest
          some { given with settings := (setting, value) :: given.settings }
      | none, [] => none
    | none, none => none

/-! ## Values -/

/-- How the data is written. -/
inductive DataFormat where
  | json
  | csv
deriving DecidableEq, Repr

/-- The format of a name. -/
def DataFormat.ofName? : String → Option DataFormat
  | "json" => some json
  | "csv" => some csv
  | _ => none

/-- The name of a file, which is not empty. -/
def path? (value : String) : Option String :=
  if value.isEmpty then none else some value

/-- A size in pixels: an unsigned integer of thirty-two bits. -/
def size? (value : String) : Option Nat := do
  let n ← readInteger? value.toList
  if 0 ≤ n ∧ n < bound32 then some n.toNat else none

/-- What the command is asked to do. -/
structure Arguments where
  /-- the file with the schema -/
  schema : String
  /-- the file with the data; without one it is standard input -/
  data : Option String := none
  format : DataFormat := .json
  /-- the configuration as JSON or as shorthand -/
  config : Option String := none
  theme : Theme := .light
  viewport : Viewport := {}
  title : Option String := none
  /-- the selection as JSON -/
  selection : Option String := none
  /-- list the kinds of chart that fit the schema instead of drawing one -/
  eligible : Bool := false
  /-- write the answer on several lines -/
  pretty : Bool := false
deriving DecidableEq, Repr

namespace Arguments

/-- The arguments that the given options make up. -/
def ofGiven? (given : GivenOptions) : Option Arguments := do
  if !given.areDistinct then none
  let schema ← path? (← given.value? .schema)
  let data ← (given.value? .data).mapM path?
  let format ← (given.value? .format).mapM DataFormat.ofName?
  let theme ← (given.value? .theme).mapM Theme.ofName?
  let width ← (given.value? .width).mapM size?
  let height ← (given.value? .height).mapM size?
  return {
    schema, data
    format := format.getD .json
    config := given.value? .config
    theme := theme.getD .light
    viewport :=
      { width := width.getD 800, height := height.getD 600, mobile := given.has .mobile }
    title := given.value? .title
    selection := given.value? .selection
    eligible := given.has .eligible
    pretty := given.has .pretty }

/-- Reads the arguments of the command. -/
def read? (arguments : List String) : Option Arguments :=
  (readOptions? arguments).bind ofGiven?

end Arguments

end ChartCompiler.CommandLine

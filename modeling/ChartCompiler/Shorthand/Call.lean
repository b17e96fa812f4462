import ChartCompiler.Config.Kind
import ChartCompiler.Shorthand.Token

/-!
Calls: a kind of chart with arguments in parentheses, such as
`bar(x: region, y: "Gross revenue", hide_legend: true)`.
-/

namespace ChartCompiler.Shorthand

/-- The right-hand side of an argument. -/
inductive Value where
  | name (s : String)
  | quoted (s : String)
  | truth (b : Bool)
deriving DecidableEq

/-- The value that a bare name denotes. -/
def Value.ofName (s : String) : Value :=
  if s = "true" then .truth true else if s = "false" then .truth false else .name s

/-- One argument. -/
abbrev Argument := String × Value

/-- A kind of chart with its arguments in order. -/
structure Call where
  kind : ChartKind
  arguments : List Argument
deriving DecidableEq

/-- The value of an argument: a quoted text or a bare name. -/
def value (text : List Char) : Parsed Value :=
  match quotedText text with
  | .ok (s, rest) => .ok (.quoted (String.ofList s), rest)
  | .error _ => (name text).map fun (s, rest) => (Value.ofName (String.ofList s), rest)

/-- An argument: a name, a colon and a value. -/
def argument (text : List Char) : Except Failure (Argument × List Char) := do
  let (key, rest) ← spaced name text
  let ((), rest) ← character ':' rest
  let (v, rest) ← spaced value rest
  return ((String.ofList key, v), rest)

/-- Further arguments, each behind a comma. They stop in front of a comma that
no argument follows; `fuel` bounds their number. -/
def furtherArguments : (fuel : Nat) → List Char → List Argument × List Char
  | 0, text => ([], text)
  | fuel + 1, text =>
    match spaced (character ',') text with
    | .error _ => ([], text)
    | .ok ((), rest) =>
      match argument rest with
      | .error _ => ([], text)
      | .ok (a, rest) =>
        let (others, rest) := furtherArguments fuel rest
        (a :: others, rest)

/-- Arguments between commas, or none. -/
def arguments (text : List Char) : List Argument × List Char :=
  match argument text with
  | .error _ => ([], text)
  | .ok (a, rest) =>
    let (others, rest) := furtherArguments rest.length rest
    (a :: others, rest)

/-- The name of a kind of chart. -/
def kind (text : List Char) : Except Failure (ChartKind × List Char) := do
  let (s, rest) ← kindName text
  match ChartKind.ofName? (String.ofList s) with
  | some kind => .ok (kind, rest)
  | none => .error ⟨.kind, text⟩

/-- A whole text as a call. -/
def call (text : List Char) : Except Failure Call := do
  let (kind, rest) ← spaced kind text
  let ((), rest) ← spaced (character '(') rest
  let (arguments, rest) := arguments rest
  let ((), rest) ← spaced (character ')') rest
  match rest with
  | [] => .ok ⟨kind, arguments⟩
  | rest => .error ⟨.ending, rest⟩

end ChartCompiler.Shorthand

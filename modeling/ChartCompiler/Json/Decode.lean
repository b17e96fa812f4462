import ChartCompiler.Json.Text
import ChartCompiler.Number.Word
import ChartCompiler.Text.Quoted

/-!
Reading typed values out of JSON values. A decoder either returns its value or
says what was wrong with the JSON it was given (`DecodeError`); the wording of
every fault is in `DecodeError.message`.

A record may be written as an object, whose members are read in the order in
which they stand and whose unknown members are ignored, or as an array of its
members in declaration order.
-/

namespace ChartCompiler

/-- Why a JSON value has the wrong shape. -/
inductive DecodeError where
  | missingField (name : String)
  | wrongType (found : Json) (wanted : String)
  | outOfRange (found : Int) (wanted : String)
  /-- an enumeration member written as an object with none or several keys -/
  | notOneKey
  | unknownVariant (name : String) (known : List String)
  | wrongLength (length : Nat) (wanted : String)
  | unknownColumnType (name : String)
deriving DecidableEq

namespace DecodeError

/-- A value as messages name it. -/
def describe : Json → String
  | .null => "null"
  | .bool b => "boolean `" ++ String.ofList (Json.boolChars b) ++ "`"
  | .number (.integer n) => "integer `" ++ String.ofList (decimalInteger n) ++ "`"
  | .number (.double x) => "floating point `" ++ String.ofList (NumberStyle.json.write x) ++ "`"
  | .string s => "string " ++ Text.quoted s
  | .array _ => "sequence"
  | .object _ => "map"

/-- The text of a fault. -/
def message : DecodeError → String
  | missingField name => "missing field `" ++ name ++ "`"
  | wrongType found wanted => "invalid type: " ++ describe found ++ ", expected " ++ wanted
  | outOfRange found wanted =>
    "invalid value: " ++ describe (.int found) ++ ", expected " ++ wanted
  | notOneKey => "invalid value: map, expected map with a single key"
  | unknownVariant name known =>
    "unknown variant `" ++ name ++ "`, expected one of " ++
      ", ".intercalate (known.map fun k => "`" ++ k ++ "`")
  | wrongLength length wanted =>
    "invalid length " ++ toString length ++ ", expected " ++ wanted
  | unknownColumnType name => "Unknown column type '" ++ name ++ "'"

end DecodeError

/-- A decoder's answer. -/
abbrev Decoded (α : Type) := Except DecodeError α

namespace Decode

/-- A text. -/
def string : Json → Decoded String
  | .string s => .ok s
  | other => .error (.wrongType other "a string")

/-- A truth value. -/
def bool : Json → Decoded Bool
  | .bool b => .ok b
  | other => .error (.wrongType other "a boolean")

/-- An unsigned integer of thirty-two bits. -/
def size : Json → Decoded Nat
  | .number (.integer n) =>
    if 0 ≤ n ∧ n < bound32 then .ok n.toNat else .error (.outOfRange n "u32")
  | other => .error (.wrongType other "u32")

/-- A list, item by item. -/
def list {α : Type} (item : Json → Decoded α) : Json → Decoded (List α)
  | .array items => items.mapM item
  | other => .error (.wrongType other "a sequence")

/-- The members of an object. -/
def members : Json → Decoded (List (String × Json))
  | .object members => .ok members
  | other => .error (.wrongType other "a map")

/-- A value or `null`. -/
def optional {α : Type} (value : Json → Decoded α) : Json → Decoded (Option α)
  | .null => .ok none
  | other => (value other).map some

/-- A member of an enumeration by name: the name itself, or an object with that
name as its one key and `null` under it. -/
def variant {α : Type} (all : List α) (name : α → String) (value : Json) : Decoded α :=
  let find (s : String) : Decoded α :=
    match all.find? (name · = s) with
    | some a => .ok a
    | none => .error (.unknownVariant s (all.map name))
  match value with
  | .string s => find s
  | .object [(s, content)] => do
    let a ← find s
    match content with
    | .null => .ok a
    | other => .error (.wrongType other "unit")
  | .object _ => .error .notOneKey
  | other => .error (.wrongType other "string or map")

/-- A record: `step` takes in one member after the other. In an array the
members stand in the order of `names`, and there may be fewer but not more. -/
def record {σ : Type} (wanted : String) (names : List String)
    (step : σ → String → Json → Decoded σ) (start : σ) : Json → Decoded σ
  | .object members => members.foldlM (fun acc member => step acc member.1 member.2) start
  | .array items => do
    let acc ← (names.zip items).foldlM (fun acc member => step acc member.1 member.2) start
    if names.length < items.length then
      .error (.wrongLength items.length "fewer elements in array")
    else .ok acc
  | other => .error (.wrongType other wanted)

end Decode

end ChartCompiler

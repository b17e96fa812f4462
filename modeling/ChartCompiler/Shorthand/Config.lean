import ChartCompiler.Config.Basic
import ChartCompiler.Error
import ChartCompiler.Shorthand.Call

/-!
The configuration that a shorthand text denotes: that of its kind with the
arguments applied from left to right.
-/

namespace ChartCompiler.Shorthand

namespace Value

/-- The text of a name or a quoted text. -/
def text? : Value → Option String
  | name s | quoted s => some s
  | truth _ => none

/-- The value as messages show it. -/
def shown : Value → String
  | name s => "Ident(" ++ Text.quoted s ++ ")"
  | quoted s => "Str(" ++ Text.quoted s ++ ")"
  | truth b => "Bool(" ++ (if b then "true" else "false") ++ ")"

end Value

/-- The argument that binds a channel. -/
def channelKey : Channel → String
  | .x => "x"
  | .y => "y"
  | .y2 => "y2"
  | .color => "color"
  | .size => "size"
  | .group => "group"
  | .trellis => "trellis"
  | .geo => "geo"
  | .note => "annotation"

/-- The truth value of an argument. -/
def truthValue (key : String) : Value → Except ChartError Bool
  | .truth b => .ok b
  | other => .error (.notTruthValue key other.shown)

/-- The scale type of an argument. -/
def scaleValue (key : String) (v : Value) : Except ChartError ScaleType :=
  match v.text? with
  | none => .error (.notScaleName key)
  | some s => (ScaleType.ofName s).mapError .unknownScale

/-- Applies an argument to a configuration. -/
def apply (config : ChartConfig) (argument : Argument) : Except ChartError ChartConfig :=
  let (key, v) := argument
  match Channel.all.find? (channelKey · = key) with
  | some channel =>
    match v.text? with
    | some field => .ok (config.setField channel (some field))
    | none => .error (.notColumnName key)
  | none =>
    match key with
    | "hide_legend" => (truthValue key v).map fun b => { config with hideLegend := some b }
    | "show_title" => (truthValue key v).map fun b => { config with showTitle := some b }
    | "scale_x" => (scaleValue key v).map fun s => { config with scaleX := some s }
    | "scale_y" => (scaleValue key v).map fun s => { config with scaleY := some s }
    | _ => .error (.unknownConfigKey key)

/-- The configuration of a call. -/
def Call.config (c : Call) : Except ChartError ChartConfig :=
  c.arguments.foldlM apply (.ofKind c.kind)

/-- The configuration of a shorthand text. -/
def parse (text : String) : Except ChartError ChartConfig :=
  match call text.toList with
  | .ok c => c.config
  | .error _ => .error .shorthand

end ChartCompiler.Shorthand

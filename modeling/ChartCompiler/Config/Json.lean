import ChartCompiler.Config.Basic
import ChartCompiler.Json.Decode
import ChartCompiler.Json.Record

/-!
Configurations as JSON: only the members that are set are written, and any
subset of them may be read.
-/

namespace ChartCompiler.ChartConfig

/-- The members of a configuration in declaration order. -/
def memberNames : List String :=
  ["chartType"] ++ Channel.all.map Channel.key ++ ["hideLegend", "showTitle", "scaleX", "scaleY"]

/-- A kind by name. -/
def decodeKind : Json → Decoded ChartKind :=
  Decode.variant ChartKind.all ChartKind.name

/-- A scale type by name. -/
def decodeScale : Json → Decoded ScaleType :=
  Decode.variant ScaleType.all ScaleType.name

/-- Takes in one member; unknown members are ignored. -/
def step (config : ChartConfig) (key : String) (value : Json) : Decoded ChartConfig :=
  match Channel.ofKey? key with
  | some channel => return config.setField channel (← Decode.optional Decode.string value)
  | none =>
    match key with
    | "chartType" => return { config with kind := ← Decode.optional decodeKind value }
    | "hideLegend" => return { config with hideLegend := ← Decode.optional Decode.bool value }
    | "showTitle" => return { config with showTitle := ← Decode.optional Decode.bool value }
    | "scaleX" => return { config with scaleX := ← Decode.optional decodeScale value }
    | "scaleY" => return { config with scaleY := ← Decode.optional decodeScale value }
    | _ => .ok config

/-- Reads a configuration. -/
def ofJson : Json → Decoded ChartConfig :=
  Decode.record "struct ChartConfig" memberNames step {}

/-- Reads the JSON text of a configuration written as an object. -/
def read? (text : String) : Option ChartConfig := do
  let members ← Json.readRecord? (memberNames.contains ·) text.toList
  (ofJson (.object members)).toOption

/-- The members that are set, in declaration order. -/
def members (config : ChartConfig) : List (String × Json) :=
  (config.kind.toList.map fun kind => ("chartType", Json.string kind.name)) ++
  (Channel.all.filterMap fun channel =>
    (config.bindings.get channel).map fun f => (channel.key, Json.string f)) ++
  (config.hideLegend.toList.map fun b => ("hideLegend", Json.bool b)) ++
  (config.showTitle.toList.map fun b => ("showTitle", Json.bool b)) ++
  (config.scaleX.toList.map fun s => ("scaleX", Json.string s.name)) ++
  (config.scaleY.toList.map fun s => ("scaleY", Json.string s.name))

/-- A configuration as JSON. -/
def toJson (config : ChartConfig) : Json :=
  .object config.members

end ChartCompiler.ChartConfig

import ChartCompiler.Config.Resolve
import ChartCompiler.Selection

/-!
The working configuration of one chart: the one its user is editing. Every
operation answers the new state of the controller together with the
configurations it reports, in order, to whoever follows the chart.
-/

namespace ChartCompiler

/-- The working configuration, the one it was started with, and the selection. -/
structure ConfigController where
  config : ChartConfig := {}
  initial : Option ChartConfig := none
  selection : Selection := .empty

namespace ConfigController

/-- A controller and the configurations reported on the way to it. -/
abbrev Reported := ConfigController × List ChartConfig

/-- The controller, reporting its configuration. -/
def report (c : ConfigController) : Reported :=
  (c, [c.config])

/-- The controller with a selection that names bound fields only. -/
def retainSelection (c : ConfigController) : ConfigController :=
  { c with selection := c.selection.retainBound c.config }

/-- Every binding swapped for those of the defaults; display flags and scales
stay as they are. -/
def replaceBindings (config defaults : ChartConfig) : ChartConfig :=
  { config with bindings := {} }.overlay defaults

/-- Adopts the configuration the controller was started with, or the inferred
defaults. When defaults are forced they are those of the current kind. -/
def load (c : ConfigController) (forceDefaults : Bool) (data : Dataset) (schema : Schema) :
    ConfigController :=
  match c.initial.filter fun _ => !forceDefaults with
  | some initial => { c with config := c.config.overlay initial }
  | none =>
    let kind := if forceDefaults then c.config.kind else none
    { c with config := replaceBindings c.config (defaultConfig data schema kind) }

/-- Starts over with a configuration, or with the inferred defaults. -/
def start (c : ConfigController) (initial : Option ChartConfig) (data : Dataset)
    (schema : Schema) : Reported :=
  ({ c with initial := initial }.load false data schema).report

/-- Lays a partial configuration over the working one. A change of kind replaces
the bindings by the defaults of the new kind first. -/
def update (c : ConfigController) (partialConfig : ChartConfig) (data : Dataset)
    (schema : Schema) : Reported :=
  let config :=
    match partialConfig.kind.filter fun kind => some kind ≠ c.config.kind with
    | some kind =>
      { replaceBindings c.config (defaultConfig data schema (some kind)) with
        kind := some kind }.overlay partialConfig
    | none => c.config.overlay partialConfig
  { c with config := config }.retainSelection.report

/-- Clears one channel. -/
def clear (c : ConfigController) (channel : Channel) : Reported :=
  { c with config := c.config.setField channel none }.retainSelection.report

/-- Replaces the selection. Nothing is reported. -/
def select (c : ConfigController) (selection : Selection) : ConfigController :=
  { c with selection := selection }.retainSelection

/-- Checks the working configuration against a schema. When a channel is bound
to a missing column the controller falls back to the configuration it was
started with, and where that does not fit either, to the defaults of its kind.
The answer says whether no fallback was needed. -/
def validate (c : ConfigController) (data : Dataset) (schema : Schema) : Bool × Reported :=
  if c.config.fits schema then (true, c, [])
  else
    let cleared := { c with config := c.config.clearDangling schema }
    let first := cleared.load false data schema
    if first.config.fits schema then (false, first.retainSelection, [first.config])
    else
      let checked := { first with config := first.config.clearDangling schema }
      let second := checked.load true data schema
      (false, second.retainSelection, [first.config, second.config])

end ConfigController

end ChartCompiler

import ChartCompiler.Config.Defaults

/-!
Resolving a partial configuration against a schema: bindings to columns that do
not exist are cleared, and if the rest is not enough for its kind of chart, the
defaults fill the gaps. What is bound explicitly always wins.
-/

namespace ChartCompiler

namespace ChartConfig

/-- A channel is bound to a column that the schema does not have. -/
def dangles (config : ChartConfig) (schema : Schema) (channel : Channel) : Bool :=
  (config.field channel).any fun f => !schema.contains f

/-- The configuration without its bindings to missing columns. -/
def clearDangling (config : ChartConfig) (schema : Schema) : ChartConfig :=
  { config with
    bindings := .ofFn fun channel =>
      if config.dangles schema channel then none else config.bindings.get channel }

/-- No channel is bound to a missing column. -/
def fits (config : ChartConfig) (schema : Schema) : Bool :=
  Channel.all.all fun channel => !config.dangles schema channel

end ChartConfig

/-- The configuration that is drawn for a partial one. -/
def resolveConfig (config : ChartConfig) (data : Dataset) (schema : Schema) :
    Except ChartError ChartConfig :=
  let config := config.clearDangling schema
  if config.hasRequiredBindings then .ok config
  else
    let resolved := (defaultConfig data schema config.kind).overlay config
    if resolved.kind.isNone || !resolved.isValid then .error .noDefaultChart
    else .ok resolved

end ChartCompiler

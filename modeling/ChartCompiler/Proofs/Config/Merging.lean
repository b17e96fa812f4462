import Mathlib
import ChartCompiler.Proofs.Config.Resolution
import ChartCompiler.Proofs.Config.StaleSelection

/-!
Merging a partial configuration into the working one. Whether the kind changes or not, the
partial configuration comes last, laid over `ConfigController.mergeBase`: the working
configuration as it stands, or with its bindings swapped for the defaults of another kind.
So whatever it sets is there afterwards, and laying it over once more changes nothing
(`ChartConfig.overlay_overlay_self`). `ConfigController.update_merges` says what every part of
the controller is after an update, and that updating again with the same configuration is idle.
-/

namespace ChartCompiler

namespace ChartConfig

/-- The flags and the scales of a configuration, and nothing else. -/
def display (config : ChartConfig) : ChartConfig :=
  { config with kind := none, bindings := {} }

theorem display_overlay (base top : ChartConfig) :
    (base.overlay top).display = base.display.overlay top.display :=
  rfl

/-- Defaults say nothing of the legend, the title and the scales. -/
theorem display_defaultConfig (data : Dataset) (schema : Schema) (wanted : Option ChartKind) :
    (defaultConfig data schema wanted).display = {} := by
  obtain ⟨kind, bindings, isDefault⟩ := defaultConfig_eq data schema wanted
  rw [isDefault]
  rfl

end ChartConfig

/-- A selection that names bound fields only loses nothing. -/
theorem Selection.retainBound_of_isBoundIn {selection : Selection} {config : ChartConfig}
    (bound : selection.IsBoundIn config) : selection.retainBound config = selection := by
  have whole : ∀ record ∈ selection.records,
      (record.filter fun entry => config.isBound entry.1) = record :=
    fun record inside => List.filter_eq_self.mpr (bound record inside).2
  have same : (selection.records.map fun record =>
      record.filter fun entry => config.isBound entry.1) = selection.records :=
    (List.map_congr_left whole).trans (List.map_id _)
  rw [retainBound, same]
  refine congrArg Selection.mk (List.filter_eq_self.mpr fun record inside => ?_)
  simpa using (bound record inside).1

namespace ConfigController

variable {data : Dataset} {schema : Schema}

/-! ## Swapping bindings -/

theorem get_replaceBindings (config defaults : ChartConfig) (channel : Channel) :
    (replaceBindings config defaults).bindings.get channel = defaults.field channel := by
  rw [replaceBindings, ChartConfig.get_overlay]
  cases channel <;> exact Option.or_none

theorem display_replaceBindings (config : ChartConfig) (data : Dataset) (schema : Schema)
    (wanted : Option ChartKind) :
    (replaceBindings config (defaultConfig data schema wanted)).display = config.display := by
  rw [replaceBindings, ChartConfig.display_overlay, ChartConfig.display_defaultConfig,
    ChartConfig.overlay_empty]
  rfl

/-! ## Updating -/

/-- What a partial configuration is laid over. -/
def mergeBase (c : ConfigController) (wanted : Option ChartKind) (data : Dataset)
    (schema : Schema) : ChartConfig :=
  match wanted.filter fun kind => some kind ≠ c.config.kind with
  | some kind =>
    { replaceBindings c.config (defaultConfig data schema (some kind)) with kind := some kind }
  | none => c.config

theorem mergeBase_of_changed {c : ConfigController} {kind : ChartKind}
    (changed : c.config.kind ≠ some kind) :
    c.mergeBase (some kind) data schema =
      { replaceBindings c.config (defaultConfig data schema (some kind)) with
        kind := some kind } := by
  have chosen : (some kind).filter (fun kind => some kind ≠ c.config.kind) = some kind := by
    simpa [Option.filter_some] using Ne.symm changed
  rw [mergeBase, chosen]

theorem mergeBase_of_same {c : ConfigController} {wanted : Option ChartKind}
    (same : ∀ kind, wanted = some kind → c.config.kind = some kind) :
    c.mergeBase wanted data schema = c.config := by
  have none : wanted.filter (fun kind => some kind ≠ c.config.kind) = none := by
    cases wanted with
    | none => rfl
    | some kind => simp [Option.filter_some, same kind rfl]
  rw [mergeBase, none]

theorem display_mergeBase (c : ConfigController) (wanted : Option ChartKind) (data : Dataset)
    (schema : Schema) : (c.mergeBase wanted data schema).display = c.config.display := by
  unfold mergeBase
  cases wanted.filter fun kind => some kind ≠ c.config.kind with
  | none => rfl
  | some kind => exact display_replaceBindings c.config data schema (some kind)

theorem fst_update (c : ConfigController) (p : ChartConfig) (data : Dataset) (schema : Schema) :
    (c.update p data schema).1 =
      { c with config := (c.mergeBase p.kind data schema).overlay p }.retainSelection := by
  unfold update mergeBase
  cases p.kind.filter fun kind => some kind ≠ c.config.kind <;> rfl

/-- What an update with a partial configuration makes of a controller. -/
structure Merges (before : ConfigController) (p : ChartConfig) (data : Dataset) (schema : Schema)
    (after : ConfigController) : Prop where
  /-- another kind comes with bindings of its own, and no old one stays -/
  changed : ∀ kind, p.kind = some kind → before.config.kind ≠ some kind →
    after.config.kind = some kind ∧ ∀ channel, after.config.bindings.get channel =
      (p.field channel).or ((defaultConfig data schema (some kind)).field channel)
  /-- otherwise a channel that is not bound anew keeps what it holds -/
  same : (∀ kind, p.kind = some kind → before.config.kind = some kind) →
    after.config.kind = before.config.kind ∧ ∀ channel, after.config.bindings.get channel =
      (p.field channel).or (before.config.bindings.get channel)
  hideLegend : after.config.hideLegend = p.hideLegend.or before.config.hideLegend
  showTitle : after.config.showTitle = p.showTitle.or before.config.showTitle
  scaleX : after.config.scaleX = p.scaleX.or before.config.scaleX
  scaleY : after.config.scaleY = p.scaleY.or before.config.scaleY
  /-- fields that are bound no longer are dropped, and then the records left empty -/
  selection : after.selection.records = (before.selection.records.map fun record =>
    record.filter fun entry => after.config.isBound entry.1).filter fun record => record ≠ []

theorem merges_update (c : ConfigController) (p : ChartConfig) (data : Dataset) (schema : Schema) :
    c.Merges p data schema (c.update p data schema).1 := by
  have display : ((c.mergeBase p.kind data schema).overlay p).display =
      c.config.display.overlay p.display := by
    rw [ChartConfig.display_overlay, display_mergeBase]
  rw [fst_update]
  constructor
  case changed =>
    intro kind wanted changed
    rw [wanted, mergeBase_of_changed changed]
    refine ⟨(ChartConfig.kind_overlay _ p).trans ?_, fun channel => ?_⟩
    · rw [wanted, Option.some_or]
    · refine (ChartConfig.get_overlay _ p channel).trans ?_
      exact congrArg _ (get_replaceBindings _ _ channel)
  case same =>
    intro same
    rw [mergeBase_of_same same]
    refine ⟨(ChartConfig.kind_overlay _ p).trans ?_, ChartConfig.get_overlay c.config p⟩
    cases wanted : p.kind with
    | none => rfl
    | some kind => rw [same kind wanted, Option.or_self]
  case selection =>
    exact List.filter_congr fun record _ => by cases record <;> rfl
  case hideLegend => exact congrArg ChartConfig.hideLegend display
  case showTitle => exact congrArg ChartConfig.showTitle display
  case scaleX => exact congrArg ChartConfig.scaleX display
  case scaleY => exact congrArg ChartConfig.scaleY display

/-- Updating with a configuration that was laid over the working one already is idle. -/
theorem update_of_overlaid {c : ConfigController} {base p : ChartConfig}
    (overlaid : c.config = base.overlay p) (current : c.IsCurrent) (data : Dataset)
    (schema : Schema) : (c.update p data schema).1 = c := by
  -- the kind is in force already, so no bindings are swapped this time
  have same : ∀ kind, p.kind = some kind → c.config.kind = some kind := by
    intro kind isKind
    rw [overlaid, ChartConfig.kind_overlay, isKind, Option.some_or]
  have kept : c.config.overlay p = c.config := by
    rw [overlaid, ChartConfig.overlay_overlay_self]
  have bound : c.selection.retainBound c.config = c.selection :=
    Selection.retainBound_of_isBoundIn current
  rw [fst_update, mergeBase_of_same same, kept, retainSelection]
  dsimp only
  rw [bound]

/-- **Updates merge exactly, and once is enough.** After an update with a partial configuration
every part of the controller is what the partial configuration makes it, else the default of
the new kind, else what it was; and the same update again, whatever the data and the schema
are by then, leaves the controller as it is. -/
theorem update_merges (c : ConfigController) (p : ChartConfig) (data : Dataset) (schema : Schema) :
    c.Merges p data schema (c.update p data schema).1 ∧
      ∀ (laterData : Dataset) (laterSchema : Schema),
        ((c.update p data schema).1.update p laterData laterSchema).1 =
          (c.update p data schema).1 := by
  have overlaid : (c.update p data schema).1.config =
      (c.mergeBase p.kind data schema).overlay p := by
    rw [fst_update]
    rfl
  exact ⟨c.merges_update p data schema,
    update_of_overlaid overlaid (isCurrent_of_retained rfl)⟩

end ConfigController

end ChartCompiler

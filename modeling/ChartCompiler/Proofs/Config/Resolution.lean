import Mathlib
import ChartCompiler.Proofs.Config.Completion

/-!
What a resolved configuration holds, channel by channel. `resolveConfig` succeeds in one of
two ways (`resolveConfig_eq_ok_iff`): the cleared configuration is enough as it stands, or
it is laid over the defaults of its kind, `ChartConfig.completed`. A completed configuration
has the defaults that completed it, and laying it over them again changes nothing, so that
resolving is stable (`resolveConfig_of_resolved`). Both ways come to one account,
`ChartConfig.Completes`: what is bound to a column stays, every other channel is unbound or
bound by default, and flags and scales are left alone.
-/

namespace ChartCompiler

variable {schema : Schema} {data : Dataset}

namespace ChartConfig

/-! ## Clearing -/

theorem get_clearDangling (config : ChartConfig) (schema : Schema) (channel : Channel) :
    (config.clearDangling schema).bindings.get channel =
      if config.dangles schema channel then none else config.bindings.get channel :=
  Bindings.get_ofFn _ channel

/-- Clearing keeps the bindings to columns of the schema. -/
theorem field_clearDangling (config : ChartConfig) (schema : Schema) (channel : Channel) :
    (config.clearDangling schema).field channel =
      (config.field channel).filter schema.contains := by
  rw [field, get_clearDangling, dangles]
  cases bound : config.field channel with
  | none => exact bound
  | some name =>
    cases column : schema.contains name with
    | true =>
      simp only [Option.any_some, column, Option.filter_some, if_true]
      exact bound
    | false =>
      simp only [Option.any_some, column, Option.filter_some]
      rfl

theorem clearDangling_of_fits {config : ChartConfig} (fits : config.fits schema) :
    config.clearDangling schema = config := by
  have same : (config.clearDangling schema).bindings = config.bindings := by
    refine Bindings.ext_get fun channel => ?_
    have stays : ¬ config.dangles schema channel := by
      simpa using List.all_eq_true.mp fits channel channel.mem_all
    rw [get_clearDangling, if_neg stays]
  exact congrArg (fun bindings => { config with bindings }) same

theorem clearDangling_clearDangling (config : ChartConfig) (schema : Schema) :
    (config.clearDangling schema).clearDangling schema = config.clearDangling schema :=
  clearDangling_of_fits config.fits_clearDangling

end ChartConfig

/-! ## Defaults -/

/-- Defaults inferred for a kind of their choice are the defaults of that kind. -/
theorem defaultConfig_or_kind (data : Dataset) (schema : Schema) (wanted : Option ChartKind) :
    defaultConfig data schema (wanted.or (defaultConfig data schema wanted).kind) =
      defaultConfig data schema wanted := by
  cases wanted with
  | some kind => rfl
  | none =>
    rw [Option.none_or]
    cases chosen : (defaultConfig data schema none).kind with
    | none => rfl
    | some kind =>
      obtain ⟨eligible, isDefault⟩ := eligible_of_chosen chosen
      rw [defaultConfig_of_eligible data eligible, isDefault]

/-- Defaults speak of a kind and of bindings only. -/
theorem defaultConfig_eq (data : Dataset) (schema : Schema) (wanted : Option ChartKind) :
    ∃ kind bindings, defaultConfig data schema wanted = { kind, bindings } := by
  rcases defaultConfig_cases data schema wanted with ⟨-, isEmpty⟩ | ⟨kind, -, -, isDefault⟩
  · exact ⟨none, {}, isEmpty⟩
  · exact ⟨some kind, _, isDefault⟩

theorem fits_defaultConfig (data : Dataset) (schema : Schema) (wanted : Option ChartKind) :
    (defaultConfig data schema wanted).fits schema := by
  rcases defaultConfig_cases data schema wanted with ⟨-, isEmpty⟩ | ⟨kind, -, -, isDefault⟩
  · rw [isEmpty]
    rfl
  · rw [isDefault]
    exact ChartConfig.fits_boundByDefault kind

/-! ## The two ways to resolve -/

namespace ChartConfig

/-- The configuration, cleared, over the defaults of its kind. -/
def completed (config : ChartConfig) (data : Dataset) (schema : Schema) : ChartConfig :=
  (defaultConfig data schema config.kind).overlay (config.clearDangling schema)

variable {config : ChartConfig}

theorem kind_completed : (config.completed data schema).kind =
    config.kind.or (defaultConfig data schema config.kind).kind :=
  rfl

theorem field_completed (channel : Channel) : (config.completed data schema).field channel =
    ((config.field channel).filter schema.contains).or
      ((defaultConfig data schema config.kind).field channel) := by
  rw [completed, field_overlay, field_clearDangling]

theorem fits_completed : (config.completed data schema).fits schema :=
  fits_overlay (fits_defaultConfig data schema config.kind) config.fits_clearDangling

/-- Defaults say nothing of the legend, the title and the scales. -/
theorem display_completed :
    (config.completed data schema).hideLegend = config.hideLegend ∧
      (config.completed data schema).showTitle = config.showTitle ∧
      (config.completed data schema).scaleX = config.scaleX ∧
      (config.completed data schema).scaleY = config.scaleY := by
  obtain ⟨kind, bindings, isDefault⟩ := defaultConfig_eq data schema config.kind
  rw [completed, isDefault]
  exact ⟨Option.or_none, Option.or_none, Option.or_none, Option.or_none⟩

/-- A completed configuration has the defaults that completed it. -/
theorem defaultConfig_kind_completed :
    defaultConfig data schema (config.completed data schema).kind =
      defaultConfig data schema config.kind := by
  rw [kind_completed, defaultConfig_or_kind]

theorem completed_completed :
    (config.completed data schema).completed data schema = config.completed data schema := by
  rw [completed, defaultConfig_kind_completed, clearDangling_of_fits fits_completed, completed,
    overlay_overlay]

end ChartConfig

theorem resolveConfig_of_required {config : ChartConfig}
    (required : (config.clearDangling schema).hasRequiredBindings) :
    resolveConfig config data schema = .ok (config.clearDangling schema) :=
  if_pos required

theorem resolveConfig_of_incomplete {config : ChartConfig}
    (incomplete : ¬ (config.clearDangling schema).hasRequiredBindings) :
    resolveConfig config data schema =
      if (config.completed data schema).kind.isNone || !(config.completed data schema).isValid
      then .error .noDefaultChart
      else .ok (config.completed data schema) :=
  if_neg incomplete

theorem resolveConfig_eq_ok_iff {config resolved : ChartConfig} :
    resolveConfig config data schema = .ok resolved ↔
      ((config.clearDangling schema).hasRequiredBindings ∧
        resolved = config.clearDangling schema) ∨
      (¬ (config.clearDangling schema).hasRequiredBindings ∧
        resolved = config.completed data schema ∧ resolved.kind.isSome ∧ resolved.isValid) := by
  have settled_iff : ∀ completed : ChartConfig,
      ¬ (completed.kind.isNone || !completed.isValid) ↔
        completed.kind.isSome ∧ completed.isValid := by
    intro completed
    cases completed.kind <;> simp
  constructor
  · intro isResolved
    by_cases required : (config.clearDangling schema).hasRequiredBindings
    · rw [resolveConfig_of_required required] at isResolved
      exact .inl ⟨required, (Except.ok.inj isResolved).symm⟩
    · rw [resolveConfig_of_incomplete required] at isResolved
      split at isResolved
      · cases isResolved
      · next settled =>
        cases isResolved
        exact .inr ⟨required, rfl, (settled_iff _).mp settled⟩
  · rintro (⟨required, rfl⟩ | ⟨incomplete, rfl, settled⟩)
    · exact resolveConfig_of_required required
    · rw [resolveConfig_of_incomplete incomplete]
      exact if_neg ((settled_iff _).mpr settled)

/-- A completed configuration resolves as the one it completes. -/
theorem resolveConfig_completed {config : ChartConfig}
    (incomplete : ¬ (config.clearDangling schema).hasRequiredBindings) :
    resolveConfig (config.completed data schema) data schema =
      resolveConfig config data schema := by
  have cleared : (config.completed data schema).clearDangling schema =
      config.completed data schema := ChartConfig.clearDangling_of_fits ChartConfig.fits_completed
  by_cases required : (config.completed data schema).hasRequiredBindings
  · -- the gaps are filled, and the second pass finds nothing missing
    obtain ⟨kind, isKind, -⟩ := ChartConfig.hasRequiredBindings_iff.mp required
    have settled : resolveConfig config data schema = .ok (config.completed data schema) :=
      resolveConfig_eq_ok_iff.mpr (.inr ⟨incomplete, rfl, Option.isSome_of_eq_some isKind,
        isValid_of_hasRequiredBindings required⟩)
    rw [settled, resolveConfig_of_required (cleared.symm ▸ required), cleared]
  · rw [resolveConfig_of_incomplete incomplete,
      resolveConfig_of_incomplete (cleared.symm ▸ required), ChartConfig.completed_completed]

theorem resolveConfig_of_resolved {config resolved : ChartConfig}
    (isResolved : resolveConfig config data schema = .ok resolved) :
    resolveConfig resolved data schema = .ok resolved := by
  rcases resolveConfig_eq_ok_iff.mp isResolved with ⟨required, rfl⟩ | ⟨incomplete, rfl, -⟩
  · have cleared := config.clearDangling_clearDangling schema
    rw [resolveConfig_of_required (cleared.symm ▸ required), cleared]
  · rw [resolveConfig_completed incomplete, isResolved]

/-! ## The account of a resolved configuration -/

/-- What resolving may make of a configuration. -/
structure ChartConfig.Completes (resolved config : ChartConfig) (data : Dataset)
    (schema : Schema) : Prop where
  /-- nothing dangles -/
  fits : ∀ channel name, resolved.field channel = some name → schema.contains name
  /-- there is a kind, the configuration's own if it has one -/
  kind : ∃ kind, resolved.kind = some kind ∧ ∀ own, config.kind = some own → own = kind
  /-- flags and scales are those of the configuration -/
  display : resolved.hideLegend = config.hideLegend ∧ resolved.showTitle = config.showTitle ∧
    resolved.scaleX = config.scaleX ∧ resolved.scaleY = config.scaleY
  /-- what is bound to a column stays bound to it -/
  explicit : ∀ channel name, config.field channel = some name → schema.contains name →
    resolved.field channel = some name
  /-- every other channel is unbound, or bound by default because something was missing -/
  inferred : ∀ channel, (∀ name, config.field channel = some name → ¬ schema.contains name) →
    resolved.field channel = none ∨
      (resolved.field channel = (defaultConfig data schema resolved.kind).field channel ∧
        ¬ (config.clearDangling schema).hasRequiredBindings)

theorem ChartConfig.completes_clearDangling {config : ChartConfig}
    (required : (config.clearDangling schema).hasRequiredBindings) :
    (config.clearDangling schema).Completes config data schema where
  fits := fits_iff.mp config.fits_clearDangling
  kind := by
    obtain ⟨kind, isKind, -⟩ := hasRequiredBindings_iff.mp required
    exact ⟨kind, isKind, fun own isOwn => Option.some.inj (isOwn.symm.trans isKind)⟩
  display := ⟨rfl, rfl, rfl, rfl⟩
  explicit := by
    intro channel name bound column
    rw [field_clearDangling, bound, Option.filter_some, if_pos column]
  inferred := by
    intro channel missing
    refine .inl ?_
    rw [field_clearDangling, Option.filter_eq_none_iff]
    exact missing

theorem ChartConfig.completes_completed {config : ChartConfig}
    (incomplete : ¬ (config.clearDangling schema).hasRequiredBindings)
    (hasKind : (config.completed data schema).kind.isSome) :
    (config.completed data schema).Completes config data schema where
  fits := fits_iff.mp fits_completed
  kind := by
    obtain ⟨kind, isKind⟩ := Option.isSome_iff_exists.mp hasKind
    refine ⟨kind, isKind, fun own isOwn => ?_⟩
    rw [kind_completed, isOwn, Option.some_or] at isKind
    exact Option.some.inj isKind
  display := display_completed
  explicit := by
    intro channel name bound column
    rw [field_completed, bound, Option.filter_some, if_pos column, Option.some_or]
  inferred := by
    intro channel missing
    refine .inr ⟨?_, incomplete⟩
    rw [field_completed, Option.filter_eq_none_iff.mpr missing, Option.none_or,
      defaultConfig_kind_completed]

/-- **Explicit bindings win and nothing dangles.** A resolved configuration keeps what was
bound to a column, binds nothing else but defaults of its kind, those only where the cleared
configuration was not enough, and leaves flags and scales alone. -/
theorem completes_of_resolved {config resolved : ChartConfig} {data : Dataset} {schema : Schema}
    (isResolved : resolveConfig config data schema = .ok resolved) :
    resolved.Completes config data schema := by
  rcases resolveConfig_eq_ok_iff.mp isResolved with
    ⟨required, rfl⟩ | ⟨incomplete, rfl, hasKind, -⟩
  · exact ChartConfig.completes_clearDangling required
  · exact ChartConfig.completes_completed incomplete hasKind

/-- A dangling x and an empty y are filled in, a dangling region is dropped, and a colour that
repeats the default x stays where it was put. -/
theorem completes_dangling_x :
    let schema : Schema :=
      ⟨[{ name := "state", type := .string }, { name := "sales", type := .money },
        { name := "region", type := .string }], by decide⟩
    let config : ChartConfig :=
      { kind := some .bar, hideLegend := some true, scaleY := some .log
        bindings := { x := some "gone", y := some "", color := some "state", geo := some "lost" } }
    let resolved : ChartConfig :=
      { config with bindings := { x := some "state", y := some "sales", color := some "state" } }
    resolveConfig config .empty schema = .ok resolved ∧
      resolved.Completes config .empty schema := by
  intro schema config resolved
  have isResolved : resolveConfig config .empty schema = .ok resolved := by decide
  exact ⟨isResolved, completes_of_resolved isResolved⟩

end ChartCompiler

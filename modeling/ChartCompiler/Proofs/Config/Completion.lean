import Mathlib
import ChartCompiler.Compile
import ChartCompiler.Proofs.Config.Overlay

/-!
Completing partial configurations. Where a kind is feasible, `resolveConfig` finds what it
requires: clearing and laying over defaults never unbinds a channel that is bound to a
column, and the defaults bind the rest (`exists_resolved`). What a builder cannot do
without is among what its kind requires, except that a map of regions also wants a column
that names regions. So a feasible request compiles unless it is such a map
(`compile_of_feasible`).
-/

namespace ChartCompiler

variable {schema : Schema}

namespace ChartConfig

/-! ## Bound channels -/

theorem kind_clearDangling (config : ChartConfig) (schema : Schema) :
    (config.clearDangling schema).kind = config.kind :=
  rfl

theorem fits_iff {config : ChartConfig} :
    config.fits schema ↔
      ∀ channel name, config.field channel = some name → schema.contains name := by
  simp [fits, dangles, Channel.mem_all, Option.any_eq_false]

theorem fits_clearDangling (config : ChartConfig) : (config.clearDangling schema).fits schema := by
  rw [fits_iff]
  intro channel name bound
  rw [field_eq_some_iff] at bound
  obtain ⟨kept, nonempty⟩ := bound
  simp only [clearDangling, Bindings.get_ofFn] at kept
  split at kept
  · cases kept
  · next stays =>
    have bound : config.field channel = some name := field_eq_some_iff.mpr ⟨kept, nonempty⟩
    simpa [dangles, bound] using stays

theorem fits_overlay {base top : ChartConfig} (below : base.fits schema)
    (above : top.fits schema) : (base.overlay top).fits schema := by
  rw [fits_iff] at below above ⊢
  intro channel name bound
  rw [field_overlay, Option.or_eq_some_iff] at bound
  rcases bound with bound | ⟨-, bound⟩
  · exact above channel name bound
  · exact below channel name bound

theorem fits_boundByDefault (kind : ChartKind) : (boundByDefault schema kind).fits schema := by
  rw [fits_iff]
  intro channel name bound
  rw [field_eq_some_iff] at bound
  obtain ⟨column, inside, rfl⟩ := names_defaultBindings kind channel name bound.1
  simpa [Schema.contains, Schema.get?] using ⟨column, inside, rfl⟩

end ChartConfig

/-! ## Resolving -/

/-- The kind of a configuration, or the one that fits the data where there is none, is one
that the schema can feed. -/
def IsFeasible (config : ChartConfig) (data : Dataset) (schema : Schema) : Prop :=
  match config.kind with
  | some kind => kind ∈ eligibleKinds schema
  | none => (defaultConfig data schema none).kind.isSome

/-- A feasible configuration has the defaults of an eligible kind, which is its own if it
has one. -/
theorem IsFeasible.exists_default {config : ChartConfig} {data : Dataset}
    (feasible : IsFeasible config data schema) :
    ∃ kind, kind ∈ eligibleKinds schema ∧ config.kind.or (some kind) = some kind ∧
      defaultConfig data schema config.kind = boundByDefault schema kind := by
  unfold IsFeasible at feasible
  split at feasible
  · next kind isKind =>
    rw [isKind]
    exact ⟨kind, feasible, rfl, defaultConfig_of_eligible data feasible⟩
  · next noKind =>
    rw [noKind]
    obtain ⟨kind, chosen⟩ := Option.isSome_iff_exists.mp feasible
    obtain ⟨eligible, isDefault⟩ := eligible_of_chosen chosen
    exact ⟨kind, eligible, rfl, isDefault⟩

theorem isValid_of_hasRequiredBindings {config : ChartConfig}
    (required : config.hasRequiredBindings) : config.isValid := by
  obtain ⟨kind, -, requires⟩ := ChartConfig.hasRequiredBindings_iff.mp required
  have bound := ChartConfig.exists_binds_iff.mp requires.exists_bound
  simp [ChartConfig.isValid, bound]

/-- A feasible configuration is completed to one that binds columns of the schema, and all
that its kind requires. -/
theorem exists_resolved {config : ChartConfig} {data : Dataset}
    (named : ∀ column ∈ schema.columns, column.name ≠ "")
    (feasible : IsFeasible config data schema) :
    ∃ resolved, resolveConfig config data schema = .ok resolved ∧
      resolved.hasRequiredBindings ∧ resolved.fits schema := by
  unfold resolveConfig
  simp only
  split
  · next required => exact ⟨_, rfl, required, config.fits_clearDangling⟩
  · obtain ⟨kind, eligible, own, isDefault⟩ := feasible.exists_default
    let resolved := (boundByDefault schema kind).overlay (config.clearDangling schema)
    have hasKind : resolved.kind = some kind := own
    have required : resolved.hasRequiredBindings :=
      ChartConfig.hasRequiredBindings_overlay (hasRequiredBindings_of_eligible named eligible) own
    have settled : (resolved.kind.isNone || !resolved.isValid) = false := by
      rw [hasKind, isValid_of_hasRequiredBindings required]
      rfl
    have fits : resolved.fits schema :=
      ChartConfig.fits_overlay (ChartConfig.fits_boundByDefault kind) config.fits_clearDangling
    refine ⟨resolved, ?_, required, fits⟩
    rw [ChartConfig.kind_clearDangling, isDefault]
    exact if_neg (Bool.eq_false_iff.mp settled)

/-! ## Drawing -/

/-- A map of regions over a column that names none. -/
def LacksRegions (schema : Schema) (config : ChartConfig) : Prop :=
  config.kind = some .usaMap ∧ ¬ (config.Binds .x ∧ config.Binds .y) ∧
    ∃ geo column, config.field .geo = some geo ∧ schema.get? geo = some column ∧
      column.isGeographic = false

/-- The builders want nothing beyond what their kinds require, maps of regions apart. -/
theorem exists_build {kind : ChartKind} {ctx : ChartContext}
    (requires : kind.Requires ctx.config.Binds) (notMap : kind ≠ .usaMap) :
    ∃ chart, Chart.build kind ctx = .ok chart := by
  cases kind with
  | treemap =>
    obtain ⟨category, bound⟩ := Option.isSome_iff_exists.mp requires.1
    simp only [Chart.build, Chart.treemap, bound]
    exact ⟨_, rfl⟩
  | usaMap => exact absurd rfl notMap
  | _ => exact ⟨_, rfl⟩

theorem exists_build_points {ctx : ChartContext} (x : ctx.config.Binds .x)
    (y : ctx.config.Binds .y) : ∃ chart, Chart.build .usaMap ctx = .ok chart := by
  obtain ⟨longitude, boundX⟩ := Option.isSome_iff_exists.mp x
  obtain ⟨latitude, boundY⟩ := Option.isSome_iff_exists.mp y
  simp only [Chart.build, Chart.map, boundX, boundY]
  exact ⟨_, rfl⟩

theorem build_regions {ctx : ChartContext} (apart : ¬ (ctx.config.Binds .x ∧ ctx.config.Binds .y))
    {geo : String} (bound : ctx.config.field .geo = some geo) :
    (Chart.outlineOf? ctx geo = none → Chart.build .usaMap ctx = .error .unsupportedMap) ∧
      ∀ outline, Chart.outlineOf? ctx geo = some outline →
        Chart.build .usaMap ctx = .ok (Chart.choropleth ctx outline geo) := by
  simp only [Chart.build, Chart.map]
  split
  · next longitude latitude boundX boundY =>
    have both : ctx.config.Binds .x ∧ ctx.config.Binds .y := by
      simp [ChartConfig.Binds, boundX, boundY]
    exact absurd both apart
  · refine ⟨fun unmapped => ?_, fun outline mapped => ?_⟩
    · simp only [bound, unmapped]
    · simp only [bound, mapped]

theorem outlineOf?_eq_none_iff {ctx : ChartContext} {geo : String} {column : Column}
    (found : ctx.schema.get? geo = some column) :
    Chart.outlineOf? ctx geo = none ↔ column.isGeographic = false := by
  unfold Chart.outlineOf? Column.isGeographic
  rw [found, Option.bind_some]
  cases column.region? with
  | none => simp
  | some region => cases region <;> simp

/-- A resolved configuration is drawn, unless it is a map that lacks regions. -/
theorem build_of_required {kind : ChartKind} (ctx : ChartContext)
    (isKind : ctx.config.kind = some kind) (requires : kind.Requires ctx.config.Binds)
    (fits : ctx.config.fits ctx.schema) :
    (LacksRegions ctx.schema ctx.config ∧ Chart.build kind ctx = .error .unsupportedMap) ∨
      (¬ LacksRegions ctx.schema ctx.config ∧ ∃ chart, Chart.build kind ctx = .ok chart) := by
  by_cases isMap : kind = .usaMap
  · subst isMap
    by_cases both : ctx.config.Binds .x ∧ ctx.config.Binds .y
    · exact .inr ⟨fun lacks => lacks.2.1 both, exists_build_points both.1 both.2⟩
    · obtain ⟨geo, bound⟩ := Option.isSome_iff_exists.mp (requires.resolve_right both)
      have contained := ChartConfig.fits_iff.mp fits .geo geo bound
      obtain ⟨column, found⟩ := Option.isSome_iff_exists.mp contained
      have regions := build_regions both bound
      cases outline : Chart.outlineOf? ctx geo with
      | none =>
        have without := (outlineOf?_eq_none_iff found).mp outline
        exact .inl ⟨⟨isKind, both, geo, column, bound, found, without⟩, regions.1 outline⟩
      | some land =>
        refine .inr ⟨?_, _, regions.2 land outline⟩
        rintro ⟨-, -, other, otherColumn, otherBound, otherFound, without⟩
        rw [bound] at otherBound
        cases otherBound
        rw [(outlineOf?_eq_none_iff otherFound).mpr without] at outline
        cases outline
  · refine .inr ⟨?_, exists_build requires isMap⟩
    rintro ⟨map, -⟩
    rw [isKind] at map
    exact isMap (Option.some.inj map)

theorem compile_of_resolved {request : ChartRequest} {config : ChartConfig} {kind : ChartKind}
    (resolved : resolveConfig request.config request.data request.schema = .ok config)
    (isKind : config.kind = some kind) :
    request.compile = (Chart.build kind (request.context config kind)).map fun chart =>
      (Fragment.compose [request.document config kind chart, request.shownTitle config]).toJson := by
  unfold ChartRequest.compile
  rw [resolved]
  simp only [bind, Except.bind, isKind]
  cases Chart.build kind (request.context config kind) <;> rfl

/-- **Feasible requests compile.** Where columns have names, a request whose kind is
eligible, or which has none while one fits the data, is completed to a configuration that
binds what its kind requires. It then compiles for every selection, theme, viewport and
title, except as a map of regions over a column that names none, which is unsupported. -/
theorem compile_of_feasible (request : ChartRequest)
    (named : ∀ column ∈ request.schema.columns, column.name ≠ "")
    (feasible : IsFeasible request.config request.data request.schema) :
    ∃ resolved, resolveConfig request.config request.data request.schema = .ok resolved ∧
      resolved.hasRequiredBindings ∧
      ((LacksRegions request.schema resolved ∧ request.compile = .error .unsupportedMap) ∨
        (¬ LacksRegions request.schema resolved ∧
          ∃ document, request.compile = .ok document)) := by
  obtain ⟨resolved, isResolved, required, fits⟩ := exists_resolved named feasible
  obtain ⟨kind, isKind, requires⟩ := ChartConfig.hasRequiredBindings_iff.mp required
  refine ⟨resolved, isResolved, required, ?_⟩
  rw [compile_of_resolved isResolved isKind]
  rcases build_of_required (request.context resolved kind) isKind requires fits with
    ⟨lacks, failed⟩ | ⟨draws, chart, built⟩
  · refine .inl ⟨lacks, ?_⟩
    rw [failed]
    rfl
  · refine .inr ⟨draws, ?_⟩
    rw [built]
    exact ⟨_, rfl⟩

/-- A dangling y is filled in, and a map whose bound column names no regions fails. -/
theorem compile_dangling_and_unmapped :
    let schema : Schema :=
      ⟨[{ name := "state", type := .string, traits := ["location.us_state"] },
        { name := "sales", type := .money }], by decide⟩
    let dangling : ChartRequest :=
      { schema, data := .empty, config := { bindings := { x := some "state", y := some "gone" } } }
    let unmapped : ChartRequest :=
      { schema, data := .empty
        config := { kind := some .usaMap, bindings := { geo := some "sales" } } }
    (∀ column ∈ schema.columns, column.name ≠ "") ∧
      IsFeasible dangling.config dangling.data schema ∧
      (∃ document, dangling.compile = .ok document) ∧
      IsFeasible unmapped.config unmapped.data schema ∧
      unmapped.compile = .error .unsupportedMap := by
  intro schema dangling unmapped
  have named : ∀ column ∈ schema.columns, column.name ≠ "" := by decide
  have inferred : IsFeasible dangling.config dangling.data schema := by
    change (defaultConfig dangling.data schema none).kind.isSome = true
    decide
  have eligible : IsFeasible unmapped.config unmapped.data schema := by
    change ChartKind.usaMap ∈ eligibleKinds schema
    decide
  refine ⟨named, inferred, ?_, eligible, ?_⟩
  · obtain ⟨resolved, isResolved, -, ⟨lacks, -⟩ | ⟨-, drawn⟩⟩ :=
      compile_of_feasible dangling named inferred
    · have bar : resolved.kind = some .bar := by
        cases isResolved
        decide
      obtain ⟨isMap, -⟩ := lacks
      rw [bar] at isMap
      cases isMap
    · exact drawn
  · obtain ⟨resolved, isResolved, -, ⟨-, failed⟩ | ⟨draws, -⟩⟩ :=
      compile_of_feasible unmapped named eligible
    · exact failed
    · refine absurd ?_ draws
      cases isResolved
      exact ⟨rfl, fun both => Bool.false_ne_true both.1, "sales", _, rfl, rfl, by decide⟩

end ChartCompiler

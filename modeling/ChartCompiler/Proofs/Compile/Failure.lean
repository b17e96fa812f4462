import Mathlib
import ChartCompiler.Proofs.Config.Resolution

/-!
When a request fails. There are three ways. A configuration that is not complete may find no
defaults that say what to draw (`ChartConfig.LacksDefaults`), a treemap may have no labels
(`ChartConfig.LacksLabels`), and a map neither coordinates nor regions
(`ChartConfig.LacksPlaces`). The first is a matter of resolving, the others of two builders
(`Chart.build_error_iff`); all other builders draw whatever they are given. So
`compile_fails_exactly` says of every request with which error it fails, or that it compiles.
-/

namespace ChartCompiler

/-! ## What can be missing -/

/-- Some trait of the column names states or countries. -/
def Column.NamesRegions (column : Column) : Prop :=
  column.hasTraitEnding "us_state" ∨ column.hasTraitEnding "us_state_short" ∨
    column.hasTraitEnding "country"

theorem Column.isGeographic_iff {column : Column} : column.isGeographic ↔ column.NamesRegions := by
  unfold isGeographic region? NamesRegions
  split_ifs with short full country
  · simp [short]
  · simp [full]
  · simp [country]
  · simp [short, full, country]

namespace ChartConfig

/-- There is a kind, and all that it requires is bound. -/
def IsComplete (config : ChartConfig) : Prop :=
  ∃ kind, config.kind = some kind ∧ kind.Requires config.Binds

/-- No channel is bound and no display flag is set. -/
def IsBlank (config : ChartConfig) : Prop :=
  (∀ channel, ¬ config.Binds channel) ∧ config.hideLegend = none ∧ config.showTitle = none

theorem isBlank_iff {config : ChartConfig} : config.IsBlank ↔ config.isValid = false := by
  have unbound : (∀ channel, ¬ config.Binds channel) ↔ config.boundFields.isEmpty = true := by
    rw [← not_exists, exists_binds_iff, Bool.not_eq_false]
  unfold IsBlank isValid hasDisplayFlags
  rw [unbound]
  cases config.hideLegend <;> cases config.showTitle <;> simp

/-- The cleared configuration is not complete, and over the defaults it still has no kind or
is blank. -/
def LacksDefaults (config : ChartConfig) (data : Dataset) (schema : Schema) : Prop :=
  ¬ (config.clearDangling schema).IsComplete ∧
    ((config.completed data schema).kind = none ∨ (config.completed data schema).IsBlank)

/-- A treemap without labels. -/
def LacksLabels (config : ChartConfig) : Prop :=
  config.kind = some .treemap ∧ ¬ config.Binds .x

/-- A map without a pair of coordinates and without a column that names regions. -/
def LacksPlaces (config : ChartConfig) (schema : Schema) : Prop :=
  config.kind = some .usaMap ∧ ¬ (config.Binds .x ∧ config.Binds .y) ∧
    ∀ geo column, config.field .geo = some geo → schema.get? geo = some column →
      ¬ column.NamesRegions

end ChartConfig

/-! ## Builders -/

namespace Chart

variable {ctx : ChartContext} {error : ChartError}

theorem treemap_error_iff : treemap ctx = .error error ↔
    ¬ ctx.config.Binds .x ∧ error = .missingField "treemap" "xField" := by
  unfold treemap ChartConfig.Binds
  cases ctx.config.field .x with
  | none => simp [eq_comm]
  | some category => simp

theorem outlineOf?_eq_none_iff_forall {geo : String} : outlineOf? ctx geo = none ↔
    ∀ column, ctx.schema.get? geo = some column → ¬ column.NamesRegions := by
  cases found : ctx.schema.get? geo with
  | none => simp [outlineOf?, found]
  | some column =>
    rw [outlineOf?_eq_none_iff found, ← Bool.not_eq_true, Column.isGeographic_iff]
    constructor
    · intro without other isOther
      obtain rfl : column = other := Option.some.inj isOther
      exact without
    · intro without
      exact without column rfl

theorem map_error_iff : map ctx = .error error ↔
    ¬ (ctx.config.Binds .x ∧ ctx.config.Binds .y) ∧
      (∀ geo column, ctx.config.field .geo = some geo → ctx.schema.get? geo = some column →
        ¬ column.NamesRegions) ∧
      error = .unsupportedMap := by
  by_cases both : ctx.config.Binds .x ∧ ctx.config.Binds .y
  · obtain ⟨chart, built⟩ := exists_build_points both.1 both.2
    rw [show map ctx = .ok chart from built]
    simp [both]
  · cases bound : ctx.config.field .geo with
    | none =>
      have failed : map ctx = .error .unsupportedMap := by
        unfold map
        split
        next longitude latitude isX isY =>
          refine absurd ⟨?_, ?_⟩ both
          · exact Option.isSome_of_eq_some isX
          · exact Option.isSome_of_eq_some isY
        next => rw [bound]
      rw [failed]
      simp [both, eq_comm]
    | some geo =>
      have regions := build_regions both bound
      cases outlined : outlineOf? ctx geo with
      | none =>
        have without := outlineOf?_eq_none_iff_forall.mp outlined
        rw [show map ctx = .error .unsupportedMap from regions.1 outlined]
        constructor
        · intro same
          refine ⟨both, fun other column isOther => ?_, (Except.error.inj same).symm⟩
          obtain rfl : geo = other := Option.some.inj isOther
          exact without column
        · intro fails
          rw [fails.2.2]
      | some outline =>
        have named : ¬ ∀ column, ctx.schema.get? geo = some column → ¬ column.NamesRegions := by
          rw [← outlineOf?_eq_none_iff_forall, outlined]
          exact Option.some_ne_none outline
        rw [show map ctx = .ok _ from regions.2 outline outlined]
        constructor
        · nofun
        · intro fails
          exact absurd (fun column => fails.2.1 geo column rfl) named

/-- Only treemaps and maps can fail, each for want of what it is drawn from. -/
theorem build_error_iff {kind : ChartKind} (isKind : ctx.config.kind = some kind) :
    build kind ctx = .error error ↔
      (ctx.config.LacksLabels ∧ error = .missingField "treemap" "xField") ∨
        (ctx.config.LacksPlaces ctx.schema ∧ error = .unsupportedMap) := by
  unfold ChartConfig.LacksLabels ChartConfig.LacksPlaces
  rw [isKind]
  cases kind with
  | treemap =>
    rw [build, treemap_error_iff]
    simp
  | usaMap =>
    rw [build, map_error_iff]
    simp [and_assoc]
  | _ => simp [build]

end Chart

/-! ## Requests -/

section

variable {config : ChartConfig} {data : Dataset} {schema : Schema}

theorem resolveConfig_of_lacksDefaults (lacks : config.LacksDefaults data schema) :
    resolveConfig config data schema = .error .noDefaultChart := by
  obtain ⟨incomplete, unsettled⟩ := lacks
  have required : ¬ (config.clearDangling schema).hasRequiredBindings :=
    fun required => incomplete (ChartConfig.hasRequiredBindings_iff.mp required)
  rw [resolveConfig_of_incomplete required]
  refine if_pos (Bool.or_eq_true_iff.mpr ?_)
  rcases unsettled with noKind | blank
  · exact .inl (Option.isNone_iff_eq_none.mpr noKind)
  · exact .inr (by rw [ChartConfig.isBlank_iff.mp blank]; rfl)

theorem exists_resolved_iff : (∃ resolved, resolveConfig config data schema = .ok resolved) ↔
    ¬ config.LacksDefaults data schema := by
  constructor
  · intro resolves lacks
    obtain ⟨resolved, isResolved⟩ := resolves
    rw [resolveConfig_of_lacksDefaults lacks] at isResolved
    cases isResolved
  · intro finds
    by_cases required : (config.clearDangling schema).hasRequiredBindings
    · exact ⟨_, resolveConfig_of_required required⟩
    · have incomplete : ¬ (config.clearDangling schema).IsComplete :=
        fun complete => required (ChartConfig.hasRequiredBindings_iff.mpr complete)
      have settled := not_or.mp (not_and.mp finds incomplete)
      rw [ChartConfig.isBlank_iff, Bool.not_eq_false] at settled
      exact ⟨_, resolveConfig_eq_ok_iff.mpr
        (.inr ⟨required, rfl, Option.isSome_iff_ne_none.mpr settled.1, settled.2⟩)⟩

theorem isSome_kind_of_resolved {resolved : ChartConfig}
    (isResolved : resolveConfig config data schema = .ok resolved) : resolved.kind.isSome := by
  rcases resolveConfig_eq_ok_iff.mp isResolved with ⟨required, rfl⟩ | ⟨-, -, hasKind, -⟩
  · obtain ⟨kind, isKind, -⟩ := ChartConfig.hasRequiredBindings_iff.mp required
    exact Option.isSome_of_eq_some isKind
  · exact hasKind

end

/-- A resolved request fails where its chart cannot be built. -/
theorem compile_error_iff_of_resolved {request : ChartRequest} {resolved : ChartConfig}
    (isResolved : resolveConfig request.config request.data request.schema = .ok resolved)
    {error : ChartError} : request.compile = .error error ↔
      (resolved.LacksLabels ∧ error = .missingField "treemap" "xField") ∨
        (resolved.LacksPlaces request.schema ∧ error = .unsupportedMap) := by
  obtain ⟨kind, isKind⟩ := Option.isSome_iff_exists.mp (isSome_kind_of_resolved isResolved)
  rw [compile_of_resolved isResolved isKind]
  have failed : Chart.build kind (request.context resolved kind) = .error error ↔
      (resolved.LacksLabels ∧ error = .missingField "treemap" "xField") ∨
        (resolved.LacksPlaces request.schema ∧ error = .unsupportedMap) :=
    Chart.build_error_iff isKind
  rw [← failed]
  cases Chart.build kind (request.context resolved kind) <;> simp [Except.map]

/-- **Compiling fails for three reasons only.** A request has no default chart exactly when its
cleared configuration is not complete and the defaults below it give no kind, or nothing to
show. In every other case it is resolved, and then it fails as a treemap exactly when this has
no labels, as a map exactly when this has no places, and compiles if neither is so. -/
theorem compile_fails_exactly (request : ChartRequest) :
    (request.compile = .error .noDefaultChart ↔
      request.config.LacksDefaults request.data request.schema) ∧
    (¬ request.config.LacksDefaults request.data request.schema → ∃ resolved,
      resolveConfig request.config request.data request.schema = .ok resolved ∧
      (request.compile = .error (.missingField "treemap" "xField") ↔ resolved.LacksLabels) ∧
      (request.compile = .error .unsupportedMap ↔ resolved.LacksPlaces request.schema) ∧
      (¬ resolved.LacksLabels → ¬ resolved.LacksPlaces request.schema →
        ∃ document, request.compile = .ok document)) := by
  constructor
  · constructor
    · intro failed
      by_contra finds
      obtain ⟨resolved, isResolved⟩ := exists_resolved_iff.mpr finds
      rw [compile_error_iff_of_resolved isResolved] at failed
      rcases failed with ⟨-, other⟩ | ⟨-, other⟩
      · cases other
      · cases other
    · intro lacks
      unfold ChartRequest.compile
      rw [resolveConfig_of_lacksDefaults lacks]
      rfl
  · intro finds
    obtain ⟨resolved, isResolved⟩ := exists_resolved_iff.mpr finds
    refine ⟨resolved, isResolved, ?_, ?_, fun labelled placed => ?_⟩
    · rw [compile_error_iff_of_resolved isResolved]
      simp
    · rw [compile_error_iff_of_resolved isResolved]
      simp
    · cases compiled : request.compile with
      | ok document => exact ⟨document, rfl⟩
      | error cause =>
        have reasons := (compile_error_iff_of_resolved isResolved).mp compiled
        rcases reasons with ⟨unlabelled, -⟩ | ⟨unplaced, -⟩
        · exact absurd unlabelled labelled
        · exact absurd unplaced placed

/-- A treemap whose labels dangle cannot fall back on a schema of numbers, while bars without
any column are drawn because their title is spoken of. -/
theorem compile_fails_unlabelled_treemap :
    let schema : Schema := ⟨[{ name := "sales", type := .money }], by decide⟩
    let treemap : ChartRequest :=
      { schema, data := .empty
        config := { kind := some .treemap, bindings := { x := some "gone" } } }
    let bars : ChartRequest :=
      { schema := .empty, data := .empty
        config := { kind := some .bar, showTitle := some true } }
    ¬ treemap.config.LacksDefaults .empty schema ∧
      treemap.compile = .error (.missingField "treemap" "xField") ∧
      ¬ bars.config.LacksDefaults .empty .empty ∧ ∃ document, bars.compile = .ok document := by
  intro schema treemap bars
  have treemapFinds : ¬ treemap.config.LacksDefaults .empty schema :=
    exists_resolved_iff.mp ⟨_, rfl⟩
  have barsFind : ¬ bars.config.LacksDefaults .empty .empty := exists_resolved_iff.mp ⟨_, rfl⟩
  obtain ⟨unlabelled, isUnlabelled, labels, -⟩ := (compile_fails_exactly treemap).2 treemapFinds
  obtain ⟨plain, isPlain, -, -, drawn⟩ := (compile_fails_exactly bars).2 barsFind
  have isBar : plain.kind = some .bar := by
    cases isPlain
    rfl
  refine ⟨treemapFinds, labels.mpr ?_, barsFind, drawn ?_ ?_⟩
  · cases isUnlabelled
    exact ⟨rfl, Bool.false_ne_true⟩
  · intro lacks
    rw [ChartConfig.LacksLabels, isBar] at lacks
    cases lacks.1
  · intro lacks
    rw [ChartConfig.LacksPlaces, isBar] at lacks
    cases lacks.1

end ChartCompiler

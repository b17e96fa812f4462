import Mathlib
import ChartCompiler.Proofs.Config.Merging

/-!
Falling back when the schema no longer has what is bound. `ConfigController.fallBack` walks
the chain: the configuration is cleared, what the controller was started with is laid over it
or the inferred defaults take its place, and where that dangles still, the defaults of the kind
come in. However stale the configurations on the way are, the end of the chain fits
(`fits_fallBack`), so that checking it again finds nothing to do. `validate_settles` adds what
becomes of the kind, of the display and of the selection.
-/

namespace ChartCompiler

namespace ConfigController

variable {c : ConfigController} {data : Dataset} {schema : Schema}

/-! ## Loading -/

theorem load_of_initial {initial : ChartConfig} (started : c.initial = some initial)
    (data : Dataset) (schema : Schema) :
    c.load false data schema = { c with config := c.config.overlay initial } := by
  rw [load, started]
  rfl

theorem load_of_none (noInitial : c.initial = none) (data : Dataset) (schema : Schema) :
    c.load false data schema =
      { c with config := replaceBindings c.config (defaultConfig data schema none) } := by
  rw [load, noInitial]
  rfl

theorem load_forced (c : ConfigController) (data : Dataset) (schema : Schema) :
    c.load true data schema =
      { c with config := replaceBindings c.config (defaultConfig data schema c.config.kind) } := by
  have nothing : (c.initial.filter fun _ => !true) = none := by cases c.initial <;> rfl
  rw [load, nothing]
  rfl

theorem fits_replaceBindings (config : ChartConfig) (data : Dataset) (schema : Schema)
    (wanted : Option ChartKind) :
    (replaceBindings config (defaultConfig data schema wanted)).fits schema :=
  ChartConfig.fits_overlay (by rfl) (fits_defaultConfig data schema wanted)

/-! ## The chain -/

/-- The controller without bindings to missing columns. -/
def clearDangling (c : ConfigController) (schema : Schema) : ConfigController :=
  { c with config := c.config.clearDangling schema }

/-- The end of the chain. -/
def fallBack (c : ConfigController) (data : Dataset) (schema : Schema) : ConfigController :=
  let first := (c.clearDangling schema).load false data schema
  if first.config.fits schema then first
  else (first.clearDangling schema).load true data schema

theorem validate_of_fits (fits : c.config.fits schema) (data : Dataset) :
    c.validate data schema = (true, c, []) :=
  if_pos fits

theorem fst_snd_validate_of_dangling (dangling : ¬ c.config.fits schema) (data : Dataset) :
    (c.validate data schema).2.1 = (c.fallBack data schema).retainSelection := by
  unfold validate fallBack
  rw [if_neg dangling]
  dsimp only [clearDangling]
  split <;> rfl

theorem fits_fallBack (c : ConfigController) (data : Dataset) (schema : Schema) :
    (c.fallBack data schema).config.fits schema := by
  unfold fallBack
  dsimp only
  split
  · assumption
  · rw [load_forced]
    exact fits_replaceBindings _ data schema _

/-! ## What the chain keeps -/

/-- The kind that the first fallback names. -/
def fallbackKind? (c : ConfigController) (data : Dataset) (schema : Schema) : Option ChartKind :=
  match c.initial with
  | some initial => initial.kind
  | none => (defaultConfig data schema none).kind

theorem kind_load_first (c : ConfigController) (data : Dataset) (schema : Schema) :
    (c.load false data schema).config.kind = (c.fallbackKind? data schema).or c.config.kind := by
  unfold fallbackKind?
  cases started : c.initial with
  | none => exact congrArg (·.config.kind) (load_of_none started data schema)
  | some initial => exact congrArg (·.config.kind) (load_of_initial started data schema)

/-- Forced defaults keep a kind, and infer one where there is none. -/
theorem kind_load_forced (c : ConfigController) (data : Dataset) (schema : Schema) :
    (c.load true data schema).config.kind = c.config.kind ∨
      (c.config.kind = none ∧
        (c.load true data schema).config.kind = (defaultConfig data schema none).kind) := by
  have kind : (c.load true data schema).config.kind =
      (defaultConfig data schema c.config.kind).kind.or c.config.kind :=
    congrArg (·.config.kind) (c.load_forced data schema)
  rw [kind]
  cases current : c.config.kind with
  | none => exact .inr ⟨rfl, Option.or_none⟩
  | some pinned =>
    refine .inl ?_
    -- defaults for a kind are of that kind, or there are none
    rcases defaultConfig_cases data schema (some pinned) with
      ⟨-, isEmpty⟩ | ⟨chosen, -, fits, isDefault⟩
    · rw [isEmpty]
      rfl
    · cases fits
      rw [isDefault]
      rfl

/-- Without a start there is no second fallback, because inferred defaults fit. -/
theorem fallBack_of_none (noInitial : c.initial = none) (data : Dataset) (schema : Schema) :
    c.fallBack data schema = (c.clearDangling schema).load false data schema := by
  have fits : ((c.clearDangling schema).load false data schema).config.fits schema := by
    rw [load_of_none (c := c.clearDangling schema) noInitial]
    exact fits_replaceBindings _ data schema none
  exact if_pos fits

theorem kind_fallBack (c : ConfigController) (data : Dataset) (schema : Schema) :
    (c.fallBack data schema).config.kind = (c.fallbackKind? data schema).or c.config.kind ∨
      (c.initial.isSome ∧ (c.fallbackKind? data schema).or c.config.kind = none ∧
        (c.fallBack data schema).config.kind = (defaultConfig data schema none).kind) := by
  have first := (c.clearDangling schema).kind_load_first data schema
  cases started : c.initial with
  | none =>
    rw [fallBack_of_none started]
    exact .inl first
  | some initial =>
    unfold fallBack
    dsimp only
    split
    · exact .inl first
    · -- the kind that is pinned now is the one that the first fallback left
      have forced := kind_load_forced
        (((c.clearDangling schema).load false data schema).clearDangling schema) data schema
      rcases forced with pinned | ⟨noKind, inferred⟩
      · exact .inl (pinned.trans first)
      · exact .inr ⟨rfl, first.symm.trans noKind, inferred⟩

theorem display_fallBack (c : ConfigController) (data : Dataset) (schema : Schema) :
    (c.fallBack data schema).config.display =
      c.config.display.overlay (c.initial.elim {} ChartConfig.display) := by
  have first : ((c.clearDangling schema).load false data schema).config.display =
      c.config.display.overlay (c.initial.elim {} ChartConfig.display) := by
    cases started : c.initial with
    | none =>
      rw [load_of_none (c := c.clearDangling schema) started]
      exact display_replaceBindings _ data schema none
    | some initial =>
      rw [load_of_initial (c := c.clearDangling schema) started]
      rfl
  unfold fallBack
  dsimp only
  split
  · exact first
  · rw [load_forced]
    exact (display_replaceBindings _ data schema _).trans first

/-! ## Validating -/

/-- What a failed validation makes of a controller. -/
structure FallsBack (before : ConfigController) (data : Dataset) (schema : Schema)
    (after : ConfigController) : Prop where
  /-- whatever is bound is a column of the schema -/
  fits : ∀ channel name, after.config.field channel = some name → schema.contains name
  /-- whatever is selected is bound -/
  selection : ∀ record ∈ after.selection.records, ∀ entry ∈ record, after.config.isBound entry.1
  hideLegend : after.config.hideLegend =
    (before.initial.bind ChartConfig.hideLegend).or before.config.hideLegend
  showTitle : after.config.showTitle =
    (before.initial.bind ChartConfig.showTitle).or before.config.showTitle
  scaleX : after.config.scaleX = (before.initial.bind ChartConfig.scaleX).or before.config.scaleX
  scaleY : after.config.scaleY = (before.initial.bind ChartConfig.scaleY).or before.config.scaleY
  /-- the kind is kept unless the first fallback names another; where the controller was started
  with a configuration, and there is no kind in that nor in the working one, it may be inferred -/
  kind : after.config.kind = (before.fallbackKind? data schema).or before.config.kind ∨
    (before.initial.isSome ∧ (before.fallbackKind? data schema).or before.config.kind = none ∧
      after.config.kind = (defaultConfig data schema none).kind)

theorem fallsBack_validate (dangling : ¬ c.config.fits schema) (data : Dataset) :
    c.FallsBack data schema (c.validate data schema).2.1 := by
  have display := c.display_fallBack data schema
  rw [fst_snd_validate_of_dangling dangling]
  constructor
  case fits => exact ChartConfig.fits_iff.mp (c.fits_fallBack data schema)
  case selection =>
    intro record inside
    exact (Selection.isBoundIn_retainBound _ _ record inside).2
  case kind => exact c.kind_fallBack data schema
  case hideLegend =>
    refine (congrArg ChartConfig.hideLegend display).trans ?_
    cases c.initial <;> rfl
  case showTitle =>
    refine (congrArg ChartConfig.showTitle display).trans ?_
    cases c.initial <;> rfl
  case scaleX =>
    refine (congrArg ChartConfig.scaleX display).trans ?_
    cases c.initial <;> rfl
  case scaleY =>
    refine (congrArg ChartConfig.scaleY display).trans ?_
    cases c.initial <;> rfl

/-- **The fallback chain settles.** Validating answers true if and only if every bound field is
a column of the schema, and then changes and reports nothing. Otherwise the controller falls
back to a configuration that is grounded in the schema. Either way, validating again with any
data answers true, and changes and reports nothing. -/
theorem validate_settles (c : ConfigController) (data : Dataset) (schema : Schema) :
    ((c.validate data schema).1 = true ↔
      ∀ channel name, c.config.field channel = some name → schema.contains name) ∧
    ((c.validate data schema).1 = true → (c.validate data schema).2 = (c, [])) ∧
    ((c.validate data schema).1 = false →
      c.FallsBack data schema (c.validate data schema).2.1) ∧
    ∀ later : Dataset, (c.validate data schema).2.1.validate later schema =
      (true, (c.validate data schema).2.1, []) := by
  rw [fst_validate]
  refine ⟨ChartConfig.fits_iff, fun fits => ?_, fun dangling => ?_, fun later => ?_⟩
  · rw [validate_of_fits fits]
  · exact fallsBack_validate (Bool.eq_false_iff.mp dangling) data
  · refine validate_of_fits ?_ later
    by_cases fits : c.config.fits schema
    · rw [validate_of_fits fits]
      exact fits
    · rw [fst_snd_validate_of_dangling fits]
      exact c.fits_fallBack data schema

/-- Bars over a segment that is gone, started with just that, fall back to default bars. -/
theorem validate_settles_stale_bars :
    let narrow : Schema :=
      ⟨[{ name := "region", type := .string }, { name := "revenue", type := .money }], by decide⟩
    let bars : ChartConfig :=
      { kind := some .bar, bindings := { x := some "segment", y := some "revenue" } }
    let c : ConfigController :=
      { config := { bars with hideLegend := some true, scaleY := some .log }
        initial := some { bars with scaleY := some .sqrt }
        selection := ⟨[[("segment", .string "home"), ("revenue", .int 3)]]⟩ }
    let settled := (c.validate .empty narrow).2.1
    (c.validate .empty narrow).1 = false ∧ c.FallsBack .empty narrow settled ∧
      (settled.validate .empty narrow).1 = true ∧
      (settled.validate .empty narrow).2 = (settled, []) := by
  intro narrow bars c settled
  obtain ⟨-, -, fallsBack, settles⟩ := validate_settles c .empty narrow
  have fails : (c.validate .empty narrow).1 = false := by decide
  have passes : (settled.validate .empty narrow).1 = true := congrArg Prod.fst (settles .empty)
  exact ⟨fails, fallsBack fails, passes, (validate_settles settled .empty narrow).2.1 passes⟩

/-- A kind can appear that neither the working configuration nor the one it was started with
names: both bind a segment that is gone, and the defaults are inferred in the end. -/
theorem not_forall_kind_kept :
    ¬ ∀ (operations : List Operation) (data : Dataset) (schema : Schema),
      let c := (({} : ConfigController).run operations).1
      let after := (c.validate data schema).2.1
      (c.validate data schema).1 = false → after.config.kind = c.config.kind ∨
        ∃ kind, c.fallbackKind? data schema = some kind ∧ after.config.kind = some kind := by
  intro kept
  let narrow : Schema :=
    ⟨[{ name := "region", type := .string }, { name := "revenue", type := .money }], by decide⟩
  let wide : Schema :=
    ⟨{ name := "segment", type := .string } :: narrow.columns, by decide⟩
  let segments : ChartConfig := { bindings := { x := some "segment" } }
  rcases kept [.start (some segments) .empty wide] .empty narrow (by decide) with
    same | ⟨kind, named, -⟩
  · exact absurd same (by decide)
  · cases named

end ConfigController

end ChartCompiler

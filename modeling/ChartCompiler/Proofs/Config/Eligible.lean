import Mathlib
import ChartCompiler.Config.Resolve

/-!
Which kinds of chart a schema can feed. `ChartKind.Requires` is what a kind draws from and
`Buckets.Feeds` what it takes to bind that by default. The list of eligible kinds, the
default configurations and the required bindings all come down to these two
(`mem_eligibleKinds`, `requires_defaultBindings`, `feeds_of_inferKind`), so that they agree
on every schema whose columns have names.
-/

namespace ChartCompiler

variable {schema : Schema}

/-! ## What a kind requires -/

/-- The channels that a kind draws from are among the bound ones. -/
def ChartKind.Requires (bound : Channel → Prop) : ChartKind → Prop
  | .bar | .barh | .line | .area | .point | .donut => bound .x ∧ bound .y
  | .heatmap => bound .x ∧ bound .y ∧ bound .color
  | .treemap => bound .x ∧ (bound .size ∨ bound .y)
  | .boxplot => bound .y
  | .beeswarm => bound .x
  | .headline => ∃ channel, bound channel
  | .usaMap => bound .geo ∨ bound .x ∧ bound .y

theorem ChartKind.Requires.mono {bound more : Channel → Prop} {kind : ChartKind}
    (le : ∀ channel, bound channel → more channel) (requires : kind.Requires bound) :
    kind.Requires more := by
  cases kind with
  | heatmap => exact ⟨le _ requires.1, le _ requires.2.1, le _ requires.2.2⟩
  | treemap => exact ⟨le _ requires.1, requires.2.imp (le _) (le _)⟩
  | boxplot => exact le _ requires
  | beeswarm => exact le _ requires
  | headline =>
    obtain ⟨channel, bound⟩ := requires
    exact ⟨channel, le channel bound⟩
  | usaMap => exact requires.imp (le _) (And.imp (le _) (le _))
  | _ => exact ⟨le _ requires.1, le _ requires.2⟩

theorem ChartKind.Requires.exists_bound {bound : Channel → Prop} {kind : ChartKind}
    (requires : kind.Requires bound) : ∃ channel, bound channel := by
  cases kind with
  | boxplot => exact ⟨_, requires⟩
  | beeswarm => exact ⟨_, requires⟩
  | headline => exact requires
  | usaMap =>
    rcases requires with geo | ⟨x, -⟩
    · exact ⟨_, geo⟩
    · exact ⟨_, x⟩
  | _ => exact ⟨_, requires.1⟩

namespace ChartConfig

/-- A channel is bound. -/
def Binds (config : ChartConfig) (channel : Channel) : Prop :=
  (config.field channel).isSome

theorem field_eq_some_iff {config : ChartConfig} {channel : Channel} {name : String} :
    config.field channel = some name ↔ config.bindings.get channel = some name ∧ name ≠ "" := by
  simp [field, Option.filter_eq_some_iff]

theorem binds_iff {config : ChartConfig} {channel : Channel} :
    config.Binds channel ↔ ∃ name, config.bindings.get channel = some name ∧ name ≠ "" := by
  unfold Binds
  rw [Option.isSome_iff_exists]
  exact exists_congr fun _ => field_eq_some_iff

theorem exists_binds_iff {config : ChartConfig} :
    (∃ channel, config.Binds channel) ↔ config.boundFields.isEmpty = false := by
  have unbound : config.boundFields.isEmpty = true ↔ ¬ ∃ channel, config.Binds channel := by
    unfold boundFields
    simp [Binds, Channel.mem_all]
  rw [← Bool.not_eq_true, unbound, not_not]

theorem hasRequiredBindings_iff {config : ChartConfig} :
    config.hasRequiredBindings ↔ ∃ kind, config.kind = some kind ∧ kind.Requires config.Binds := by
  unfold hasRequiredBindings
  cases config.kind with
  | none => simp
  | some kind =>
    cases kind with
    | headline => simp [ChartKind.Requires, exists_binds_iff]
    | _ => simp [ChartKind.Requires, Binds, and_assoc]

end ChartConfig

/-! ## Where defaults come from -/

/-- What is named, if anything, is one of the columns. -/
def Names (columns : List Column) (name : Option String) : Prop :=
  ∀ s ∈ name, ∃ column ∈ columns, column.name = s

namespace Names

variable {all columns : List Column}

theorem none : Names all none :=
  nofun

theorem firstName (inside : columns ⊆ all) : Names all (firstName columns) := by
  rintro s named
  obtain ⟨column, first, rfl⟩ := Option.map_eq_some_iff.mp named
  exact ⟨column, inside (List.mem_of_head? first), rfl⟩

theorem secondName (inside : columns ⊆ all) : Names all (secondName columns) := by
  rintro s named
  obtain ⟨column, second, rfl⟩ := Option.map_eq_some_iff.mp named
  exact ⟨column, inside (List.mem_of_getElem? second), rfl⟩

theorem firstFree (inside : columns ⊆ all) (taken : List String) :
    Names all (firstFree columns taken) := by
  rintro s named
  obtain ⟨column, free, rfl⟩ := Option.map_eq_some_iff.mp named
  exact ⟨column, inside (List.mem_of_find?_eq_some free), rfl⟩

theorem or {a b : Option String} (left : Names all a) (right : Names all b) :
    Names all (a.or b) := by
  rintro s named
  rcases Option.or_eq_some_iff.mp named with named | ⟨-, named⟩
  · exact left s named
  · exact right s named

end Names

theorem bucket_subset (b : Bucket) : schema.bucket b ⊆ schema.columns :=
  fun _ inside => List.mem_of_mem_filter inside

/-- Defaults bind channels to columns of the schema. -/
theorem names_defaultBindings (kind : ChartKind) (channel : Channel) :
    Names schema.columns ((defaultBindings kind (.of schema)).get channel) := by
  have first : ∀ b, Names schema.columns (firstName (schema.bucket b)) := fun b =>
    .firstName (bucket_subset b)
  have second : ∀ b, Names schema.columns (secondName (schema.bucket b)) := fun b =>
    .secondName (bucket_subset b)
  have free : ∀ b taken, Names schema.columns (firstFree (schema.bucket b) taken) := fun b taken =>
    .firstFree (bucket_subset b) taken
  cases kind with
  | usaMap =>
    simp only [defaultBindings]
    split
    · cases channel <;> simp [Bindings.get, Buckets.of, Names.none, first, second]
    · split
      · next geo region =>
        cases channel with
        | geo => exact region ▸ first .geographic
        | color => exact first .numeric
        | _ => exact Names.none
      · cases channel <;> exact Names.none
  | _ =>
    cases channel <;>
      simp [defaultBindings, Bindings.get, Buckets.of, Names.none, Names.or, first, second, free]

/-! ## What the columns feed -/

/-- The columns are enough to bind by default what the kind requires. -/
def Buckets.Feeds (b : Buckets) : ChartKind → Prop
  | .line | .area => b.temporal ≠ []
  | .bar | .barh | .donut | .treemap | .beeswarm => b.categorical ≠ []
  | .point => 2 ≤ b.numeric.length
  | .heatmap => 2 ≤ b.categorical.length
  | .usaMap => b.geographic ≠ [] ∨ b.hasCoordinates
  | .headline | .boxplot => True

theorem isSome_firstName (columns : List Column) : (firstName columns).isSome ↔ columns ≠ [] := by
  cases columns <;> simp [firstName]

theorem isSome_secondName (columns : List Column) :
    (secondName columns).isSome ↔ 2 ≤ columns.length := by
  rw [secondName, Option.isSome_map, Option.isSome_iff_ne_none, ne_eq, List.getElem?_eq_none_iff]
  omega

/-- A kind is bound by default if and only if there are columns to bind. -/
theorem requires_defaultBindings {b : Buckets} (measured : b.numeric ≠ []) (kind : ChartKind) :
    kind.Requires (fun channel => ((defaultBindings kind b).get channel).isSome) ↔
      b.Feeds kind := by
  have first := (isSome_firstName b.numeric).mpr measured
  cases kind with
  | usaMap =>
    simp only [defaultBindings]
    split
    · next coordinates =>
      have both := coordinates
      simp only [Buckets.hasCoordinates, Bool.and_eq_true, Bool.not_eq_true',
        List.isEmpty_eq_false_iff] at both
      simp [ChartKind.Requires, Bindings.get, Buckets.Feeds, isSome_firstName, coordinates, both]
    · next apart =>
      cases region : b.geographic with
      | nil => simp [ChartKind.Requires, Bindings.get, Buckets.Feeds, firstName, region, apart]
      | cons => simp [ChartKind.Requires, Bindings.get, Buckets.Feeds, firstName, region]
  | headline =>
    exact iff_of_true ⟨.x, first⟩ trivial
  | boxplot => exact iff_of_true first trivial
  | heatmap =>
    constructor
    · rintro ⟨-, second, -⟩
      exact (isSome_secondName b.categorical).mp second
    · intro two
      have some : b.categorical ≠ [] := List.length_pos_iff.mp (Nat.lt_of_succ_lt two)
      exact ⟨(isSome_firstName _).mpr some, (isSome_secondName _).mpr two, first⟩
  | _ =>
    simp [ChartKind.Requires, Buckets.Feeds, defaultBindings, Bindings.get, isSome_firstName,
      isSome_secondName, measured, Option.isSome_or]

theorem feeds_of_inferKind {data : Dataset} {b : Buckets} {kind : ChartKind}
    (inferred : inferKind data b = some kind) : b.Feeds kind := by
  unfold inferKind at inferred
  simp only at inferred
  split at inferred
  · next timed =>
    cases inferred
    simpa [Buckets.Feeds] using (Bool.and_eq_true_iff.mp timed).1
  · split at inferred
    · next column labelled =>
      have some : b.categorical ≠ [] := by
        rintro nil
        simp [nil] at labelled
      split at inferred <;>
      · cases inferred
        exact some
    · split at inferred
      · next two =>
        cases inferred
        exact two
      · split at inferred
        · next two =>
          cases inferred
          simpa [Buckets.Feeds] using (Bool.and_eq_true_iff.mp two).1
        · split at inferred
          · next mapped =>
            cases inferred
            simpa [Buckets.Feeds] using mapped
          · cases inferred

theorem mem_eligibleKinds (kind : ChartKind) :
    kind ∈ eligibleKinds schema ↔
      (Buckets.of schema).numeric ≠ [] ∧ (Buckets.of schema).Feeds kind := by
  unfold eligibleKinds
  by_cases measured : (Buckets.of schema).numeric = []
  · simp [measured]
  · cases kind <;> simp [measured, Buckets.Feeds]

/-- Whichever of its parts are there, the list repeats nothing. -/
theorem nodup_eligibleKinds (schema : Schema) : (eligibleKinds schema).Nodup := by
  unfold eligibleKinds
  simp only
  split_ifs <;> decide

/-! ## Default configurations -/

/-- The configuration of a kind with its default bindings. -/
def boundByDefault (schema : Schema) (kind : ChartKind) : ChartConfig :=
  { kind := some kind, bindings := defaultBindings kind (.of schema) }

/-- Either nothing is chosen by default, or a kind with its bindings. -/
theorem defaultConfig_cases (data : Dataset) (schema : Schema) (wanted : Option ChartKind) :
    (((Buckets.of schema).numeric = [] ∨ wanted.or (inferKind data (.of schema)) = none) ∧
      defaultConfig data schema wanted = {}) ∨
    ∃ kind, (Buckets.of schema).numeric ≠ [] ∧
      wanted.or (inferKind data (.of schema)) = some kind ∧
      defaultConfig data schema wanted = boundByDefault schema kind := by
  unfold defaultConfig
  simp only [List.isEmpty_iff]
  split
  · next nothing => exact .inl ⟨.inl nothing, rfl⟩
  · next measured =>
    cases chosen : wanted.or (inferKind data (.of schema)) with
    | none => exact .inl ⟨.inr rfl, rfl⟩
    | some kind => exact .inr ⟨kind, measured, rfl, rfl⟩

/-- Where columns have names, what is bound by default counts as bound. -/
theorem binds_boundByDefault (named : ∀ column ∈ schema.columns, column.name ≠ "")
    (kind : ChartKind) (channel : Channel) : (boundByDefault schema kind).Binds channel ↔
      ((defaultBindings kind (.of schema)).get channel).isSome := by
  rw [ChartConfig.binds_iff, Option.isSome_iff_exists]
  have nonempty : ∀ name, (defaultBindings kind (.of schema)).get channel = some name →
      name ≠ "" := by
    rintro name bound
    obtain ⟨column, inside, rfl⟩ := names_defaultBindings kind channel name bound
    exact named column inside
  exact exists_congr fun name => and_iff_left_of_imp (nonempty name)

theorem hasRequiredBindings_boundByDefault (named : ∀ column ∈ schema.columns, column.name ≠ "")
    (measured : (Buckets.of schema).numeric ≠ []) (kind : ChartKind) :
    (boundByDefault schema kind).hasRequiredBindings ↔ (Buckets.of schema).Feeds kind := by
  have same : (boundByDefault schema kind).Binds =
      fun channel => ((defaultBindings kind (.of schema)).get channel).isSome = true :=
    funext fun channel => propext (binds_boundByDefault named kind channel)
  rw [← requires_defaultBindings measured kind, ← same, ChartConfig.hasRequiredBindings_iff]
  simp [boundByDefault]

theorem defaultConfig_of_eligible (data : Dataset) {kind : ChartKind}
    (eligible : kind ∈ eligibleKinds schema) :
    defaultConfig data schema (some kind) = boundByDefault schema kind := by
  have measured := ((mem_eligibleKinds kind).mp eligible).1
  rcases defaultConfig_cases data schema (some kind) with
    ⟨nothing | nothing, -⟩ | ⟨_, -, ⟨⟩, isDefault⟩
  · exact absurd nothing measured
  · simp at nothing
  · exact isDefault

/-- Only an eligible kind is chosen for its fit. -/
theorem eligible_of_chosen {data : Dataset} {kind : ChartKind}
    (chosen : (defaultConfig data schema none).kind = some kind) :
    kind ∈ eligibleKinds schema ∧ defaultConfig data schema none = boundByDefault schema kind := by
  rcases defaultConfig_cases data schema none with
    ⟨-, isEmpty⟩ | ⟨inferred, measured, fits, isDefault⟩
  · rw [isEmpty] at chosen
    cases chosen
  · rw [isDefault] at chosen
    cases chosen
    rw [Option.none_or] at fits
    exact ⟨(mem_eligibleKinds kind).mpr ⟨measured, feeds_of_inferKind fits⟩, isDefault⟩

theorem hasRequiredBindings_of_eligible (named : ∀ column ∈ schema.columns, column.name ≠ "")
    {kind : ChartKind} (eligible : kind ∈ eligibleKinds schema) :
    (boundByDefault schema kind).hasRequiredBindings := by
  obtain ⟨measured, feeds⟩ := (mem_eligibleKinds kind).mp eligible
  exact (hasRequiredBindings_boundByDefault named measured kind).mpr feeds

/-- **Eligibility, defaults and requirements agree.** Where columns have names, a kind is
listed as eligible if and only if its default configuration binds all that it requires. No
kind is listed twice, and the kind that fits the data, if any, is one of them. -/
theorem eligible_iff_bound_by_default (data : Dataset) (schema : Schema)
    (named : ∀ column ∈ schema.columns, column.name ≠ "") :
    (∀ kind, kind ∈ eligibleKinds schema ↔
      (defaultConfig data schema (some kind)).hasRequiredBindings) ∧
    (eligibleKinds schema).Nodup ∧
    ∀ kind, (defaultConfig data schema none).kind = some kind →
      kind ∈ eligibleKinds schema ∧ (defaultConfig data schema none).hasRequiredBindings := by
  refine ⟨fun kind => ⟨fun eligible => ?_, fun bound => ?_⟩, nodup_eligibleKinds schema,
    fun kind chosen => ?_⟩
  · rw [defaultConfig_of_eligible data eligible]
    exact hasRequiredBindings_of_eligible named eligible
  · rcases defaultConfig_cases data schema (some kind) with
      ⟨-, isEmpty⟩ | ⟨_, measured, ⟨⟩, isDefault⟩
    · rw [isEmpty] at bound
      cases bound
    · rw [isDefault, hasRequiredBindings_boundByDefault named measured] at bound
      exact (mem_eligibleKinds kind).mpr ⟨measured, bound⟩
  · obtain ⟨eligible, isDefault⟩ := eligible_of_chosen chosen
    rw [isDefault]
    exact ⟨eligible, hasRequiredBindings_of_eligible named eligible⟩

/-- A year is a quantity, a point in time and a label at once, and coordinates are no
quantities. -/
theorem eligible_year_with_coordinates :
    let schema : Schema :=
      ⟨[{ name := "year", type := .integer, traits := ["date.year"] },
        { name := "lat", type := .float, traits := ["location.latitude"] },
        { name := "lon", type := .float, traits := ["location.longitude"] }], by decide⟩
    (∀ column ∈ schema.columns, column.name ≠ "") ∧
      (defaultConfig .empty schema (some .usaMap)).hasRequiredBindings ∧
      ¬ (defaultConfig .empty schema (some .point)).hasRequiredBindings ∧
      (defaultConfig .empty schema none).kind = some .line ∧
      (defaultConfig .empty schema none).hasRequiredBindings := by
  intro schema
  have named : ∀ column ∈ schema.columns, column.name ≠ "" := by decide
  have fits : (defaultConfig .empty schema none).kind = some .line := by decide
  have listed : ChartKind.usaMap ∈ eligibleKinds schema := by decide
  have unlisted : ChartKind.point ∉ eligibleKinds schema := by decide
  have agree := eligible_iff_bound_by_default .empty schema named
  exact ⟨named, (agree.1 .usaMap).mp listed, fun bound => unlisted ((agree.1 .point).mpr bound),
    fits, (agree.2.2 .line fits).2⟩

end ChartCompiler

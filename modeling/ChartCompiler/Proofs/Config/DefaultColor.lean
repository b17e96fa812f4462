import Mathlib
import ChartCompiler.Proofs.Config.Eligible

/-!
The colour that is bound by default. A chart over two axes is meant to be coloured by the
first label that neither axis takes, and by none only if there is no such label
(`ChartConfig.ColorsFirstFree`). Series and points pass over the columns of both axes. Bars
pass over the column of their labels alone, so that they are coloured by their second label
whatever it is. `colorsFirstFree_or_empty` says when that goes wrong: bars are asked for, and
the second label is the measure itself. Bars that are inferred cannot go wrong, because a
column that is a measure and a label carries a part of the calendar, and then a line is
inferred.
-/

namespace ChartCompiler

variable {schema : Schema} {columns : List Column}

/-! ## The first column that is free -/

theorem firstFree_congr {taken others : List String}
    (same : ∀ name, name ∈ taken ↔ name ∈ others) :
    firstFree columns taken = firstFree columns others := by
  unfold firstFree
  congr 2
  funext column
  rw [Bool.eq_iff_iff]
  simp [same]

theorem notMem_of_firstFree {taken : List String} {name : String}
    (free : firstFree columns taken = some name) : name ∉ taken := by
  obtain ⟨column, found, rfl⟩ := Option.map_eq_some_iff.mp free
  simpa using List.find?_some found

section

variable (distinct : (columns.map Column.name).Nodup)

include distinct

/-- Past the first column comes the second. -/
theorem firstFree_firstName :
    firstFree columns (firstName columns).toList = secondName columns := by
  match columns with
  | [] => rfl
  | [_] => simp [firstFree, firstName, secondName]
  | first :: second :: rest =>
    have apart : second.name ≠ first.name := by
      rintro same
      simp [same] at distinct
    simp [firstFree, firstName, secondName, apart]

/-- The second column stays the first free one if another name is taken, unless it is the
column of that name. -/
theorem firstFree_firstName_append_iff (name : String) :
    secondName columns = firstFree columns ((firstName columns).toList ++ [name]) ↔
      secondName columns ≠ some name := by
  constructor
  · intro isFree isTaken
    rw [isTaken] at isFree
    exact notMem_of_firstFree isFree.symm (by simp)
  · intro other
    match columns with
    | [] => rfl
    | [_] => simp [firstFree, firstName, secondName]
    | first :: second :: rest =>
      have apart : second.name ≠ first.name := by
        rintro same
        simp [same] at distinct
      have untaken : second.name ≠ name := by
        rintro rfl
        exact other rfl
      simp [firstFree, firstName, secondName, apart, untaken]

end

theorem names_take_two (columns : List Column) : (columns.take 2).map Column.name =
    (firstName columns).toList ++ (secondName columns).toList := by
  match columns with
  | [] => rfl
  | [_] => rfl
  | _ :: _ :: _ => rfl

theorem nodup_names_bucket (schema : Schema) (b : Bucket) :
    ((schema.bucket b).map Column.name).Nodup :=
  schema.distinct.sublist (List.filter_sublist.map Column.name)

/-! ## Free labels -/

/-- A label that neither axis takes. -/
def Column.IsFreeLabel (column : Column) (config : ChartConfig) : Prop :=
  column.isCategorical ∧ config.field .x ≠ some column.name ∧ config.field .y ≠ some column.name

/-- The colour is the first label of the schema that neither axis takes, and there is no
colour only if there is no such label. -/
structure ChartConfig.ColorsFirstFree (config : ChartConfig) (schema : Schema) : Prop where
  bound : ∀ name, config.field .color = some name → ∃ before column after,
    schema.columns = before ++ column :: after ∧ column.name = name ∧
      column.IsFreeLabel config ∧ ∀ earlier ∈ before, ¬ earlier.IsFreeLabel config
  unbound : config.field .color = none → ∀ column ∈ schema.columns, ¬ column.IsFreeLabel config

/-- The fields of the two axes. -/
def ChartConfig.axisFields (config : ChartConfig) : List String :=
  (config.field .x).toList ++ (config.field .y).toList

/-- Being coloured by the first free label comes down to one search among the labels. -/
theorem ChartConfig.colorsFirstFree_iff {config : ChartConfig} : config.ColorsFirstFree schema ↔
    config.field .color = firstFree (schema.bucket .categorical) config.axisFields := by
  let free : Column → Bool := fun column =>
    column.isCategorical && !config.axisFields.contains column.name
  have free_iff : ∀ column, free column = true ↔ column.IsFreeLabel config := by
    intro column
    simp [free, Column.IsFreeLabel, axisFields]
  have searched : firstFree (schema.bucket .categorical) config.axisFields =
      (schema.columns.find? free).map Column.name := by
    rw [firstFree, Schema.bucket, List.find?_filter]
    congr 2
    funext column
    simp [free, Bucket.holds]
  rw [searched]
  constructor
  · rintro ⟨bound, unbound⟩
    cases color : config.field .color with
    | none =>
      have nowhere : schema.columns.find? free = none := by
        refine List.find?_eq_none.mpr fun column inside isFree => ?_
        exact unbound color column inside ((free_iff column).mp isFree)
      rw [nowhere, Option.map_none]
    | some name =>
      obtain ⟨before, column, after, split, rfl, isFree, blocked⟩ := bound name color
      have found : schema.columns.find? free = some column := by
        refine List.find?_eq_some_iff_append.mpr
          ⟨(free_iff column).mpr isFree, before, after, split, fun earlier inside => ?_⟩
        simpa using (free_iff earlier).not.mpr (blocked earlier inside)
      rw [found, Option.map_some]
  · intro color
    refine ⟨fun name bound => ?_, fun unbound column inside isFree => ?_⟩
    · obtain ⟨column, found, rfl⟩ := Option.map_eq_some_iff.mp (color.symm.trans bound)
      obtain ⟨isFree, before, after, split, blocked⟩ := List.find?_eq_some_iff_append.mp found
      refine ⟨before, column, after, split, rfl, (free_iff column).mp isFree, ?_⟩
      intro earlier earlierInside
      exact (free_iff earlier).not.mp (by simpa using blocked earlier earlierInside)
    · have nowhere := Option.map_eq_none_iff.mp (color.symm.trans unbound)
      exact List.find?_eq_none.mp nowhere column inside ((free_iff column).mpr isFree)

/-! ## Default colours -/

/-- The kinds that draw over two axes and are coloured by a label. -/
def planeKinds : List ChartKind :=
  [.bar, .barh, .line, .area, .point]

/-- The second label of the schema is its first measure. -/
def Schema.RepeatsMeasure (schema : Schema) : Prop :=
  secondName (schema.bucket .categorical) = firstName (schema.bucket .numeric)

theorem field_boundByDefault (named : ∀ column ∈ schema.columns, column.name ≠ "")
    (kind : ChartKind) (channel : Channel) : (boundByDefault schema kind).field channel =
      (defaultBindings kind (.of schema)).get channel := by
  have get : (boundByDefault schema kind).bindings.get channel =
      (defaultBindings kind (.of schema)).get channel := rfl
  rw [ChartConfig.field, get]
  cases bound : (defaultBindings kind (.of schema)).get channel with
  | none => rfl
  | some name =>
    obtain ⟨column, inside, rfl⟩ := names_defaultBindings kind channel name bound
    rw [Option.filter_some, if_pos (decide_eq_true (named column inside))]

theorem colorsFirstFree_boundByDefault_iff
    (named : ∀ column ∈ schema.columns, column.name ≠ "")
    (measured : schema.bucket .numeric ≠ []) {kind : ChartKind} (plane : kind ∈ planeKinds) :
    (boundByDefault schema kind).ColorsFirstFree schema ↔
      ¬ ((kind = .bar ∨ kind = .barh) ∧ schema.RepeatsMeasure) := by
  have distinct := nodup_names_bucket schema .categorical
  obtain ⟨measure, isMeasure⟩ := Option.isSome_iff_exists.mp ((isSome_firstName _).mpr measured)
  rw [ChartConfig.colorsFirstFree_iff, ChartConfig.axisFields, field_boundByDefault named,
    field_boundByDefault named, field_boundByDefault named]
  cases kind with
  | bar =>
    have second := firstFree_firstName_append_iff distinct measure
    rw [← firstFree_firstName distinct] at second
    simpa [defaultBindings, Bindings.get, Buckets.of, Schema.RepeatsMeasure, isMeasure,
      firstFree_firstName distinct] using second
  | barh =>
    have second := firstFree_firstName_append_iff distinct measure
    have swapped : firstFree (schema.bucket .categorical)
          ((firstName (schema.bucket .categorical)).toList ++ [measure]) =
        firstFree (schema.bucket .categorical)
          (measure :: (firstName (schema.bucket .categorical)).toList) :=
      firstFree_congr fun name => by simp [or_comm]
    rw [swapped] at second
    simpa [defaultBindings, Bindings.get, Buckets.of, Schema.RepeatsMeasure, isMeasure,
      firstFree_firstName distinct] using second
  | line | area => simp [defaultBindings, Bindings.get, Buckets.of]
  | point =>
    simp only [defaultBindings, Bindings.get, Buckets.of, names_take_two]
    simp
  | _ => simp [planeKinds] at plane

/-- A measure that is a label too carries a part of the calendar. -/
theorem Column.isTemporal_of_numeric_of_categorical {column : Column} (numeric : column.isNumeric)
    (categorical : column.isCategorical) : column.isTemporal := by
  unfold isNumeric at numeric
  unfold isCategorical at categorical
  unfold isTemporal
  cases part : column.hasCalendarPart with
  | true => rw [Bool.or_true]
  | false =>
    rw [part, Bool.or_false] at categorical
    cases isType : column.type <;>
      simp [isType, ColumnType.isNumeric, ColumnType.isCategorical] at numeric categorical

/-- Bars are inferred only where nothing is a point in time. -/
theorem temporal_of_inferred_bars {data : Dataset} {b : Buckets} {kind : ChartKind}
    (inferred : inferKind data b = some kind) (bars : kind = .bar ∨ kind = .barh)
    (measured : b.numeric ≠ []) : b.temporal = [] := by
  by_contra timed
  have isLine : inferKind data b = some .line := by
    simp [inferKind, timed, measured]
  rw [isLine] at inferred
  cases inferred
  simp at bars

/-- Inferred bars do not repeat the measure. -/
theorem not_repeatsMeasure_of_inferred_bars {data : Dataset} {kind : ChartKind}
    (inferred : inferKind data (.of schema) = some kind) (bars : kind = .bar ∨ kind = .barh)
    (measured : schema.bucket .numeric ≠ []) : ¬ schema.RepeatsMeasure := by
  intro repeats
  obtain ⟨measure, isMeasure⟩ := Option.isSome_iff_exists.mp ((isSome_firstName _).mpr measured)
  rw [Schema.RepeatsMeasure, isMeasure] at repeats
  obtain ⟨label, isLabel, labelName⟩ := Option.map_eq_some_iff.mp repeats
  obtain ⟨quantity, isQuantity, quantityName⟩ := Option.map_eq_some_iff.mp isMeasure
  obtain ⟨labelInside, categorical⟩ := List.mem_filter.mp (List.mem_of_getElem? isLabel)
  obtain ⟨quantityInside, numeric⟩ := List.mem_filter.mp (List.mem_of_head? isQuantity)
  have same : label = quantity := List.inj_on_of_nodup_map schema.distinct labelInside
    quantityInside (labelName.trans quantityName.symm)
  subst same
  have timed : label ∈ schema.bucket .temporal := List.mem_filter.mpr
    ⟨labelInside, Column.isTemporal_of_numeric_of_categorical numeric categorical⟩
  have untimed : schema.bucket .temporal = [] := temporal_of_inferred_bars inferred bars measured
  rw [untimed] at timed
  cases timed

/-- **The default colour is the first free label, unless bars repeat their measure.** Where
columns have names and one of the kinds over two axes is asked for or inferred, either the
schema has nothing to measure and nothing is bound at all, or the kind is bound by default and
coloured by the first label that neither axis takes. The latter fails in one case only: bars
are asked for, and the second label is the first measure. Then that measure is the colour
too. -/
theorem colorsFirstFree_or_empty (data : Dataset) (schema : Schema) (wanted : Option ChartKind)
    {kind : ChartKind} (named : ∀ column ∈ schema.columns, column.name ≠ "")
    (asked : wanted.or (inferKind data (.of schema)) = some kind) (plane : kind ∈ planeKinds) :
    let config := defaultConfig data schema wanted
    let repeats := wanted = some kind ∧ (kind = .bar ∨ kind = .barh) ∧ schema.RepeatsMeasure
    (schema.bucket .numeric = [] ∧ config = {}) ∨
      (config.kind = some kind ∧ (config.ColorsFirstFree schema ↔ ¬ repeats) ∧
        (repeats → config.field .color = firstName (schema.bucket .numeric))) := by
  intro config repeats
  rcases defaultConfig_cases data schema wanted with
    ⟨nothing | nothing, isEmpty⟩ | ⟨other, measured, isKind, isDefault⟩
  · exact .inl ⟨nothing, isEmpty⟩
  · rw [nothing] at asked
    cases asked
  · obtain rfl : kind = other := Option.some.inj (asked.symm.trans isKind)
    refine .inr ⟨congrArg ChartConfig.kind isDefault, ?_, ?_⟩
    · have exactly := colorsFirstFree_boundByDefault_iff named measured plane
      rw [show config = boundByDefault schema kind from isDefault, exactly]
      refine not_congr ⟨fun bars => ⟨?_, bars⟩, And.right⟩
      cases wanted with
      | some given => exact asked
      | none => exact absurd bars.2 (not_repeatsMeasure_of_inferred_bars asked bars.1 measured)
    · rintro ⟨-, bars, repeated⟩
      have distinct := nodup_names_bucket schema .categorical
      rw [show config = boundByDefault schema kind from isDefault, field_boundByDefault named,
        ← repeated, ← firstFree_firstName distinct]
      rcases bars with rfl | rfl <;> rfl

/-- Bars over a region and a year, which is a measure and a label at once: asked for, they
are coloured by the year, although the segment is free. -/
theorem colors_year_of_bars :
    let schema : Schema :=
      ⟨[{ name := "region", type := .string },
        { name := "year", type := .integer, traits := ["time.year"] },
        { name := "segment", type := .string }], by decide⟩
    let config := defaultConfig .empty schema (some .bar)
    (∀ column ∈ schema.columns, column.name ≠ "") ∧ schema.RepeatsMeasure ∧
      config.kind = some .bar ∧ ¬ config.ColorsFirstFree schema ∧
      config.field .color = some "year" := by
  intro schema config
  have named : ∀ column ∈ schema.columns, column.name ≠ "" := by decide
  have repeats : schema.RepeatsMeasure := by
    unfold Schema.RepeatsMeasure
    decide
  rcases colorsFirstFree_or_empty .empty schema (some .bar) named rfl (by decide) with
    ⟨nothing, -⟩ | ⟨isBar, exactly, isColor⟩
  · exact absurd nothing (by decide)
  · exact ⟨named, repeats, isBar, fun free => exactly.mp free ⟨rfl, .inl rfl, repeats⟩,
      isColor ⟨rfl, .inl rfl, repeats⟩⟩

/-- The default colour need not be a free label: lying bars over a region and a year, asked
for, are coloured by the year on their axis. -/
theorem not_forall_colorsFirstFree :
    ¬ ∀ (data : Dataset) (schema : Schema) (wanted : Option ChartKind) (kind : ChartKind),
      (∀ column ∈ schema.columns, column.name ≠ "") →
      (defaultConfig data schema wanted).kind = some kind → kind ∈ planeKinds →
        (defaultConfig data schema wanted).ColorsFirstFree schema := by
  intro colors
  let schema : Schema :=
    ⟨[{ name := "region", type := .string },
      { name := "year", type := .integer, traits := ["time.year"] }], by decide⟩
  have free := colors .empty schema (some .barh) .barh (by decide) rfl (by decide)
  have searched := ChartConfig.colorsFirstFree_iff.mp free
  exact absurd searched (by decide)

end ChartCompiler

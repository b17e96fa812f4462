import Mathlib
import ChartCompiler.Proofs.Compile.Drawing
import ChartCompiler.Proofs.Config.Resolution

/-!
Small multiples. Binding the facet of a request to a column changes nothing that is resolved
(`resolveConfig_setField_trellis`), kept of the selection (`retainBound_setField_trellis`) or
drawn (`drawsLike_setField_trellis`). The members of a chart are apart from those of the
document around it (`disjoint_aroundChart`), so the document of the faceted request is the plain
one with its members sorted into an outer document and a cell, `facetedMembers`.
-/

namespace ChartCompiler

variable {schema : Schema} {data : Dataset}

/-! ## Binding the facet -/

namespace ChartConfig

variable {config : ChartConfig} {channel : Channel} {name : String}

theorem field_setField (named : name ≠ "") (other : Channel) :
    (config.setField channel (some name)).field other =
      if other = channel then some name else config.field other := by
  rw [field, setField, Bindings.get_set]
  split
  next => simp [Option.filter_some, named]
  next => rfl

theorem drawsLike_setField_trellis (config : ChartConfig) (value : Option String) :
    (config.setField .trellis value).DrawsLike config where
  field := by
    intro channel apart
    rw [field, setField, Bindings.get_set, if_neg apart]
    rfl
  hideLegend := rfl
  showTitle := rfl
  scaleX := rfl
  scaleY := rfl

theorem clearDangling_setField (named : name ≠ "") (column : schema.contains name) :
    (config.setField channel (some name)).clearDangling schema =
      (config.clearDangling schema).setField channel (some name) := by
  have same : ((config.setField channel (some name)).clearDangling schema).bindings =
      ((config.clearDangling schema).setField channel (some name)).bindings := by
    refine Bindings.ext_get fun other => ?_
    rw [get_clearDangling, dangles, field_setField named, setField, setField, Bindings.get_set,
      Bindings.get_set, get_clearDangling, dangles]
    by_cases own : other = channel
    · simp [own, column]
    · simp [own]
  exact congrArg (fun bindings => { config with bindings }) same

theorem overlay_setField (base : ChartConfig) (named : name ≠ "") :
    base.overlay (config.setField channel (some name)) =
      (base.overlay config).setField channel (some name) := by
  have same : (base.overlay (config.setField channel (some name))).bindings =
      ((base.overlay config).setField channel (some name)).bindings := by
    refine Bindings.ext_get fun other => ?_
    rw [get_overlay, field_setField named, setField, Bindings.get_set, get_overlay]
    by_cases own : other = channel
    · simp [own]
    · simp [own]
  exact congrArg (fun bindings => { base.overlay config with bindings }) same

theorem completed_setField (named : name ≠ "") (column : schema.contains name) :
    (config.setField channel (some name)).completed data schema =
      (config.completed data schema).setField channel (some name) := by
  rw [completed, clearDangling_setField named column, overlay_setField _ named]
  rfl

/-- No kind but a headline requires anything of the facet. -/
theorem hasRequiredBindings_setField_trellis (other : config.kind ≠ some .headline)
    (value : Option String) :
    (config.setField .trellis value).hasRequiredBindings = config.hasRequiredBindings := by
  have bound : ∀ channel ≠ .trellis,
      (config.setField .trellis value).Binds channel ↔ config.Binds channel := by
    intro channel apart
    rw [Binds, Binds, (config.drawsLike_setField_trellis value).field channel apart]
  rw [Bool.eq_iff_iff, hasRequiredBindings_iff, hasRequiredBindings_iff]
  refine exists_congr fun kind => and_congr_right fun isKind => ?_
  cases kind with
  | headline => exact absurd isKind other
  | _ => simp [ChartKind.Requires, bound]

theorem isBound_iff : config.isBound name ↔ ∃ channel, config.field channel = some name := by
  rw [isBound, boundFields, List.any_eq_true]
  simp [Channel.mem_all]

/-- Defaults leave the facet alone. -/
theorem trellis_defaultConfig (data : Dataset) (schema : Schema) (wanted : Option ChartKind) :
    (defaultConfig data schema wanted).field .trellis = none := by
  rcases defaultConfig_cases data schema wanted with ⟨-, isEmpty⟩ | ⟨kind, -, -, isDefault⟩
  · rw [isEmpty]
    rfl
  · have unbound : (defaultBindings kind (.of schema)).get .trellis = none := by
      cases kind with
      | usaMap =>
        simp only [defaultBindings]
        split
        next => rfl
        next => split <;> rfl
      | _ => rfl
    rw [isDefault, field, boundByDefault, unbound]
    rfl

end ChartConfig

/-- Resolving binds no facet. -/
theorem trellis_of_resolved {config resolved : ChartConfig}
    (isResolved : resolveConfig config data schema = .ok resolved)
    (unfaceted : config.field .trellis = none) : resolved.field .trellis = none := by
  rcases resolveConfig_eq_ok_iff.mp isResolved with ⟨-, rfl⟩ | ⟨-, rfl, -⟩
  · rw [ChartConfig.field_clearDangling, unfaceted]
    rfl
  · rw [ChartConfig.field_completed, unfaceted, Option.filter_none, Option.none_or]
    exact ChartConfig.trellis_defaultConfig ..

theorem resolveConfig_setField_trellis {config resolved : ChartConfig} {name : String}
    (isResolved : resolveConfig config data schema = .ok resolved)
    (other : resolved.kind ≠ some .headline) (named : name ≠ "") (column : schema.contains name) :
    resolveConfig (config.setField .trellis (some name)) data schema =
      .ok (resolved.setField .trellis (some name)) := by
  have cleared : (config.setField .trellis (some name)).clearDangling schema =
      (config.clearDangling schema).setField .trellis (some name) :=
    ChartConfig.clearDangling_setField named column
  rcases resolveConfig_eq_ok_iff.mp isResolved with
    ⟨required, rfl⟩ | ⟨incomplete, rfl, hasKind, -⟩
  · have still := ChartConfig.hasRequiredBindings_setField_trellis other (some name)
    rw [← cleared]
    refine resolveConfig_of_required ?_
    rw [cleared, still]
    exact required
  · have own : (config.clearDangling schema).kind ≠ some .headline := by
      intro isHeadline
      have isKind : config.kind = some .headline := isHeadline
      exact other (by rw [ChartConfig.kind_completed, isKind, Option.some_or])
    have still := ChartConfig.hasRequiredBindings_setField_trellis own (some name)
    have valid : ((config.completed data schema).setField .trellis (some name)).isValid := by
      have binds : ((config.completed data schema).setField .trellis (some name)).Binds .trellis := by
        rw [ChartConfig.Binds, ChartConfig.field_setField named, if_pos rfl]
        rfl
      have nonempty := ChartConfig.exists_binds_iff.mp ⟨_, binds⟩
      simp [ChartConfig.isValid, nonempty]
    refine resolveConfig_eq_ok_iff.mpr (.inr ⟨?_, ?_, hasKind, valid⟩)
    · rw [cleared, still]
      exact incomplete
    · exact (ChartConfig.completed_setField named column).symm

/-- The selection keeps the same fields, if binding the facet binds none of them. -/
theorem retainBound_setField_trellis (selection : Selection) {config : ChartConfig}
    {name : String} (named : name ≠ "") (unfaceted : config.field .trellis = none)
    (kept : (∀ record ∈ selection.records, name ∉ Entries.keys record) ∨
      ∃ channel ≠ Channel.trellis, config.field channel = some name) :
    selection.retainBound (config.setField .trellis (some name)) = selection.retainBound config := by
  have bound_iff : ∀ key, (config.setField .trellis (some name)).isBound key ↔
      config.isBound key ∨ key = name := by
    intro key
    rw [ChartConfig.isBound_iff, ChartConfig.isBound_iff]
    constructor
    · rintro ⟨channel, bound⟩
      rw [ChartConfig.field_setField named] at bound
      split at bound
      next => exact .inr (Option.some.inj bound).symm
      next => exact .inl ⟨channel, bound⟩
    · rintro (⟨channel, bound⟩ | rfl)
      · refine ⟨channel, ?_⟩
        have apart : channel ≠ .trellis := by
          rintro rfl
          rw [unfaceted] at bound
          cases bound
        rw [ChartConfig.field_setField named, if_neg apart]
        exact bound
      · exact ⟨.trellis, by rw [ChartConfig.field_setField named, if_pos rfl]⟩
  have same : ∀ record ∈ selection.records, ∀ entry ∈ record,
      (config.setField .trellis (some name)).isBound entry.1 = config.isBound entry.1 := by
    intro record picked entry inside
    rw [Bool.eq_iff_iff, bound_iff, or_iff_left_of_imp]
    rintro rfl
    rcases kept with absent | ⟨channel, -, bound⟩
    · exact absurd (List.mem_map_of_mem inside) (absent record picked)
    · exact ChartConfig.isBound_iff.mpr ⟨channel, bound⟩
  have records : (selection.records.map fun record => record.filter fun entry =>
      (config.setField .trellis (some name)).isBound entry.1) =
      selection.records.map fun record => record.filter fun entry => config.isBound entry.1 :=
    List.map_congr_left fun record picked => List.filter_congr (same record picked)
  rw [Selection.retainBound, records]
  rfl

/-! ## The document around the chart -/

/-- The kinds of chart that can be repeated for every value of a field. -/
def repeatableKinds : List ChartKind :=
  [.bar, .barh, .line, .area, .point, .heatmap, .donut, .boxplot]

/-- The members of a document that do not belong to the chart in it. -/
def aroundChart : List String :=
  ["$schema", "data", "width", "height", "config", "title"]

/-- A chart has no member of the document around it. -/
theorem disjoint_aroundChart {kind : ChartKind} (repeatable : kind ∈ repeatableKinds)
    {ctx : ChartContext} {chart : Fragment} (built : Chart.build kind ctx = .ok chart) :
    (Entries.keys chart.members).Disjoint aroundChart := by
  have apart : ∀ kind ∈ repeatableKinds, ∀ name ∈ Chart.memberNames kind,
      name ∉ aroundChart := by decide
  intro name inside
  exact apart kind repeatable name (Chart.keys_build built inside)

/-- The members of a document once its chart is repeated for every value of a field: the base
document, the facet, a cell that holds everything else, and the title. -/
def facetedMembers (schema : Schema) (name : String) (members : List (String × Json)) :
    List (String × Json) :=
  let facet : Json := .object
    [("field", name), ("type", measureType schema name), ("title", fieldTitle schema name)]
  let cell : Json := .object <| [("width", .string "container"), ("height", 200)] ++
    members.filter fun entry => entry.1 ∉ aroundChart
  (members.filter fun entry => entry.1 ∈ ["$schema", "data", "config"]) ++
    [("facet", facet), ("spec", cell)] ++ members.filter fun entry => entry.1 = "title"

/-- The base document with its chart repeated consists of the same members, sorted. -/
theorem members_trellis (schema : Schema) (name : String) (data : Dataset) {chart : Fragment}
    (apart : (Entries.keys chart.members).Disjoint aroundChart) :
    (trellis schema name (baseDocument data) chart).members =
      facetedMembers schema name ((baseDocument data).members ++ chart.members) := by
  have outside : ∀ entry ∈ chart.members, entry.1 ∉ aroundChart := fun entry inside =>
    apart (List.mem_map_of_mem inside)
  have outer : (chart.members.filter fun entry => entry.1 ∈ ["$schema", "data", "config"]) = [] := by
    refine List.filter_eq_nil_iff.mpr fun entry inside picked => outside entry inside ?_
    exact List.cons_subset.mpr ⟨by decide, by decide⟩ (of_decide_eq_true picked)
  have cell : (chart.members.filter fun entry => entry.1 ∉ aroundChart) = chart.members :=
    List.filter_eq_self.mpr fun entry inside => decide_eq_true (outside entry inside)
  have untitled : (chart.members.filter fun entry => entry.1 = "title") = [] := by
    refine List.filter_eq_nil_iff.mpr fun entry inside picked => outside entry inside ?_
    rw [of_decide_eq_true picked]
    decide
  have sized : ((Fragment.ofMembers [("width", "container"), ("height", 200)]).merge chart).members =
      [("width", .string "container"), ("height", 200)] ++ chart.members := by
    refine Entries.merge_of_fresh chart.distinct fun name inside taken => apart inside ?_
    have based : name ∈ ["width", "height"] := taken
    exact List.cons_subset.mpr ⟨by decide, by decide⟩ based
  have emptied : ((baseDocument data).members.filter fun entry => entry.1 ∉ aroundChart) = [] := rfl
  rw [facetedMembers]
  simp only [List.filter_append, outer, cell, untitled, emptied, List.append_nil, List.nil_append]
  rw [← sized]
  rfl

theorem untitled_baseDocument (data : Dataset) {chart : List (String × Json)}
    (apart : (Entries.keys chart).Disjoint aroundChart) :
    "title" ∉ Entries.keys ((baseDocument data).members ++ chart) := by
  rw [Entries.keys, List.map_append, List.mem_append, not_or]
  constructor
  · rw [← Entries.keys, keys_baseDocument]
    decide
  · exact fun inside => apart inside (by decide)

/-- The title stays last. -/
theorem facetedMembers_append (schema : Schema) (name : String)
    {members title : List (String × Json)} (untitled : "title" ∉ Entries.keys members)
    (titled : ∀ entry ∈ title, entry.1 = "title") :
    facetedMembers schema name (members ++ title) = facetedMembers schema name members ++ title := by
  have outer : (title.filter fun entry => entry.1 ∈ ["$schema", "data", "config"]) = [] := by
    refine List.filter_eq_nil_iff.mpr fun entry inside => ?_
    rw [titled entry inside]
    decide
  have cell : (title.filter fun entry => entry.1 ∉ aroundChart) = [] := by
    refine List.filter_eq_nil_iff.mpr fun entry inside => ?_
    rw [titled entry inside]
    decide
  have last : (title.filter fun entry => entry.1 = "title") = title :=
    List.filter_eq_self.mpr fun entry inside => decide_eq_true (titled entry inside)
  have none : (members.filter fun entry => entry.1 = "title") = [] := by
    refine List.filter_eq_nil_iff.mpr fun entry inside picked => untitled ?_
    rw [← of_decide_eq_true picked]
    exact List.mem_map_of_mem inside
  rw [facetedMembers, facetedMembers]
  simp only [List.filter_append, outer, cell, last, none, List.append_nil, List.nil_append]

namespace ChartRequest

variable {config : ChartConfig} {kind : ChartKind} {chart : Fragment}

/-- Without a facet the document is the base document, the chart and the title. -/
theorem members_plain (request : ChartRequest) (repeatable : kind ∈ repeatableKinds)
    (unfaceted : config.field .trellis = none)
    (apart : (Entries.keys chart.members).Disjoint aroundChart) :
    (Fragment.compose [request.document config kind chart, request.shownTitle config]).members =
      (baseDocument request.data).members ++ chart.members ++ (request.shownTitle config).members := by
  have encoded : ∀ kind ∈ repeatableKinds, kind.isLowLevel = false := by decide
  have isMerged : request.document config kind chart = (baseDocument request.data).merge chart := by
    rw [document, unfaceted, encoded kind repeatable]
    rfl
  have members : (request.document config kind chart).members =
      (baseDocument request.data).members ++ chart.members := by
    rw [isMerged]
    refine Entries.merge_of_fresh chart.distinct fun name inside taken => apart inside ?_
    rw [keys_baseDocument] at taken
    exact List.mem_append_left ["title"] taken
  have untitled : "title" ∉ Entries.keys (request.document config kind chart).members := by
    rw [members]
    exact untitled_baseDocument request.data apart
  rw [members_compose_shownTitle request config untitled, members]

/-- With a facet the same members are sorted. -/
theorem members_faceted (request : ChartRequest) (repeatable : kind ∈ repeatableKinds)
    {name : String} (faceted : config.field .trellis = some name)
    (apart : (Entries.keys chart.members).Disjoint aroundChart) :
    (Fragment.compose [request.document config kind chart, request.shownTitle config]).members =
      facetedMembers request.schema name
        ((baseDocument request.data).members ++ chart.members ++
          (request.shownTitle config).members) := by
  have repeated : ∀ kind ∈ repeatableKinds, kind.isLowLevel = false ∧ kind.supportsTrellis = true := by
    decide
  obtain ⟨encoded, supported⟩ := repeated kind repeatable
  have isRepeated : request.document config kind chart =
      trellis request.schema name (baseDocument request.data) chart := by
    rw [document, faceted, encoded, supported]
    rfl
  have untitled : "title" ∉ Entries.keys (request.document config kind chart).members := by
    rw [isRepeated]
    change "title" ∉ ["$schema", "data", "config", "facet", "spec"]
    decide
  rw [members_compose_shownTitle request config untitled, isRepeated,
    members_trellis request.schema name request.data apart,
    facetedMembers_append _ _ (untitled_baseDocument request.data apart)
      (request.key_of_mem_shownTitle config)]

end ChartRequest

/-- **Faceting is a pure wrapper.** A request for one of the kinds that can be repeated, which
binds no facet and compiles, still compiles when the facet is bound to a column of which the
selection does not speak, and to the same members, sorted into an outer document and a cell. -/
theorem compile_setField_trellis (request : ChartRequest) {resolved : ChartConfig}
    {kind : ChartKind} {name : String} {document : Json}
    (isResolved : resolveConfig request.config request.data request.schema = .ok resolved)
    (isKind : resolved.kind = some kind) (repeatable : kind ∈ repeatableKinds)
    (unfaceted : request.config.field .trellis = none)
    (compiled : request.compile = .ok document)
    (column : request.schema.contains name) (named : name ≠ "")
    (kept : (∀ record ∈ request.selection.records, name ∉ Entries.keys record) ∨
      ∃ channel ≠ Channel.trellis, resolved.field channel = some name) :
    ∃ members, document = .object members ∧
      { request with config := request.config.setField .trellis (some name) }.compile =
        .ok (.object (facetedMembers request.schema name members)) := by
  let facetedRequest : ChartRequest :=
    { request with config := request.config.setField .trellis (some name) }
  let faceted := resolved.setField .trellis (some name)
  have apart : resolved.kind ≠ some .headline := by
    rintro isHeadline
    have same := Option.some.inj (isKind.symm.trans isHeadline)
    subst same
    exact absurd repeatable (by decide)
  have facetedResolved : resolveConfig facetedRequest.config request.data request.schema =
      .ok faceted := resolveConfig_setField_trellis isResolved apart named column
  have stillUnfaceted : resolved.field .trellis = none := trellis_of_resolved isResolved unfaceted
  obtain ⟨_, _, chart, isResolved', isKind', built, rfl⟩ :=
    ChartRequest.exists_chart_of_compile compiled
  rw [isResolved] at isResolved'
  cases isResolved'
  rw [isKind] at isKind'
  cases isKind'
  have facetedBuilt : Chart.build kind (facetedRequest.context faceted kind) = .ok chart := by
    have retained := retainBound_setField_trellis request.selection named stillUnfaceted kept
    have like := resolved.drawsLike_setField_trellis (some name)
    exact (request.build_context_congr like retained kind).trans built
  have drawn : facetedRequest.compile = .ok (Fragment.compose
      [facetedRequest.document faceted kind chart, facetedRequest.shownTitle faceted]).toJson := by
    rw [compile_of_resolved facetedResolved (isKind : faceted.kind = some kind), facetedBuilt]
    rfl
  have outside := disjoint_aroundChart repeatable built
  have isFaceted : faceted.field .trellis = some name := by
    rw [ChartConfig.field_setField named, if_pos rfl]
  have plain := request.members_plain repeatable stillUnfaceted outside
  have sorted := facetedRequest.members_faceted repeatable isFaceted outside
  have document : facetedRequest.compile =
      .ok (.object (facetedMembers request.schema name ((baseDocument request.data).members ++
        chart.members ++ (request.shownTitle resolved).members))) := by
    rw [drawn, Fragment.toJson, sorted]
    rfl
  exact ⟨_, congrArg Json.object plain, document⟩

/-- The facet may repeat the colour that is bound by default, and then the selection may speak
of it. -/
theorem compile_setField_trellis_default_colour :
    let schema : Schema :=
      ⟨[{ name := "state", type := .string }, { name := "sales", type := .money },
        { name := "region", type := .string }], by decide⟩
    let request : ChartRequest :=
      { schema, data := .empty, selection := ⟨[[("region", .string "west")]]⟩
        config := { kind := some .bar, showTitle := some true }, title := some "Sales" }
    let resolved : ChartConfig :=
      { request.config with
        bindings := { x := some "state", y := some "sales", color := some "region" } }
    resolveConfig request.config request.data schema = .ok resolved ∧
      resolved.field .color = some "region" ∧ schema.contains "region" ∧
      ∃ members, request.compile = .ok (.object members) ∧
        { request with config := request.config.setField .trellis (some "region") }.compile =
          .ok (.object (facetedMembers schema "region" members)) := by
  intro schema request resolved
  have isResolved : resolveConfig request.config request.data schema = .ok resolved := by decide
  have isKind : resolved.kind = some .bar := rfl
  have column : schema.contains "region" := by decide
  have kept : ∃ channel ≠ Channel.trellis, resolved.field channel = some "region" :=
    ⟨.color, by decide, rfl⟩
  obtain ⟨document, compiled⟩ : ∃ document, request.compile = .ok document := ⟨_, rfl⟩
  obtain ⟨members, rfl, faceted⟩ := compile_setField_trellis request isResolved isKind
    (by decide) rfl compiled column (by decide) (.inr kept)
  exact ⟨isResolved, rfl, column, members, compiled, faceted⟩

end ChartCompiler

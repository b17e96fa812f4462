import Mathlib
import ChartCompiler.Compile
import ChartCompiler.Proofs.Fragment

/-!
What a chart is drawn from, and what it consists of. A builder reads the fields bound outside
the facet, the scales and the flags, and nothing else of a configuration, so configurations
that agree in these are drawn alike (`build_congr`). The members of what is drawn are those
of its kind, `Chart.memberNames` (`keys_build`).
-/

namespace ChartCompiler

/-! ## What is read -/

/-- The two configurations agree in all that is drawn from: the fields bound to channels other
than the facet, and the display settings. -/
structure ChartConfig.DrawsLike (a b : ChartConfig) : Prop where
  field : ∀ channel ≠ .trellis, a.field channel = b.field channel
  hideLegend : a.hideLegend = b.hideLegend
  showTitle : a.showTitle = b.showTitle
  scaleX : a.scaleX = b.scaleX
  scaleY : a.scaleY = b.scaleY

namespace ChartConfig.DrawsLike

variable {a b : ChartConfig} (like : a.DrawsLike b)

include like

/-- The bound fields outside the facet are the same, in the same order. -/
theorem boundFields :
    (a.boundFields.filter fun entry => entry.1 ≠ .trellis) =
      b.boundFields.filter fun entry => entry.1 ≠ .trellis := by
  rw [ChartConfig.boundFields, ChartConfig.boundFields, List.filter_filterMap,
    List.filter_filterMap]
  congr 1
  funext channel
  by_cases facet : channel = .trellis
  · subst facet
    cases a.field .trellis <;> cases b.field .trellis <;> rfl
  · rw [like.field channel facet]

theorem tooltipFields (schema : Schema) :
    ChartCompiler.tooltipFields schema a = ChartCompiler.tooltipFields schema b := by
  have shown : ∀ config : ChartConfig, ChartCompiler.tooltipFields schema config =
      (((config.boundFields.filter fun entry => entry.1 ≠ .trellis).filter
        fun entry => schema.contains entry.2).map Prod.snd).eraseDups := by
    intro config
    rw [List.filter_filter, ChartCompiler.tooltipFields]
    simp only [Bool.and_comm]
  rw [shown, shown, like.boundFields]

theorem legendOf (mobile : Bool) :
    ChartCompiler.legendOf a mobile = ChartCompiler.legendOf b mobile := by
  rw [ChartCompiler.legendOf, ChartCompiler.legendOf, hidesLegend, hidesLegend, like.hideLegend]

theorem colorEncoding (schema : Schema) (field : Option String) (mobile : Bool) :
    ChartCompiler.colorEncoding schema a field mobile =
      ChartCompiler.colorEncoding schema b field mobile := by
  unfold ChartCompiler.colorEncoding
  simp only [like.legendOf]

theorem sizeEncoding (schema : Schema) (field : Option String) (mobile : Bool) :
    ChartCompiler.sizeEncoding schema a field mobile =
      ChartCompiler.sizeEncoding schema b field mobile := by
  unfold ChartCompiler.sizeEncoding
  simp only [like.legendOf]

theorem sharedEncoding (schema : Schema) (kind : ChartKind) (mobile : Bool) :
    ChartCompiler.sharedEncoding schema a kind mobile =
      ChartCompiler.sharedEncoding schema b kind mobile := by
  have color : a.field .color = b.field .color := like.field .color (by decide)
  simp only [ChartCompiler.sharedEncoding, color, like.colorEncoding]

/-- A chart is drawn from what the two configurations agree in. -/
theorem build (kind : ChartKind) (ctx : ChartContext) :
    Chart.build kind { ctx with config := a } = Chart.build kind { ctx with config := b } := by
  have x := like.field .x (by decide)
  have y := like.field .y (by decide)
  have y2 := like.field .y2 (by decide)
  have color := like.field .color (by decide)
  have size := like.field .size (by decide)
  have group := like.field .group (by decide)
  have geo := like.field .geo (by decide)
  have note := like.field .note (by decide)
  cases kind with
  | bar =>
    simp only [Chart.build, Chart.bar, ChartContext.field, x, y, like.scaleY]
    rfl
  | barh =>
    simp only [Chart.build, Chart.barh, ChartContext.field, x, y, like.scaleX]
    rfl
  | line | area =>
    simp only [Chart.build, Chart.series, Chart.primaryLayer, Chart.secondaryLayer,
      Chart.brushParam, Chart.seriesSelectParam, ChartContext.field, x, y, y2, color, like.scaleX,
      like.scaleY]
    rfl
  | point =>
    simp only [Chart.build, Chart.point, ChartContext.field, x, y, size, note, like.scaleX,
      like.scaleY, like.sizeEncoding]
    rfl
  | heatmap =>
    simp only [Chart.build, Chart.heatmap, ChartContext.field, x, y, color]
    rfl
  | donut =>
    simp only [Chart.build, Chart.donut, ChartContext.field, x, y]
    rfl
  | boxplot =>
    simp only [Chart.build, Chart.boxplot, ChartContext.field, y, group, like.scaleY]
    rfl
  | treemap =>
    simp only [Chart.build, Chart.treemap, x, y, size]
    rfl
  | beeswarm =>
    simp only [Chart.build, Chart.beeswarm, Chart.swarmScales, Chart.swarmNodes, Chart.dotSize,
      Chart.dotRadius, Chart.swarmTooltip, ChartContext.field, x, color, size, like.boundFields]
    rfl
  | headline => rfl
  | usaMap =>
    have joined : [Channel.color, .size, .geo].filterMap a.field =
        [Channel.color, .size, .geo].filterMap b.field := by
      simp only [List.filterMap_cons, List.filterMap_nil, color, size, geo]
    simp only [Chart.build, Chart.map, Chart.scatterMap, Chart.mapPoints, Chart.choropleth,
      Chart.regionEncoding, joined, x, y, color, size, geo]
    rfl

end ChartConfig.DrawsLike

/-- The same in the context of a request, if the selection keeps the same fields. -/
theorem ChartRequest.build_context_congr (request : ChartRequest) {a b : ChartConfig}
    (like : a.DrawsLike b)
    (retained : request.selection.retainBound a = request.selection.retainBound b)
    (kind : ChartKind) :
    Chart.build kind (request.context a kind) = Chart.build kind (request.context b kind) := by
  have same : request.context a kind = { request.context b kind with config := a } := by
    simp only [context, retained, tooltipEntries, like.tooltipFields, like.sharedEncoding]
  rw [same]
  exact like.build kind (request.context b kind)

/-! ## What is drawn -/

namespace Chart

/-- The members of what is drawn for a kind. -/
def memberNames : ChartKind → List String
  | .bar | .barh | .heatmap | .boxplot => ["params", "mark", "encoding"]
  | .line | .area => ["layer", "resolve"]
  | .point => ["layer", "encoding"]
  | .donut => ["layer"]
  | .treemap => ["transform", "layer"]
  | .beeswarm => ["$schema", "description", "width", "height", "padding", "data", "signals",
      "scales", "axes", "marks"]
  | .headline => ["$schema", "description", "width", "height", "autosize", "data", "marks"]
  | .usaMap => ["projection", "layer", "config"]

/-- A map is one of points if both coordinates are bound, and one of regions otherwise. -/
theorem map_eq_ok {ctx : ChartContext} {chart : Fragment} (built : map ctx = .ok chart) :
    (∃ longitude latitude, ctx.config.field .x = some longitude ∧
      ctx.config.field .y = some latitude ∧ chart = scatterMap ctx longitude latitude) ∨
    ((ctx.config.field .x = none ∨ ctx.config.field .y = none) ∧
      ∃ outline geo, ctx.config.field .geo = some geo ∧ outlineOf? ctx geo = some outline ∧
        chart = choropleth ctx outline geo) := by
  unfold map at built
  split at built
  next longitude latitude isX isY =>
    exact .inl ⟨longitude, latitude, isX, isY, (Except.ok.inj built).symm⟩
  next unplaced =>
    split at built
    next => cases built
    next geo isGeo =>
      split at built
      next outline isOutline =>
        refine .inr ⟨?_, outline, geo, isGeo, isOutline, (Except.ok.inj built).symm⟩
        rw [or_iff_not_imp_left, ← ne_eq, Option.ne_none_iff_exists']
        rintro ⟨longitude, isX⟩
        exact Option.eq_none_iff_forall_ne_some.mpr fun latitude => unplaced longitude latitude isX
      next => cases built

theorem map_cases {ctx : ChartContext} {chart : Fragment} (built : map ctx = .ok chart) :
    (∃ longitude latitude, chart = scatterMap ctx longitude latitude) ∨
      ∃ outline geo, chart = choropleth ctx outline geo := by
  rcases map_eq_ok built with
    ⟨longitude, latitude, -, -, isMap⟩ | ⟨-, outline, geo, -, -, isMap⟩
  · exact .inl ⟨longitude, latitude, isMap⟩
  · exact .inr ⟨outline, geo, isMap⟩

/-- A series of one measure consists of its two layers. -/
theorem series_single {ctx : ChartContext} (single : ctx.field .y2 = "") (area : Bool) :
    series ctx area = .ofMembers
      [("layer", .array
        [(primaryLayer ctx area .ghost).toJson, (primaryLayer ctx area .filtered).toJson])] :=
  if_pos single

/-- A series of two measures consists of a pair of layers for each. -/
theorem series_double {ctx : ChartContext} (double : ctx.field .y2 ≠ "") (area : Bool) :
    series ctx area = .ofMembers
      [("layer", .array
        [.object [("layer", .array
           [(primaryLayer ctx area .ghost).toJson, (primaryLayer ctx area .filtered).toJson])],
         .object [("layer", .array
           [(secondaryLayer ctx .ghost).toJson, (secondaryLayer ctx .filtered).toJson])]]),
       ("resolve", .object [("scale", .object [("y", "independent")])])] :=
  if_neg double

/-- A map of points consists of a projection, and of the land below the points. -/
def scatterMapOver (ctx : ChartContext) (longitude latitude : String) (projection : Json)
    (outline : Outline) : Fragment :=
  .ofMembers
    [("projection", projection),
     ("layer", .array [landLayer ctx outline, mapPoints ctx longitude latitude])]

theorem scatterMap_states {ctx : ChartContext} {longitude latitude : String}
    (nationwide : Geo.isNationwideUs (placesOf ctx longitude latitude)) :
    scatterMap ctx longitude latitude =
      scatterMapOver ctx longitude latitude (.object [("type", "albersUsa")]) .states :=
  if_pos nationwide

theorem scatterMap_countries {ctx : ChartContext} {longitude latitude : String}
    (abroad : ¬ Geo.isNationwideUs (placesOf ctx longitude latitude)) :
    scatterMap ctx longitude latitude = scatterMapOver ctx longitude latitude
      (fittedProjection (placesOf ctx longitude latitude)) .countries :=
  if_neg abroad

theorem keys_ofMembers (members : List (String × Json)) :
    Entries.keys (Fragment.ofMembers members).members ⊆ Entries.keys members := by
  intro name inside
  rw [Fragment.ofMembers, Entries.keys_ofPairs] at inside
  exact List.mem_eraseDups.mp inside

theorem keys_build {kind : ChartKind} {ctx : ChartContext} {chart : Fragment}
    (built : build kind ctx = .ok chart) :
    Entries.keys chart.members ⊆ memberNames kind := by
  cases kind with
  | bar | barh | heatmap | boxplot | point | donut | beeswarm | headline =>
    cases built
    exact keys_ofMembers _
  | line | area =>
    cases built
    by_cases single : ctx.field .y2 = ""
    · rw [series_single single]
      exact List.Subset.trans (keys_ofMembers _) (List.subset_append_left _ ["resolve"])
    · rw [series_double single]
      exact keys_ofMembers _
  | treemap =>
    change treemap ctx = .ok chart at built
    unfold treemap at built
    split at built
    next => cases built
    next =>
      cases built
      exact keys_ofMembers _
  | usaMap =>
    rcases map_cases built with ⟨longitude, latitude, rfl⟩ | ⟨outline, geo, rfl⟩
    · have shown : ∀ projection outline,
          Entries.keys (scatterMapOver ctx longitude latitude projection outline).members ⊆
            memberNames .usaMap := fun projection outline =>
        List.Subset.trans (keys_ofMembers _) (List.subset_append_left _ ["config"])
      by_cases nationwide : Geo.isNationwideUs (placesOf ctx longitude latitude)
      · rw [scatterMap_states nationwide]
        exact shown _ _
      · rw [scatterMap_countries nationwide]
        exact shown _ _
    · exact keys_ofMembers _

end Chart

/-! ## The document around it -/

theorem keys_baseDocument (data : Dataset) : Entries.keys (baseDocument data).members =
    ["$schema", "data", "width", "height", "config"] :=
  rfl

namespace ChartRequest

theorem key_of_mem_shownTitle (request : ChartRequest) (config : ChartConfig) :
    ∀ entry ∈ (request.shownTitle config).members, entry.1 = "title" := by
  intro entry inside
  unfold shownTitle at inside
  split at inside
  next => exact congrArg Prod.fst (List.mem_singleton.mp inside)
  next => cases inside

/-- A document has no title before one is put on top. -/
theorem untitled_document (request : ChartRequest) (config : ChartConfig) {kind : ChartKind}
    {ctx : ChartContext} {chart : Fragment} (built : Chart.build kind ctx = .ok chart) :
    "title" ∉ Entries.keys (request.document config kind chart).members := by
  have untitled : "title" ∉ Entries.keys chart.members := by
    intro titled
    have named := Chart.keys_build built titled
    revert named
    cases kind <;> decide
  unfold document
  split
  next => exact untitled
  next =>
    split
    next =>
      change "title" ∉ ["$schema", "data", "config", "facet", "spec"]
      decide
    next =>
      intro titled
      rcases Entries.mem_keys_of_merge titled with based | drawn
      · rw [keys_baseDocument] at based
        revert based
        decide
      · exact untitled drawn

/-- The title comes last. -/
theorem members_compose_shownTitle (request : ChartRequest) (config : ChartConfig)
    {body : Fragment} (untitled : "title" ∉ Entries.keys body.members) :
    (Fragment.compose [body, request.shownTitle config]).members =
      body.members ++ (request.shownTitle config).members := by
  rw [Fragment.compose_pair]
  refine Entries.merge_of_fresh (request.shownTitle config).distinct fun name inside taken => ?_
  obtain ⟨entry, shown, rfl⟩ := List.mem_map.mp inside
  rw [request.key_of_mem_shownTitle config entry shown] at taken
  exact untitled taken

end ChartRequest

/-- What compiles was resolved to a kind and drawn, and is the document around that chart. -/
theorem ChartRequest.exists_chart_of_compile {request : ChartRequest} {document : Json}
    (compiled : request.compile = .ok document) :
    ∃ resolved kind chart,
      resolveConfig request.config request.data request.schema = .ok resolved ∧
      resolved.kind = some kind ∧
      Chart.build kind (request.context resolved kind) = .ok chart ∧
      document = (Fragment.compose
        [request.document resolved kind chart, request.shownTitle resolved]).toJson := by
  unfold compile at compiled
  cases isResolved : resolveConfig request.config request.data request.schema with
  | error failure =>
    rw [isResolved] at compiled
    cases compiled
  | ok resolved =>
    rw [isResolved] at compiled
    simp only [bind, Except.bind] at compiled
    split at compiled
    next => cases compiled
    next kind isKind =>
      cases built : Chart.build kind (request.context resolved kind) with
      | error failure =>
        rw [built] at compiled
        cases compiled
      | ok chart =>
        rw [built] at compiled
        exact ⟨resolved, kind, chart, rfl, isKind, built, (Except.ok.inj compiled).symm⟩

end ChartCompiler

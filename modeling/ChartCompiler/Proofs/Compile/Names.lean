import Mathlib
import ChartCompiler.Proofs.Compile.Drawing
import ChartCompiler.Proofs.Compile.References

/-!
Names in charts. Encodings use no names but those of the parameters that every chart made of
encodings declares, each builder declares what its kind of chart needs and uses nothing else
(`build_closed`), and the document around a chart declares nothing of its own. So no compiled
document declares a name twice or uses one that it does not declare (`compile_closed`).
-/

namespace ChartCompiler

open Json

variable {uses : List DocumentName} {schema : Schema} {field : String}

/-! ## Encodings -/

@[simp] theorem formatHint_quiet (schema : Schema) (field : String) :
    (formatHint schema field).Quiet uses := by
  unfold formatHint
  split
  all_goals first | exact Fragment.quiet_ofMembers (by simp) | exact Fragment.quiet_empty

@[simp] theorem encodeField_quiet (schema : Schema) (field : String) {added : Fragment} (titled : Bool)
    (scale : Option ScaleType) (quiet : added.Quiet uses) :
    (encodeField schema field added titled scale).Quiet uses := by
  unfold encodeField
  split
  next => exact Fragment.quiet_empty
  next =>
    have base : (Fragment.ofMembers
        [("field", .string field), ("type", .string (measureType schema field))]).Quiet uses :=
      Fragment.quiet_ofMembers (by simp)
    have titledBase : (if titled then (Fragment.ofMembers [("field", .string field),
        ("type", .string (measureType schema field))]).set "title" (fieldTitle schema field)
        else Fragment.ofMembers [("field", .string field),
          ("type", .string (measureType schema field))]).Quiet uses := by
      split
      next => exact base.set (by simp)
      next => exact base
    have encoding := (titledBase.merge (formatHint_quiet schema field)).merge quiet
    cases scale with
    | none => exact encoding
    | some s => exact encoding.set (by simp)

@[simp] theorem plainEncoding_quiet (schema : Schema) (field : String) :
    (plainEncoding schema field).Quiet uses :=
  encodeField_quiet schema field true none Fragment.quiet_empty

@[simp] theorem legendOf_quiet (config : ChartConfig) (mobile : Bool) :
    Quiet false uses (legendOf config mobile) := by
  unfold legendOf legendPlacement
  split
  next => simp
  next => split <;> simp

theorem colorEncoding_quiet (schema : Schema) (config : ChartConfig) (field : Option String)
    (mobile : Bool) (highlight : (.parameter, "highlight") ∈ uses) :
    (colorEncoding schema config field mobile).Quiet uses := by
  unfold colorEncoding
  split
  next => exact Fragment.quiet_empty
  next =>
    refine ((Fragment.quiet_ofMembers ?_).merge (formatHint_quiet schema _)).set ?_
    · simp [highlight]
    · simp [legendOf_quiet]

@[simp] theorem sizeEncoding_quiet (schema : Schema) (config : ChartConfig) (field : Option String)
    (mobile : Bool) : (sizeEncoding schema config field mobile).Quiet uses := by
  unfold sizeEncoding
  split
  next => exact Fragment.quiet_empty
  next =>
    refine ((Fragment.quiet_ofMembers ?_).merge (formatHint_quiet schema _)).set ?_
    · simp
    · simp [legendOf_quiet]

theorem sortOrder_quiet (field measure : String) :
    ∀ order ∈ sortOrder field measure, Quiet false uses order := by
  intro order given
  unfold sortOrder at given
  split at given
  next => cases given
  next =>
    cases given
    simp

theorem interactionEncodings_quiet (select : (.parameter, "select") ∈ uses)
    (highlight : (.parameter, "highlight") ∈ uses) : interactionEncodings.Quiet uses :=
  Fragment.quiet_ofMembers (by simp [select, highlight])

theorem tooltipEntries_quiet (schema : Schema) (config : ChartConfig) :
    ∀ entry ∈ tooltipEntries schema config, Quiet false uses entry := by
  intro entry inside
  obtain ⟨field, -, rfl⟩ := List.mem_map.mp inside
  exact Fragment.quiet_toJson.mpr (plainEncoding_quiet schema field)

theorem sharedEncoding_quiet (schema : Schema) (config : ChartConfig) (kind : ChartKind)
    (mobile : Bool) (highlight : (.parameter, "highlight") ∈ uses) :
    (sharedEncoding schema config kind mobile).Quiet uses := by
  have color := colorEncoding_quiet schema config
    (if kind = .heatmap then none else config.field .color) mobile highlight
  simp only [sharedEncoding]
  generalize colorEncoding schema config _ mobile = drawn at color ⊢
  split
  next => exact Fragment.quiet_empty
  next => exact Fragment.quiet_ofMembers (by simp [color])

/-- What a context brings along uses no name but that of the hovered parameter. -/
structure ChartContext.Quiet (uses : List DocumentName) (ctx : ChartContext) : Prop where
  tooltip : ∀ entry ∈ ctx.tooltip, Json.Quiet false uses entry
  shared : ctx.shared.Quiet uses

theorem ChartRequest.context_quiet (request : ChartRequest) (config : ChartConfig)
    (kind : ChartKind) (highlight : (.parameter, "highlight") ∈ uses) :
    (request.context config kind).Quiet uses where
  tooltip := tooltipEntries_quiet request.schema config
  shared := sharedEncoding_quiet request.schema config kind request.viewport.mobile highlight

/-! ## Builders -/

namespace Chart

variable {ctx : ChartContext}

/-- The parameters that most charts declare. -/
def selectionNames : List DocumentName :=
  [(.parameter, "highlight"), (.parameter, "select")]

theorem params_introduce (ctx : ChartContext) {members : List (String × Json)}
    (quiet : ∀ member ∈ members, QuietMember false uses member) :
    MembersIntroduce uses selectionNames (("params", ctx.params) :: members) := by
  refine .of_list "params" (by decide) rfl ?_ quiet
  simp [seeds, selectionParams, highlightParam, selectParam]

theorem markAndEncoding_quiet {mark : Json} {encoding : Fragment} (first : Quiet false uses mark)
    (second : encoding.Quiet uses) :
    ∀ member ∈ [("mark", mark), ("encoding", encoding.toJson)], QuietMember false uses member := by
  simp [first, second]

/-- Positions and further channels, with what shows the selection between them and what every
chart shares at the end. -/
theorem selectable_quiet (quiet : ctx.Quiet selectionNames) {positions others : Fragment}
    (placed : positions.Quiet selectionNames) (further : others.Quiet selectionNames) :
    (Fragment.compose [positions, interactionEncodings, others, ctx.shared]).Quiet
      selectionNames := by
  have interaction : interactionEncodings.Quiet selectionNames :=
    interactionEncodings_quiet (by decide) (by decide)
  refine Fragment.quiet_compose ?_
  simp [placed, interaction, further, quiet.shared]

/-! ### Bars -/

theorem barFragment_introduces (ctx : ChartContext) {encoding : Fragment}
    (quiet : encoding.Quiet uses) : (barFragment ctx encoding).Introduces uses selectionNames := by
  refine Fragment.introduces_ofMembers (by simp [Entries.keys])
    (params_introduce ctx (markAndEncoding_quiet ?_ quiet))
  simp [barMark]

@[simp] theorem valueAxis_quiet (ctx : ChartContext) (field : String) :
    (valueAxis ctx field).Quiet uses := by
  unfold valueAxis
  split
  next => exact Fragment.quiet_ofMembers (by simp)
  next => exact Fragment.quiet_empty

/-- An axis in the order of a measure. -/
@[simp] theorem sortedEncoding_quiet (schema : Schema) (field measure : String)
    {axis : List (String × Json)} (quiet : ∀ member ∈ axis, QuietMember false uses member) :
    ((encodeField schema field (.ofMembers [("axis", .object axis)]) true none).setSome "sort"
      (sortOrder field measure)).Quiet uses := by
  have added : (Fragment.ofMembers [("axis", .object axis)]).Quiet uses :=
    Fragment.quiet_ofMembers (by simpa using quiet)
  refine (encodeField_quiet schema field true none added).setSome fun order given => ?_
  simp [sortOrder_quiet field measure order given]

theorem bar_introduces (quiet : ctx.Quiet selectionNames) :
    (bar ctx).Introduces selectionNames selectionNames := by
  refine barFragment_introduces ctx (selectable_quiet quiet (Fragment.quiet_ofMembers ?_)
    (Fragment.quiet_ofMembers ?_))
  · simp
  · simpa using quiet.tooltip

theorem barh_introduces (quiet : ctx.Quiet selectionNames) :
    (barh ctx).Introduces selectionNames selectionNames := by
  refine barFragment_introduces ctx (selectable_quiet quiet (Fragment.quiet_ofMembers ?_)
    (Fragment.quiet_ofMembers ?_))
  · simp
  · simpa using quiet.tooltip

/-! ### Heatmaps and box plots -/

theorem heatmap_introduces (quiet : ctx.Quiet selectionNames) :
    (heatmap ctx).Introduces selectionNames selectionNames := by
  have encoded : ∀ encoding : Fragment, encoding.Quiet selectionNames →
      (Fragment.ofMembers [("params", ctx.params), ("mark", .string "rect"), ("encoding",
        (encoding.set "tooltip" (.array ctx.tooltip)).toJson)]).Introduces
        selectionNames selectionNames := by
    intro encoding channels
    have complete : (encoding.set "tooltip" (.array ctx.tooltip)).Quiet selectionNames :=
      channels.set (by simpa using quiet.tooltip)
    exact Fragment.introduces_ofMembers (by simp [Entries.keys])
      (params_introduce ctx (markAndEncoding_quiet (quiet_string _) complete))
  have positions : (Fragment.ofMembers
      [("x", (plainEncoding ctx.schema (ctx.field .x)).toJson),
       ("y", (plainEncoding ctx.schema (ctx.field .y)).toJson)]).Quiet selectionNames :=
    Fragment.quiet_ofMembers (by simp)
  have color : (cellColor ctx (ctx.field .color)).Quiet selectionNames :=
    (Fragment.quiet_ofMembers (by simp)).merge (formatHint_quiet ctx.schema _)
  refine encoded _ ?_
  split
  next => exact positions
  next => exact positions.set (by simp [color])

theorem boxplot_introduces (quiet : ctx.Quiet selectionNames) :
    (boxplot ctx).Introduces selectionNames selectionNames := by
  refine Fragment.introduces_ofMembers (by simp [Entries.keys])
    (params_introduce ctx (markAndEncoding_quiet ?_ ?_))
  · simp
  · refine (Fragment.quiet_ofMembers ?_).merge quiet.shared
    simpa using quiet.tooltip

/-! ### Series -/

/-- The parameters that the first measure of a series declares. -/
def seriesNames : List DocumentName :=
  [(.parameter, "highlight"), (.parameter, "select"), (.parameter, "brush")]

@[simp] theorem axisEncoding_quiet (ctx : ChartContext) (field : String) (scale : Option ScaleType) :
    (axisEncoding ctx field scale).Quiet uses := by
  have added : (Fragment.ofMembers [("axis", (formatHint ctx.schema field).toJson)]).Quiet uses :=
    Fragment.quiet_ofMembers (by simp)
  exact encodeField_quiet ctx.schema field true scale added

theorem seriesPositions_quiet (quiet : ctx.Quiet uses) : (Fragment.ofMembers
    [("x", (axisEncoding ctx (ctx.field .x) ctx.config.scaleX).toJson),
     ("y", (axisEncoding ctx (ctx.field .y) ctx.config.scaleY).toJson),
     ("tooltip", .array ctx.tooltip)]).Quiet uses :=
  Fragment.quiet_ofMembers (by simpa using quiet.tooltip)

theorem seriesMark_quiet (area : Bool) {outline : Json} (color : String)
    (quiet : Quiet false uses outline) :
    (Fragment.set (if area then (Fragment.ofMembers [("type", .string "area")]).set "line" outline
      else Fragment.ofMembers [("type", .string "line")]) "color" color).Quiet uses := by
  refine Fragment.Quiet.set ?_ (by simp)
  split
  next => exact (Fragment.quiet_ofMembers (by simp)).set (by simp [quiet])
  next => exact Fragment.quiet_ofMembers (by simp)

theorem primaryLayer_ghost_introduces (quiet : ctx.Quiet uses) (area : Bool) :
    (primaryLayer ctx area .ghost).Introduces uses seriesNames := by
  have positions := seriesPositions_quiet quiet
  have outline : Quiet false uses (.object [("color", .string ctx.palette.ghostOutline)]) := by simp
  have mark := seriesMark_quiet area ctx.palette.ghost outline
  refine Fragment.introduces_ofMembers (by simp [Entries.keys])
    (.of_list "params" (by decide) rfl ?_ (markAndEncoding_quiet ?_ ?_))
  · simp [seeds, highlightParam, seriesSelectParam, brushParam]
  · exact Fragment.quiet_toJson.mpr (by cases area <;> exact mark)
  · split
    next => exact positions
    next => exact positions.set (by simp)

theorem primaryLayer_filtered_quiet (quiet : ctx.Quiet uses) (area : Bool)
    (brush : (.parameter, "brush") ∈ uses) : (primaryLayer ctx area .filtered).Quiet uses := by
  have positions := seriesPositions_quiet quiet
  have line : Quiet false uses (.bool true) := quiet_bool true
  have mark := seriesMark_quiet area ctx.palette.filteredMark line
  refine Fragment.quiet_ofMembers (List.forall_mem_cons.mpr ⟨?_, markAndEncoding_quiet ?_ ?_⟩)
  · simp [brushFilter, brush]
  · exact Fragment.quiet_toJson.mpr (by cases area <;> exact mark)
  · split
    next => exact positions
    next => exact positions.merge quiet.shared

/-- The encoding of a second measure. -/
theorem secondEncoding_quiet (quiet : ctx.Quiet uses) : ((Fragment.ofMembers
    [("x", (encodeField ctx.schema (ctx.field .x) .empty true ctx.config.scaleX).toJson),
     ("y", (encodeField ctx.schema (ctx.field .y2) .empty true none).toJson),
     ("tooltip", .array ctx.tooltip)]).merge ctx.shared).Quiet uses :=
  (Fragment.quiet_ofMembers (by simpa using quiet.tooltip)).merge quiet.shared

theorem secondaryLayer_ghost_introduces (quiet : ctx.Quiet uses) :
    (secondaryLayer ctx .ghost).Introduces uses [(.parameter, "highlight2")] := by
  have encoding := secondEncoding_quiet quiet
  refine Fragment.introduces_ofMembers (by simp [Entries.keys])
    (.of_list "params" (by decide) rfl ?_ (markAndEncoding_quiet ?_ encoding))
  · simp [seeds, secondHighlightParam]
  · simp

theorem secondaryLayer_filtered_quiet (quiet : ctx.Quiet uses)
    (brush : (.parameter, "brush") ∈ uses) : (secondaryLayer ctx .filtered).Quiet uses := by
  have encoding := secondEncoding_quiet quiet
  exact Fragment.quiet_ofMembers (by simp [brushFilter, brush, encoding])

/-- The two layers of the first measure. -/
theorem firstLayers_introduce (quiet : ctx.Quiet uses) (brush : (.parameter, "brush") ∈ uses)
    (area : Bool) : Introduces uses seriesNames (.array
      [(primaryLayer ctx area .ghost).toJson, (primaryLayer ctx area .filtered).toJson]) := by
  have filtered := primaryLayer_filtered_quiet quiet area brush
  exact (primaryLayer_ghost_introduces quiet area).object.of_head (by simp [filtered])

/-- The two layers of the second measure. -/
theorem secondLayers_introduce (quiet : ctx.Quiet uses) (brush : (.parameter, "brush") ∈ uses) :
    Introduces uses [(.parameter, "highlight2")] (.array
      [(secondaryLayer ctx .ghost).toJson, (secondaryLayer ctx .filtered).toJson]) := by
  have filtered := secondaryLayer_filtered_quiet quiet brush
  exact (secondaryLayer_ghost_introduces quiet).object.of_head (by simp [filtered])

/-- The parameters that a series declares. -/
def allSeriesNames (ctx : ChartContext) : List DocumentName :=
  seriesNames ++ if ctx.field .y2 = "" then [] else [(.parameter, "highlight2")]

theorem series_introduces (quiet : ctx.Quiet (allSeriesNames ctx)) (area : Bool) :
    (series ctx area).Introduces (allSeriesNames ctx) (allSeriesNames ctx) := by
  have brush : (.parameter, "brush") ∈ allSeriesNames ctx :=
    List.mem_append_left _ (by decide)
  have first := firstLayers_introduce quiet brush area
  by_cases single : ctx.field .y2 = ""
  · have names : allSeriesNames ctx = seriesNames := by simp [allSeriesNames, single]
    rw [names] at first ⊢
    rw [series_single single]
    exact Fragment.introduces_ofMembers (by simp [Entries.keys])
      (.of_head "layer" (by decide) first nofun)
  · have names : allSeriesNames ctx = seriesNames ++ [(.parameter, "highlight2")] := by
      simp [allSeriesNames, single]
    have second := secondLayers_introduce quiet brush
    have grouped : ∀ {names : List DocumentName} {layers : Json},
        Introduces (allSeriesNames ctx) names layers →
          Introduces (allSeriesNames ctx) names (.object [("layer", layers)]) :=
      fun layers => (MembersIntroduce.of_head "layer" (by decide) layers
        (List.forall_mem_nil _)).object
    have layers := (grouped first).cons ((grouped second).of_head (List.forall_mem_nil _))
    rw [series_double single]
    rw [← names] at layers
    refine Fragment.introduces_ofMembers (by simp [Entries.keys])
      (.of_head "layer" (by decide) layers ?_)
    simp

/-! ### Points, slices and rectangles -/

theorem pointLabels_quiet (ctx : ChartContext) (field : String) :
    Quiet false uses (pointLabels ctx field) := by
  simp [pointLabels]

theorem point_introduces (quiet : ctx.Quiet seriesNames) :
    (point ctx).Introduces seriesNames seriesNames := by
  refine Fragment.introduces_ofMembers (by simp [Entries.keys]) (.of_head "layer" (by decide)
    (Introduces.of_head (MembersIntroduce.object
      (.of_list "params" (by decide) rfl ?_ (markAndEncoding_quiet ?_ ?_))) ?_) ?_)
  · simp [seeds, selectionParams, highlightParam, selectParam]
  · simp
  · refine (quiet.shared.setSome fun size given => ?_).set (by simpa using quiet.tooltip)
    split at given
    next => cases given
    next =>
      cases given
      simp
  · exact List.forall_mem_map.mpr fun field _ => pointLabels_quiet ctx field
  · simp

theorem sliceLabels_quiet (ctx : ChartContext) (value category : String) :
    Quiet false uses (sliceLabels ctx value category) := by
  simp [sliceLabels]

theorem donut_introduces (quiet : ctx.Quiet selectionNames) :
    (donut ctx).Introduces selectionNames selectionNames := by
  have color : ∀ legend : List (String × Json),
      (∀ member ∈ legend, QuietMember false selectionNames member) →
      ((encodeField ctx.schema (ctx.field .y) (.ofMembers [("legend", .object legend)]) true
        none).set "type" "nominal").Quiet selectionNames := by
    intro legend placed
    have added : (Fragment.ofMembers [("legend", .object legend)]).Quiet selectionNames :=
      Fragment.quiet_ofMembers (by simpa using placed)
    exact (encodeField_quiet ctx.schema _ true none added).set (by simp)
  refine Fragment.introduces_ofMembers (by simp [Entries.keys]) (.of_head "layer" (by decide)
    (Introduces.of_head (MembersIntroduce.object
      (params_introduce ctx (markAndEncoding_quiet ?_ ?_))) ?_) (List.forall_mem_nil _))
  · simp
  · refine selectable_quiet quiet (Fragment.quiet_ofMembers ?_) (Fragment.quiet_ofMembers ?_)
    · simp [color]
    · simpa using quiet.tooltip
  · simp [sliceLabels_quiet]

/-- The corners of a rectangle, and what else is encoded. -/
theorem corners_quiet {members : List (String × Json)}
    (quiet : ∀ member ∈ members, QuietMember false uses member) :
    ∀ member ∈ corners ++ members, QuietMember false uses member := by
  refine List.forall_mem_append.mpr ⟨?_, quiet⟩
  simp [corners]

theorem treemapRects_introduce (quiet : ctx.Quiet selectionNames) :
    Introduces selectionNames selectionNames (treemapRects ctx) := by
  have select : (.parameter, "select") ∈ selectionNames := by decide
  have highlight : (.parameter, "highlight") ∈ selectionNames := by decide
  refine MembersIntroduce.object (params_introduce ctx (markAndEncoding_quiet ?_ ?_))
  · simp
  · refine (Fragment.quiet_ofMembers (corners_quiet ?_)).merge quiet.shared
    simpa [select, highlight] using quiet.tooltip

theorem treemapNames_quiet (category : String) : Quiet false uses (treemapNames category) := by
  simp [treemapNames, whiteUnless, corners]

theorem treemapValues_quiet (ctx : ChartContext) (field : String) :
    Quiet false uses (treemapValues ctx field) := by
  simp [treemapValues, whiteUnless, corners]

theorem treemap_introduces (quiet : ctx.Quiet selectionNames) {chart : Fragment}
    (drawn : treemap ctx = .ok chart) : chart.Introduces selectionNames selectionNames := by
  have rects := treemapRects_introduce quiet
  unfold treemap at drawn
  split at drawn
  next => cases drawn
  next category _ =>
    cases drawn
    refine Fragment.introduces_ofMembers (by simp [Entries.keys]) (.cons_quiet ?_
      (.of_head "layer" (by decide) (rects.of_head ?_) (List.forall_mem_nil _)))
    · cases ctx.config.field .size <;> cases ctx.config.field .y <;> simp [treemapTransform]
    · refine List.forall_mem_cons.mpr ⟨treemapNames_quiet category, ?_⟩
      exact List.forall_mem_map.mpr fun field _ => treemapValues_quiet ctx field

/-! ### Maps -/

theorem mapParams_introduce (ctx : ChartContext) {members : List (String × Json)}
    (quiet : ∀ member ∈ members, QuietMember false uses member) :
    MembersIntroduce uses selectionNames (("params", mapParams ctx) :: members) := by
  refine .of_list "params" (by decide) rfl ?_ quiet
  simp [seeds]

theorem source_quiet (outline : Outline) : QuietMember false uses ("data", outline.source) := by
  cases outline <;> simp [Outline.source]

theorem landLayer_quiet (ctx : ChartContext) (outline : Outline) :
    Quiet false uses (landLayer ctx outline) := by
  simp [landLayer, source_quiet]

@[simp] theorem mapTooltip_quiet (ctx : ChartContext) (field type : String) :
    Quiet false uses (mapTooltip ctx field type) := by
  refine Fragment.quiet_toJson.mpr ((Fragment.quiet_ofMembers (by simp)).setSome ?_)
  simp

theorem mapPointColor_quiet (ctx : ChartContext) (field : String) :
    Quiet false uses (mapPointColor ctx field) := by
  refine Fragment.quiet_toJson.mpr ?_
  split
  next => exact (Fragment.quiet_ofMembers (by simp)).set (by simp [legendPlacement])
  next => exact Fragment.quiet_ofMembers (by simp)

theorem mapPoints_introduce (ctx : ChartContext) (longitude latitude : String) :
    Introduces selectionNames selectionNames (mapPoints ctx longitude latitude) := by
  refine MembersIntroduce.object (.cons_quiet (by simp) (mapParams_introduce ctx
    (List.forall_mem_singleton.mpr ?_)))
  rw [quietMember_plain (by decide) (by decide), Fragment.quiet_toJson]
  refine (((Fragment.quiet_ofMembers ?_).setSome ?_).set ?_).set ?_
  · simp
  · simp
  · split
    next => simp [mapPointColor_quiet]
    next => simp
  · simp

theorem regionColor_quiet (ctx : ChartContext) (field : String) :
    Quiet false uses (regionColor ctx field) := by
  have title : ((Fragment.ofMembers [("title", .string (Text.words field))]).setSome "format"
      ((columnFormat ctx.schema field).map .string)).Quiet uses :=
    (Fragment.quiet_ofMembers (by simp)).setSome (by simp)
  have placement : (Fragment.ofMembers [("orient", .string "right"),
      ("anchor", .string "middle")]).Quiet uses := Fragment.quiet_ofMembers (by simp)
  simp [regionColor, title.merge placement]

theorem regionEncoding_quiet (ctx : ChartContext) (geo : String) :
    (regionEncoding ctx geo).Quiet selectionNames := by
  have select : (.parameter, "select") ∈ selectionNames := by decide
  have highlight : (.parameter, "highlight") ∈ selectionNames := by decide
  refine (Fragment.quiet_empty.setSome ?_).merge (Fragment.quiet_ofMembers ?_)
  · simp [regionColor_quiet]
  · simp [select, highlight]

theorem regionLand_quiet (ctx : ChartContext) (outline : Outline) :
    Quiet false uses (regionLand ctx outline) := by
  cases outline with
  | states => exact landLayer_quiet ctx .states
  | countries => simp [regionLand, source_quiet]

theorem fittedProjection_quiet (points : List Geo.Point) :
    Quiet false uses (fittedProjection points) := by
  unfold fittedProjection
  split <;> simp

theorem scatterMap_introduces (ctx : ChartContext) (longitude latitude : String) :
    (scatterMap ctx longitude latitude).Introduces selectionNames selectionNames := by
  have drawn : ∀ {projection outline}, Quiet false selectionNames projection →
      (scatterMapOver ctx longitude latitude projection outline).Introduces
        selectionNames selectionNames := by
    intro projection outline quiet
    have points := mapPoints_introduce ctx longitude latitude
    have layers := (landLayer_quiet ctx outline).introduces.cons
      (points.of_head (List.forall_mem_nil _))
    exact Fragment.introduces_ofMembers (by simp [Entries.keys]) (.cons_quiet (by simp [quiet])
      (.of_head "layer" (by decide) layers (List.forall_mem_nil _)))
  by_cases nationwide : Geo.isNationwideUs (placesOf ctx longitude latitude)
  · rw [scatterMap_states nationwide]
    exact drawn (by simp)
  · rw [scatterMap_countries nationwide]
    exact drawn (fittedProjection_quiet _)

theorem choropleth_introduces (ctx : ChartContext) (outline : Outline) (geo : String) :
    (choropleth ctx outline geo).Introduces selectionNames selectionNames := by
  have land : Quiet false selectionNames (regionLand ctx outline) := regionLand_quiet ctx outline
  have encoding := regionEncoding_quiet ctx geo
  refine Fragment.introduces_ofMembers (by simp [Entries.keys]) (.cons_quiet (by simp)
    (.of_head "layer" (by decide) ?_ (by simp)))
  refine land.introduces.cons (.of_head (MembersIntroduce.object (.cons_quiet (source_quiet outline)
    (.cons_quiet ?_ (mapParams_introduce ctx ?_)))) (List.forall_mem_nil _))
  · simp
  · simp [encoding]

/-! ### Swarms and headlines -/

/-- The scales that a swarm declares. -/
def scaleNames (ctx : ChartContext) : List DocumentName :=
  [(.scale, "xscale"), (.scale, "color")] ++
    (ctx.config.field .size).toList.map fun _ => (.scale, "size")

/-- The names that a swarm declares. -/
def swarmNames (ctx : ChartContext) : List DocumentName :=
  [(.dataSet, "base")] ++ scaleNames ctx

theorem declaredBy_swarmScales (ctx : ChartContext) (x color : String) :
    declaredBy ("scales", .array (swarmScales ctx x color)) = scaleNames ctx := by
  unfold swarmScales scaleNames
  cases ctx.config.field .size <;> rfl

theorem domain_quiet (extent : Extent) : Quiet false uses extent.domain := by
  simp [Extent.domain]

theorem swarmScales_quiet (ctx : ChartContext) (x color : String)
    (base : (.dataSet, "base") ∈ uses) :
    ∀ scale ∈ swarmScales ctx x color, Quiet false uses scale := by
  refine List.forall_mem_append.mpr ⟨?_, ?_⟩
  · simp [base]
  · refine List.forall_mem_map.mpr fun field _ => ?_
    split <;> simp [domain_quiet]

theorem swarmNodes_quiet (ctx : ChartContext) (x color : String) :
    Quiet false (swarmNames ctx) (swarmNodes ctx x color) := by
  have base : (.dataSet, "base") ∈ swarmNames ctx := by simp [swarmNames]
  have xscale : (.scale, "xscale") ∈ swarmNames ctx := by simp [swarmNames, scaleNames]
  have colors : (.scale, "color") ∈ swarmNames ctx := by simp [swarmNames, scaleNames]
  have size : Quiet false (swarmNames ctx) (dotSize ctx) := by
    unfold dotSize
    split
    next field bound => simp [swarmNames, scaleNames, bound]
    next => simp
  have radius : Quiet false (swarmNames ctx) (dotRadius ctx) := by
    unfold dotRadius
    split <;> simp
  simp [swarmNodes, base, xscale, colors, size, radius]

theorem beeswarm_introduces (ctx : ChartContext) :
    (beeswarm ctx).Introduces (swarmNames ctx) (swarmNames ctx) := by
  have base : (.dataSet, "base") ∈ swarmNames ctx := by simp [swarmNames]
  have xscale : (.scale, "xscale") ∈ swarmNames ctx := by simp [swarmNames, scaleNames]
  have scales := swarmScales_quiet ctx (ctx.field .x)
    ((ctx.config.field .color).getD (ctx.field .x)) base
  have nodes := swarmNodes_quiet ctx (ctx.field .x)
    ((ctx.config.field .color).getD (ctx.field .x))
  refine Fragment.introduces_ofMembers (by simp [Entries.keys]) ?_
  -- up to the data sets
  repeat refine .cons_quiet (by simp) ?_
  refine .cons_list "data" (by decide) rfl ?_ (.cons_quiet ?_
    (.of_list "scales" (by decide) (declaredBy_swarmScales ctx _ _) scales ?_))
  · simp [seeds]
  · simp [swarmSignals]
  · simp [xscale, nodes]

theorem cardValue_quiet (ctx : ChartContext) (column : Column) :
    Quiet false uses (cardValue ctx column) := by
  unfold cardValue
  split <;> simp

/-- The marks of a card take rows from the data set that a headline declares. -/
theorem cardMarks_quiet (ctx : ChartContext) (valueFont labelFont : Float) (total : Nat)
    (column : Column) (index : Nat) (base : (.dataSet, "base") ∈ uses) :
    ∀ mark ∈ cardMarks ctx valueFont labelFont total column index, Quiet false uses mark := by
  have image : ∀ place, Quiet false uses (imageMark column total place) := by
    simp [imageMark, base]
  have value : ∀ place, Quiet false uses (valueMark ctx column valueFont place) := by
    simp [valueMark, base, cardValue_quiet]
  have label : ∀ place, Quiet false uses (labelMark ctx column labelFont place) := by
    simp [labelMark]
  refine List.forall_mem_append.mpr ⟨?_, ?_⟩
  · split
    next => exact List.forall_mem_nil _
    next =>
      split
      next => exact List.forall_mem_singleton.mpr (image _)
      next => exact List.forall_mem_singleton.mpr (value _)
  · split
    next => exact List.forall_mem_nil _
    next => exact List.forall_mem_singleton.mpr (label _)

theorem headline_introduces (ctx : ChartContext) :
    (headline ctx).Introduces [(.dataSet, "base")] [(.dataSet, "base")] := by
  refine Fragment.introduces_ofMembers (by simp [Entries.keys]) ?_
  repeat refine .cons_quiet (by simp) ?_
  refine .of_list "data" (by decide) rfl ?_ (List.forall_mem_singleton.mpr ?_)
  · simp [seeds]
  · rw [quietMember_plain (by decide) (by decide), quiet_array]
    intro mark inside
    obtain ⟨⟨column, index⟩, -, onCard⟩ := List.mem_flatMap.mp inside
    exact cardMarks_quiet ctx _ _ _ column index (by decide) mark onCard

/-! ### Every kind -/

/-- The names that a chart declares. -/
def declaredNames (ctx : ChartContext) : ChartKind → List DocumentName
  | .bar | .barh | .heatmap | .boxplot | .donut | .treemap | .usaMap => selectionNames
  | .line | .area => allSeriesNames ctx
  | .point => seriesNames
  | .beeswarm => swarmNames ctx
  | .headline => [(.dataSet, "base")]

theorem nodup_declaredNames (ctx : ChartContext) (kind : ChartKind) :
    (declaredNames ctx kind).Nodup := by
  cases kind with
  | line | area =>
    simp only [declaredNames, allSeriesNames]
    split <;> decide
  | beeswarm =>
    simp only [declaredNames, swarmNames, scaleNames]
    cases ctx.config.field .size <;> simp
  | _ => simp [declaredNames, selectionNames, seriesNames]

theorem build_introduces {kind : ChartKind} {chart : Fragment}
    (quiet : ∀ uses, (.parameter, "highlight") ∈ uses → ctx.Quiet uses)
    (built : build kind ctx = .ok chart) :
    chart.Introduces (declaredNames ctx kind) (declaredNames ctx kind) := by
  cases kind with
  | bar =>
    cases built
    exact bar_introduces (quiet _ (by decide))
  | barh =>
    cases built
    exact barh_introduces (quiet _ (by decide))
  | line | area =>
    cases built
    exact series_introduces (quiet _ (List.mem_append_left _ (by decide))) _
  | point =>
    cases built
    exact point_introduces (quiet _ (by decide))
  | heatmap =>
    cases built
    exact heatmap_introduces (quiet _ (by decide))
  | donut =>
    cases built
    exact donut_introduces (quiet _ (by decide))
  | boxplot =>
    cases built
    exact boxplot_introduces (quiet _ (by decide))
  | treemap => exact treemap_introduces (quiet _ (by decide)) built
  | beeswarm =>
    cases built
    exact beeswarm_introduces ctx
  | headline =>
    cases built
    exact headline_introduces ctx
  | usaMap =>
    rcases map_cases built with ⟨longitude, latitude, rfl⟩ | ⟨outline, geo, rfl⟩
    · exact scatterMap_introduces ctx longitude latitude
    · exact choropleth_introduces ctx outline geo

end Chart

/-! ## Documents -/

theorem baseDocument_quiet (data : Dataset) : (baseDocument data).Quiet uses :=
  Fragment.quiet_ofMembers (by simp)

theorem trellis_introduces (schema : Schema) (field : String) {base chart : Fragment}
    {names : List DocumentName} (quiet : base.Quiet uses) (introduced : chart.Introduces uses names) :
    (trellis schema field base chart).Introduces uses names := by
  have size : (Fragment.ofMembers [("width", .string "container"), ("height", 200)]).Quiet uses :=
    Fragment.quiet_ofMembers (by simp)
  have cell := (size.merge_introduces introduced).object
  exact (((quiet.erase "width").erase "height").set (by simp)).set_introduces (by decide) cell

theorem ChartRequest.document_introduces (request : ChartRequest) (config : ChartConfig)
    (kind : ChartKind) {chart : Fragment} {names : List DocumentName}
    (introduced : chart.Introduces uses names) :
    (request.document config kind chart).Introduces uses names := by
  have base : (baseDocument request.data).Quiet uses := baseDocument_quiet request.data
  unfold document
  split
  next => exact introduced
  next =>
    split
    next => exact trellis_introduces request.schema _ base introduced
    next => exact base.merge_introduces introduced

theorem ChartRequest.shownTitle_quiet (request : ChartRequest) (config : ChartConfig) :
    (request.shownTitle config).Quiet uses := by
  unfold shownTitle
  split
  next => exact Fragment.quiet_ofMembers (by simp)
  next => exact Fragment.quiet_empty

/-- **No name dangles.** Whatever compiles declares no name twice, and declares every name it
uses: the parameters named by conditions and filters, the scales named by marks and axes, and
the data sets named by marks and by the domains of scales. -/
theorem compile_closed {request : ChartRequest} {document : Json}
    (compiled : request.compile = .ok document) : document.Closed := by
  obtain ⟨resolved, kind, chart, -, -, built, rfl⟩ :=
    ChartRequest.exists_chart_of_compile compiled
  let ctx := request.context resolved kind
  have drawn : chart.Introduces (Chart.declaredNames ctx kind) (Chart.declaredNames ctx kind) :=
    Chart.build_introduces (fun _ => request.context_quiet resolved kind) built
  have body := request.document_introduces resolved kind drawn
  have untitled := request.untitled_document resolved built
  have document := Json.MembersIntroduce.append_quiet body (request.shownTitle_quiet resolved)
  rw [← request.members_compose_shownTitle resolved untitled] at document
  have collected := document.object
  exact ⟨collected.declared.nodup_iff.mpr (Chart.nodup_declaredNames ctx kind),
    fun name isUsed => collected.declared.mem_iff.mpr (collected.used name isUsed)⟩

/-- A faceted area chart with two measures and a title. -/
theorem compile_closed_two_measures :
    let schema : Schema :=
      ⟨[{ name := "day", type := .date }, { name := "sales", type := .money },
        { name := "cost", type := .money }, { name := "region", type := .string }], by decide⟩
    let bindings : Bindings :=
      { x := some "day", y := some "sales", y2 := some "cost", color := some "region",
        trellis := some "region" }
    let request : ChartRequest :=
      { schema, data := .empty, title := some "Sales"
        config := { kind := some .area, showTitle := some true, bindings } }
    ∃ document, request.compile = .ok document ∧ document.Closed := by
  intro schema bindings request
  obtain ⟨document, compiled⟩ : ∃ document, request.compile = .ok document := ⟨_, rfl⟩
  exact ⟨document, compiled, compile_closed compiled⟩

end ChartCompiler

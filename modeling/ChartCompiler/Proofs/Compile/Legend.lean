import Mathlib
import ChartCompiler.Proofs.Compile.Channels

/-!
Hidden legends. The encodings that charts share write no legend when legends are hidden, but some
builders write a colour or a size of their own and do not ask whether there should be a legend:
a donut for its slices, unless the shared colour is laid over it, a heatmap for its cells, and
both kinds of maps. `hidesLegends_iff` says that a document hides all legends unless its builder
draws one of its own, and which configurations these are.
-/

namespace ChartCompiler

/-- A colour or a size that encodes a field has the legend `null`, which hides it. -/
def HidesLegend (channel : String × Json) : Prop :=
  channel.1 ∈ ["color", "size"] → (channel.2.member? "field").isSome →
    channel.2.member? "legend" = some .null

/-- Every legend of the document is hidden. -/
def Json.HidesLegends (document : Json) : Prop :=
  document.EachChannel HidesLegend

/-- The builder of the kind writes a colour or a size of its own over a field, and nothing is laid
over it. -/
def ChartConfig.DrawsOwnLegend (config : ChartConfig) : ChartKind → Prop
  | .donut => config.Binds .y ∧ ¬ config.Binds .color
  | .heatmap => config.Binds .color
  | .usaMap => config.Binds .color ∨ (config.Binds .x ∧ config.Binds .y ∧ config.Binds .size)
  | _ => False

/-! ## Channels -/

section

variable {key : String} {value : Json}

@[simp] theorem hidesLegend_of_key (other : key ∉ ["color", "size"]) : HidesLegend (key, value) :=
  fun named => absurd named other

theorem hidesLegend_of_unnamed (unnamed : value.member? "field" = none) :
    HidesLegend (key, value) := by
  intro _ named
  rw [unnamed] at named
  cases named

theorem hidesLegend_of_null (hidden : value.member? "legend" = some .null) :
    HidesLegend (key, value) :=
  fun _ _ => hidden

/-- A legend that is written, or left to the engine, is not hidden. -/
theorem not_hidesLegend (isKey : key ∈ ["color", "size"])
    (named : (value.member? "field").isSome) (shown : value.member? "legend" ≠ some .null) :
    ¬ HidesLegend (key, value) :=
  fun hides => shown (hides isKey named)

end

section

variable {config : ChartConfig} (schema : Schema) (field : Option String) (mobile : Bool)

theorem setLegend_hidesLegend (key : String) (f : Fragment) (hidden : config.hidesLegend) :
    HidesLegend (key, (f.set "legend" (legendOf config mobile)).toJson) := by
  refine hidesLegend_of_null ?_
  rw [Fragment.member?_toJson, Fragment.get?_set, if_pos rfl, legendOf, if_pos hidden]

theorem colorEncoding_hidesLegend (hidden : config.hidesLegend) :
    HidesLegend ("color", (colorEncoding schema config field mobile).toJson) := by
  unfold colorEncoding
  split
  next => exact hidesLegend_of_unnamed rfl
  next => exact setLegend_hidesLegend mobile "color" _ hidden

theorem sizeEncoding_hidesLegend (hidden : config.hidesLegend) :
    HidesLegend ("size", (sizeEncoding schema config field mobile).toJson) := by
  unfold sizeEncoding
  split
  next => exact hidesLegend_of_unnamed rfl
  next => exact setLegend_hidesLegend mobile "size" _ hidden

end

/-! ## Builders that hide every legend -/

namespace Chart

variable {ctx : ChartContext}

/-- A chart with one encoding. -/
theorem eachChannel_single {p : String × Json → Prop} {params mark : Json} {encoding : Fragment} :
    (Fragment.ofMembers
      [("params", params), ("mark", mark), ("encoding", encoding.toJson)]).toJson.EachChannel p ↔
      encoding.All p := by
  rw [Fragment.eachChannel_toJson, Fragment.all_ofMembers_iff (by simp [Entries.keys])]
  simp

/-- Positions and further channels, with what shows the selection between them and what every
chart shares at the end. -/
theorem selectable_hides {positions others shared : Fragment} (placed : positions.All HidesLegend)
    (further : others.All HidesLegend) (above : shared.All HidesLegend) :
    (Fragment.compose [positions, interactionEncodings, others, shared]).All HidesLegend := by
  have interaction : interactionEncodings.All HidesLegend := Fragment.all_ofMembers (by simp)
  refine Fragment.all_compose ?_
  simp [placed, interaction, further, above]

theorem bar_hidesLegends (shared : ctx.shared.All HidesLegend) :
    (bar ctx).toJson.HidesLegends :=
  eachChannel_single.mpr (selectable_hides (Fragment.all_ofMembers (by simp))
    (Fragment.all_ofMembers (by simp)) shared)

theorem barh_hidesLegends (shared : ctx.shared.All HidesLegend) :
    (barh ctx).toJson.HidesLegends :=
  eachChannel_single.mpr (selectable_hides (Fragment.all_ofMembers (by simp))
    (Fragment.all_ofMembers (by simp)) shared)

theorem boxplot_hidesLegends (shared : ctx.shared.All HidesLegend) :
    (boxplot ctx).toJson.HidesLegends :=
  eachChannel_single.mpr ((Fragment.all_ofMembers (by simp)).merge shared)

theorem series_hidesLegends (shared : ctx.shared.All HidesLegend) (area : Bool) :
    (series ctx area).toJson.HidesLegends := by
  refine all_channels_series ?_ ?_ (fun key other value => hidesLegend_of_key ?_) shared area
  · simp
  · simp
  · revert other
    simp only [List.mem_cons, List.not_mem_nil, or_false]
    rintro (rfl | rfl | rfl) <;> decide

/-- A chart that consists of layers. -/
theorem eachChannel_layers {p : String × Json → Prop} {views : List Json} :
    (Fragment.ofMembers [("layer", .array views)]).toJson.EachChannel p ↔
      ∀ view ∈ views, view.EachChannel p := by
  rw [Fragment.eachChannel_toJson, Fragment.all_ofMembers_iff (by simp [Entries.keys])]
  simp

/-- A view with one encoding. -/
theorem eachChannel_view {p : String × Json → Prop} {params mark : Json} {encoding : Fragment} :
    (Json.object
      [("params", params), ("mark", mark), ("encoding", encoding.toJson)]).EachChannel p ↔
      encoding.All p := by
  simp

theorem pointLabels_hidesLegends (ctx : ChartContext) (field : String) :
    (pointLabels ctx field).HidesLegends := by
  have color : HidesLegend ("color", .object [("value", .string ctx.palette.pointLabel)]) :=
    hidesLegend_of_unnamed rfl
  simp [pointLabels, Json.HidesLegends, color]

theorem point_hidesLegends (shared : ctx.shared.All HidesLegend) (hidden : ctx.config.hidesLegend) :
    (point ctx).toJson.HidesLegends := by
  have size := sizeEncoding_hidesLegend ctx.schema (ctx.config.field .size) ctx.viewport.mobile
    hidden
  refine Fragment.eachChannel_toJson.mpr (Fragment.all_ofMembers (List.forall_mem_cons.mpr
    ⟨Json.eachOfMember_layer.mpr (Json.eachChannel_array.mpr (List.forall_mem_cons.mpr
      ⟨eachChannel_view.mpr ?_, ?_⟩)), ?_⟩))
  · refine (shared.setSome fun value given => ?_).set (by simp)
    split at given
    next => cases given
    next => exact Option.some.inj given ▸ size
  · exact List.forall_mem_map.mpr fun field _ => pointLabels_hidesLegends ctx field
  · simp

theorem treemapRects_hidesLegends (shared : ctx.shared.All HidesLegend) :
    (treemapRects ctx).HidesLegends :=
  eachChannel_view.mpr ((Fragment.all_ofMembers (by simp [corners])).merge shared)

/-- Texts are white, or nothing: their colour encodes no field. -/
theorem whiteUnless_hidesLegend (test : String) : HidesLegend ("color", whiteUnless test) :=
  hidesLegend_of_unnamed rfl

theorem treemapNames_hidesLegends (category : String) : (treemapNames category).HidesLegends := by
  simp [treemapNames, Json.HidesLegends, corners, whiteUnless_hidesLegend]

theorem treemapValues_hidesLegends (ctx : ChartContext) (field : String) :
    (treemapValues ctx field).HidesLegends := by
  simp [treemapValues, Json.HidesLegends, corners, whiteUnless_hidesLegend]

theorem treemap_hidesLegends (shared : ctx.shared.All HidesLegend) {chart : Fragment}
    (drawn : treemap ctx = .ok chart) : chart.toJson.HidesLegends := by
  unfold treemap at drawn
  split at drawn
  next => cases drawn
  next category _ =>
    cases drawn
    refine Fragment.eachChannel_toJson.mpr (Fragment.all_ofMembers (List.forall_mem_cons.mpr
      ⟨by simp, List.forall_mem_singleton.mpr (Json.eachOfMember_layer.mpr
        (Json.eachChannel_array.mpr (List.forall_mem_append.mpr ⟨?_, ?_⟩)))⟩))
    · exact List.forall_mem_cons.mpr ⟨treemapRects_hidesLegends shared,
        List.forall_mem_singleton.mpr (treemapNames_hidesLegends category)⟩
    · exact List.forall_mem_map.mpr fun field _ => treemapValues_hidesLegends ctx field

/-! ## Builders that write a legend of their own -/

theorem field_eq_empty_iff {channel : Channel} :
    ctx.field channel = "" ↔ ¬ ctx.config.Binds channel := by
  unfold ChartContext.field ChartConfig.Binds
  cases bound : ctx.config.field channel with
  | none => simp
  | some name => simp [(ChartConfig.field_eq_some_iff.mp bound).2]

theorem get?_formatHint_legend (schema : Schema) (field : String) :
    (formatHint schema field).get? "legend" = none := by
  unfold formatHint
  split <;> rfl

theorem cellColor_showsLegend (ctx : ChartContext) (field : String) :
    ¬ HidesLegend ("color", (cellColor ctx field).toJson) := by
  refine not_hidesLegend (by decide) ?_ ?_
  · rw [Fragment.member?_toJson, cellColor, Fragment.get?_merge]
    cases (formatHint ctx.schema field).get? "field" <;> rfl
  · rw [Fragment.member?_toJson, cellColor, Fragment.get?_merge, get?_formatHint_legend]
    exact nofun

theorem heatmap_hidesLegends_iff :
    (heatmap ctx).toJson.HidesLegends ↔ ¬ ctx.config.Binds .color := by
  rw [← field_eq_empty_iff]
  refine eachChannel_single.trans ?_
  by_cases uncolored : ctx.field .color = ""
  · rw [if_pos uncolored]
    refine iff_of_true (Fragment.All.set ?_ (by simp)) uncolored
    exact Fragment.all_ofMembers (by simp)
  · rw [if_neg uncolored]
    refine iff_of_false (fun all => ?_) uncolored
    exact cellColor_showsLegend ctx _ (all ("color", _) (Entries.mem_of_get? rfl))

/-- The colour of a donut's slices, by their labels. -/
def sliceColor (ctx : ChartContext) (category : String) : Fragment :=
  (encodeField ctx.schema category (.ofMembers
    [("legend", .object
      [("title", if category = "" then "Category" else category), ("orient", "right")])])
    true none).set "type" "nominal"

theorem sliceColor_hidesLegend_iff {category : String} :
    HidesLegend ("color", (sliceColor ctx category).toJson) ↔ category = "" := by
  by_cases unnamed : category = ""
  · subst unnamed
    exact iff_of_true (hidesLegend_of_unnamed rfl) rfl
  · refine iff_of_false (not_hidesLegend (by decide) ?_ ?_) unnamed
    · rw [Fragment.member?_toJson, sliceColor, Fragment.get?_set, encodeField,
        if_neg (by decide), if_neg unnamed]
      dsimp only
      rw [Fragment.get?_merge, Fragment.get?_merge]
      cases (formatHint ctx.schema category).get? "field" <;> rfl
    · rw [Fragment.member?_toJson, sliceColor, Fragment.get?_set, encodeField,
        if_neg (by decide), if_neg unnamed]
      dsimp only
      rw [Fragment.get?_merge]
      exact nofun

/-- The slices of a donut are coloured by the shared channel if there is one, and else by their
labels, with a legend beside the chart. -/
theorem donut_hidesLegends_iff (shared : ctx.shared.All HidesLegend)
    (colored : ctx.config.Binds .color → "color" ∈ Entries.keys ctx.shared.members)
    (uncolored : ¬ ctx.config.Binds .color → ctx.shared = .empty) :
    (donut ctx).toJson.HidesLegends ↔ ¬ (ctx.config.Binds .y ∧ ¬ ctx.config.Binds .color) := by
  let positions := Fragment.ofMembers
    [("theta", .object [("type", "quantitative"), ("field", ctx.field .x)]),
     ("color", (sliceColor ctx (ctx.field .y)).toJson)]
  let others := Fragment.ofMembers
    [("tooltip", .array ctx.tooltip),
     ("order", .object [("field", ctx.field .x), ("sort", "descending")])]
  have isEncoding : (donut ctx).toJson.HidesLegends ↔
      (Fragment.compose [positions, interactionEncodings, others, ctx.shared]).All
        HidesLegend := by
    have labels : (sliceLabels ctx (ctx.field .x) (ctx.field .y)).HidesLegends := by
      simp [sliceLabels, Json.HidesLegends]
    refine eachChannel_layers.trans ?_
    rw [List.forall_mem_cons, List.forall_mem_singleton, eachChannel_view]
    exact and_iff_left labels
  rw [isEncoding]
  by_cases isColored : ctx.config.Binds .color
  · refine iff_of_true ?_ fun draws => draws.2 isColored
    have below : (Fragment.compose [positions, interactionEncodings, others]).All
        fun channel => channel.1 ≠ "color" → HidesLegend channel := by
      refine Fragment.all_compose ?_
      have interaction : interactionEncodings.All
          fun channel => channel.1 ≠ "color" → HidesLegend channel :=
        Fragment.all_ofMembers (by simp)
      simp only [List.forall_mem_cons, List.not_mem_nil, false_implies, implies_true, and_true]
      exact ⟨Fragment.all_ofMembers (by simp), interaction, Fragment.all_ofMembers (by simp)⟩
    exact Fragment.all_merge_iff.mpr ⟨fun channel inside uncovered =>
      below channel inside fun isColor => uncovered (isColor ▸ colored isColored), shared⟩
  · rw [uncolored isColored, and_iff_left isColored, ← field_eq_empty_iff,
      ← sliceColor_hidesLegend_iff]
    constructor
    · exact fun all => all ("color", _) (Entries.mem_of_get? rfl)
    · intro color
      exact selectable_hides (Fragment.all_ofMembers (by simp [color]))
        (Fragment.all_ofMembers (by simp)) Fragment.all_empty

theorem mapPointColor_showsLegend (ctx : ChartContext) (field : String) :
    ¬ HidesLegend ("color", mapPointColor ctx field) := by
  unfold mapPointColor
  dsimp only
  split
  next => exact not_hidesLegend (by decide) rfl nofun
  next => exact not_hidesLegend (by decide) rfl nofun

/-- Positions, with a size if there is one, a colour and a tooltip. -/
theorem all_hidesLegend_points_iff {positions : Fragment} {size : Option Json}
    {color tooltip : Json} (placed : positions.All HidesLegend) :
    (((positions.setSome "size" size).set "color" color).set "tooltip" tooltip).All HidesLegend ↔
      HidesLegend ("color", color) ∧ ∀ dot ∈ size, HidesLegend ("size", dot) := by
  constructor
  · intro all
    refine ⟨all ("color", color) (Entries.mem_of_get? ?_), ?_⟩
    · exact (Fragment.get?_set ..).trans (Fragment.get?_set ..)
    · rintro dot rfl
      refine all ("size", dot) (Entries.mem_of_get? ?_)
      exact (Fragment.get?_set ..).trans ((Fragment.get?_set ..).trans (Fragment.get?_set ..))
  · rintro ⟨colored, sized⟩
    exact ((placed.setSome sized).set colored).set (by simp)

/-- Points have no colour and no size of their own unless these are bound. -/
theorem mapPoints_hidesLegends_iff (longitude latitude : String)
    (fits : ∀ field, ctx.config.field .color = some field → ctx.schema.contains field) :
    (mapPoints ctx longitude latitude).HidesLegends ↔
      ¬ (ctx.config.Binds .color ∨ ctx.config.Binds .size) := by
  have views : ∀ {mark params : Json} {encoding : Fragment}, (Json.object
      [("mark", mark), ("params", params), ("encoding", encoding.toJson)]).HidesLegends ↔
        encoding.All HidesLegend := by
    simp [Json.HidesLegends]
  refine views.trans ((all_hidesLegend_points_iff (Fragment.all_ofMembers (by simp))).trans ?_)
  rw [not_or]
  refine and_congr ?_ ?_
  · unfold ChartConfig.Binds
    cases isColor : ctx.config.field .color with
    | none => exact iff_of_true (hidesLegend_of_unnamed rfl) nofun
    | some field =>
      rw [Option.filter_some, if_pos (fits field isColor)]
      exact iff_of_false (mapPointColor_showsLegend ctx field) (absurd rfl)
  · unfold ChartConfig.Binds
    cases ctx.config.field .size with
    | none => exact iff_of_true nofun nofun
    | some field =>
      refine iff_of_false (fun hides => absurd (hides _ rfl) ?_) (absurd rfl)
      exact not_hidesLegend (by decide) rfl nofun

theorem landLayer_hidesLegends (ctx : ChartContext) (outline : Outline) :
    (landLayer ctx outline).HidesLegends := by
  simp [landLayer, Json.HidesLegends]

theorem scatterMap_hidesLegends_iff {longitude latitude : String}
    (fits : ∀ field, ctx.config.field .color = some field → ctx.schema.contains field) :
    (scatterMap ctx longitude latitude).toJson.HidesLegends ↔
      ¬ (ctx.config.Binds .color ∨ ctx.config.Binds .size) := by
  have framed : ∀ projection outline,
      (scatterMapOver ctx longitude latitude projection outline).toJson.HidesLegends ↔
        ¬ (ctx.config.Binds .color ∨ ctx.config.Binds .size) := by
    intro projection outline
    rw [← mapPoints_hidesLegends_iff longitude latitude fits]
    have land : (landLayer ctx outline).EachChannel HidesLegend :=
      landLayer_hidesLegends ctx outline
    refine Fragment.eachChannel_toJson.trans
      ((Fragment.all_ofMembers_iff (by simp [Entries.keys])).trans ?_)
    simp [Json.HidesLegends, land]
  by_cases nationwide : Geo.isNationwideUs (placesOf ctx longitude latitude)
  · rw [scatterMap_states nationwide]
    exact framed _ _
  · rw [scatterMap_countries nationwide]
    exact framed _ _

theorem regionEncoding_hidesLegends_iff (geo : String) :
    (regionEncoding ctx geo).All HidesLegend ↔ ¬ ctx.config.Binds .color := by
  unfold regionEncoding ChartConfig.Binds
  dsimp only
  cases ctx.config.field .color with
  | none => exact iff_of_true (Fragment.all_empty.merge (Fragment.all_ofMembers (by simp))) nofun
  | some field =>
    refine iff_of_false (fun all => ?_) (absurd rfl)
    refine absurd (all ("color", regionColor ctx field) (Entries.mem_of_get? rfl)) ?_
    exact not_hidesLegend (by decide) rfl nofun

theorem choropleth_hidesLegends_iff {outline : Outline} {geo : String} :
    (choropleth ctx outline geo).toJson.HidesLegends ↔ ¬ ctx.config.Binds .color := by
  have land : (regionLand ctx outline).EachChannel HidesLegend := by
    cases outline with
    | states => exact landLayer_hidesLegends ctx .states
    | countries => simp [regionLand]
  rw [← regionEncoding_hidesLegends_iff geo]
  refine Fragment.eachChannel_toJson.trans
    ((Fragment.all_ofMembers_iff (by simp [Entries.keys])).trans ?_)
  simp [land]

theorem map_hidesLegends_iff {chart : Fragment}
    (fits : ∀ field, ctx.config.field .color = some field → ctx.schema.contains field)
    (drawn : map ctx = .ok chart) :
    chart.toJson.HidesLegends ↔ ¬ ctx.config.DrawsOwnLegend .usaMap := by
  rcases map_eq_ok drawn with
    ⟨longitude, latitude, isX, isY, rfl⟩ | ⟨unplaced, outline, geo, -, -, rfl⟩
  · rw [scatterMap_hidesLegends_iff fits]
    simp [ChartConfig.DrawsOwnLegend, ChartConfig.Binds, isX, isY]
  · rw [choropleth_hidesLegends_iff]
    rcases unplaced with noX | noY
    · simp [ChartConfig.DrawsOwnLegend, ChartConfig.Binds, noX]
    · simp [ChartConfig.DrawsOwnLegend, ChartConfig.Binds, noY]

end Chart

/-! ## Documents -/

/-- A context in which legends are hidden: the shared colour is hidden, and it is there if a
colour is bound, except for heatmaps. -/
structure ChartContext.Legendless (ctx : ChartContext) (kind : ChartKind) : Prop where
  hidden : ctx.config.hidesLegend
  fits : ∀ field, ctx.config.field .color = some field → ctx.schema.contains field
  shared : ctx.shared.All HidesLegend
  colored : kind ≠ .heatmap → ctx.config.Binds .color →
    "color" ∈ Entries.keys ctx.shared.members
  uncolored : ¬ ctx.config.Binds .color → ctx.shared = .empty

theorem sharedEncoding_of_uncolored {schema : Schema} {config : ChartConfig} {kind : ChartKind}
    {mobile : Bool} (uncolored : config.field .color = none) :
    sharedEncoding schema config kind mobile = .empty := by
  unfold sharedEncoding
  rw [uncolored, ite_self]
  rfl

theorem mem_keys_sharedEncoding {schema : Schema} {config : ChartConfig} {kind : ChartKind}
    {mobile : Bool} {field : String} (other : kind ≠ .heatmap)
    (colored : config.field .color = some field) (column : schema.contains field) :
    "color" ∈ Entries.keys (sharedEncoding schema config kind mobile).members := by
  have drawn : (colorEncoding schema config (some field) mobile).isEmpty = false := by
    unfold colorEncoding
    rw [Option.filter_some, if_pos column]
    exact Fragment.isEmpty_set ..
  unfold sharedEncoding
  rw [if_neg other, colored]
  dsimp only
  rw [drawn]
  exact List.mem_singleton_self _

theorem ChartRequest.legendless_context {request : ChartRequest} {resolved : ChartConfig}
    (completes : resolved.Completes request.config request.data request.schema)
    (hidden : request.config.hideLegend = some true) (kind : ChartKind) :
    (request.context resolved kind).Legendless kind := by
  have isHidden : resolved.hidesLegend := by
    rw [ChartConfig.hidesLegend, completes.display.1, hidden]
    rfl
  exact
    { hidden := isHidden
      fits := completes.fits .color
      shared := all_sharedEncoding _ _ _ _ fun field => colorEncoding_hidesLegend _ field _ isHidden
      colored := by
        intro other colored
        obtain ⟨field, isColor⟩ := Option.isSome_iff_exists.mp colored
        exact mem_keys_sharedEncoding other isColor (completes.fits .color field isColor)
      uncolored := fun uncolored =>
        sharedEncoding_of_uncolored (Option.not_isSome_iff_eq_none.mp uncolored) }

theorem Chart.build_hidesLegends_iff {ctx : ChartContext} {kind : ChartKind} {chart : Fragment}
    (legendless : ctx.Legendless kind) (encoded : kind.isLowLevel = false)
    (built : Chart.build kind ctx = .ok chart) :
    chart.toJson.HidesLegends ↔ ¬ ctx.config.DrawsOwnLegend kind := by
  have shared := legendless.shared
  cases kind with
  | bar =>
    cases built
    exact iff_of_true (bar_hidesLegends shared) id
  | barh =>
    cases built
    exact iff_of_true (barh_hidesLegends shared) id
  | line =>
    cases built
    exact iff_of_true (series_hidesLegends shared false) id
  | area =>
    cases built
    exact iff_of_true (series_hidesLegends shared true) id
  | point =>
    cases built
    exact iff_of_true (point_hidesLegends shared legendless.hidden) id
  | heatmap =>
    cases built
    exact heatmap_hidesLegends_iff
  | donut =>
    cases built
    exact donut_hidesLegends_iff shared (legendless.colored (by decide)) legendless.uncolored
  | boxplot =>
    cases built
    exact iff_of_true (boxplot_hidesLegends shared) id
  | treemap => exact iff_of_true (treemap_hidesLegends shared built) id
  | beeswarm | headline => cases encoded
  | usaMap => exact map_hidesLegends_iff legendless.fits built

theorem hidesLegends_iff_of_resolved {request : ChartRequest} {resolved : ChartConfig}
    {kind : ChartKind} {document : Json} (hidden : request.config.hideLegend = some true)
    (isResolved : resolveConfig request.config request.data request.schema = .ok resolved)
    (isKind : resolved.kind = some kind) (encoded : kind.isLowLevel = false)
    (compiled : request.compile = .ok document) :
    document.HidesLegends ↔ ¬ resolved.DrawsOwnLegend kind := by
  obtain ⟨other, _, chart, isOther, completes, isOtherKind, built, channels⟩ :=
    ChartRequest.exists_channels_of_compile compiled
  obtain rfl : resolved = other := Except.ok.inj (isResolved.symm.trans isOther)
  obtain rfl := Option.some.inj (isKind.symm.trans isOtherKind)
  have drawn : chart.toJson.HidesLegends ↔ ¬ resolved.DrawsOwnLegend kind :=
    Chart.build_hidesLegends_iff (ChartRequest.legendless_context completes hidden kind) encoded
      built
  rw [← drawn]
  exact forall_congr' fun channel => imp_congr_left (channels encoded).mem_iff

/-- A document of a kind that is written in marks says so. -/
theorem dialect_of_isLowLevel {request : ChartRequest} {resolved : ChartConfig}
    {kind : ChartKind} {document : Json}
    (isResolved : resolveConfig request.config request.data request.schema = .ok resolved)
    (isKind : resolved.kind = some kind) (lowLevel : kind.isLowLevel)
    (compiled : request.compile = .ok document) :
    document.member? "$schema" = some (.string markDialect) := by
  obtain ⟨other, _, chart, isOther, isOtherKind, built, rfl⟩ :=
    ChartRequest.exists_chart_of_compile compiled
  obtain rfl : resolved = other := Except.ok.inj (isResolved.symm.trans isOther)
  obtain rfl := Option.some.inj (isKind.symm.trans isOtherKind)
  rw [Fragment.toJson,
    request.members_compose_shownTitle resolved (request.untitled_document resolved built),
    ChartRequest.document, if_pos lowLevel]
  cases kind with
  | beeswarm | headline =>
    cases built
    rfl
  | _ => cases lowLevel

/-- **Legends are hidden, except for those that builders write themselves.** When legends are
hidden, a document made of encodings has the legend `null` on every colour and size that encodes
a field, unless the resolved configuration is a donut of labels without a colour, a heatmap of a
colour, a map of a colour, or a map of points of a size. There it never does. -/
theorem hidesLegends_iff {request : ChartRequest} {document : Json}
    (hidden : request.config.hideLegend = some true) (compiled : request.compile = .ok document)
    (encoded : document.member? "$schema" = some (.string encodingDialect)) :
    ∃ resolved kind, resolveConfig request.config request.data request.schema = .ok resolved ∧
      resolved.kind = some kind ∧
      (document.HidesLegends ↔ ¬ resolved.DrawsOwnLegend kind) := by
  obtain ⟨resolved, kind, -, isResolved, isKind, -⟩ :=
    ChartRequest.exists_chart_of_compile compiled
  refine ⟨resolved, kind, isResolved, isKind, ?_⟩
  refine hidesLegends_iff_of_resolved hidden isResolved isKind ?_ compiled
  rw [← Bool.not_eq_true]
  intro lowLevel
  rw [dialect_of_isLowLevel isResolved isKind lowLevel compiled] at encoded
  exact absurd encoded (by decide)

/-- A donut of labels whose legend is hidden, because the shared colour lies over that of its
slices. -/
theorem hidesLegends_colored_donut :
    let request : ChartRequest :=
      { schema := ⟨[{ name := "region", type := .string }, { name := "revenue", type := .money },
          { name := "segment", type := .string }], by decide⟩
        data := .empty
        config :=
          { kind := some .donut
            bindings := { x := some "revenue", y := some "region", color := some "segment" }
            hideLegend := some true } }
    ∃ document, request.compile = .ok document ∧ document.HidesLegends := by
  intro request
  obtain ⟨document, compiled⟩ : ∃ document, request.compile = .ok document := ⟨_, rfl⟩
  have encoded : document.member? "$schema" = some (.string encodingDialect) := by
    cases compiled
    rfl
  obtain ⟨resolved, kind, isResolved, isKind, hides⟩ := hidesLegends_iff rfl compiled encoded
  obtain rfl : request.config = resolved := Except.ok.inj isResolved
  obtain rfl : .donut = kind := Option.some.inj isKind
  exact ⟨document, compiled, hides.mpr fun draws => draws.2 rfl⟩

/-- Not every legend is hidden: a heatmap leaves the legend of its cells to the engine. -/
theorem not_forall_hidesLegends :
    ¬ ∀ (request : ChartRequest) (document : Json), request.config.hideLegend = some true →
      request.compile = .ok document →
      document.member? "$schema" = some (.string encodingDialect) → document.HidesLegends := by
  intro hides
  let request : ChartRequest :=
    { schema := ⟨[{ name := "region", type := .string }, { name := "day", type := .string },
        { name := "revenue", type := .money }], by decide⟩
      data := .empty
      config :=
        { kind := some .heatmap
          bindings := { x := some "region", y := some "day", color := some "revenue" }
          hideLegend := some true } }
  obtain ⟨document, compiled⟩ : ∃ document, request.compile = .ok document := ⟨_, rfl⟩
  have encoded : document.member? "$schema" = some (.string encodingDialect) := by
    cases compiled
    rfl
  have hidden := hides request document rfl compiled encoded
  have isResolved : resolveConfig request.config request.data request.schema =
      .ok request.config := rfl
  exact (hidesLegends_iff_of_resolved rfl isResolved rfl rfl compiled).mp hidden rfl

end ChartCompiler

import Mathlib
import ChartCompiler.Proofs.Compile.Drawing
import ChartCompiler.Proofs.Config.Resolution

/-!
Channels of documents. A document made of encodings is a view: it has channels of its own in its
encoding, and it may consist of further views, in layers or repeated in a facet. What stands
around a chart has no channels, so a document has those of its chart
(`ChartRequest.exists_channels_of_compile`), and a series has those of its encodings.
-/

namespace ChartCompiler

/-! ## Collecting channels -/

namespace Json

/-- Keys under which a view holds the views that it consists of. -/
def viewKeys : List String :=
  ["layer", "spec", "concat", "hconcat", "vconcat"]

mutual

/-- The channels of a view, or of a list of views. -/
def channels : Json → List (String × Json)
  | .array views => itemsChannels views
  | .object members => membersChannels members
  | .null | .bool _ | .number _ | .string _ => []

/-- The channels of the views in a list. -/
def itemsChannels : List Json → List (String × Json)
  | [] => []
  | view :: rest => view.channels ++ itemsChannels rest

/-- The channels in the encoding among the members of a view, and those of the views below. -/
def membersChannels : List (String × Json) → List (String × Json)
  | [] => []
  | (key, value) :: rest =>
    (if key = "encoding" then value.asObject?.getD []
      else if key ∈ viewKeys then value.channels else []) ++ membersChannels rest

end

/-- The channels that a member brings into its view. -/
def memberChannels (member : String × Json) : List (String × Json) :=
  if member.1 = "encoding" then member.2.asObject?.getD []
  else if member.1 ∈ viewKeys then member.2.channels else []

theorem channels_array (views : List Json) : (array views).channels = views.flatMap channels := by
  rw [channels]
  induction views with
  | nil => rfl
  | cons view rest ih => rw [itemsChannels, ih, List.flatMap_cons]

theorem channels_object (members : List (String × Json)) :
    (object members).channels = members.flatMap memberChannels := by
  rw [channels]
  induction members with
  | nil => rfl
  | cons member rest ih => rw [membersChannels, ih, List.flatMap_cons, memberChannels]

/-- All channels of the view have the property. -/
def EachChannel (p : String × Json → Prop) (view : Json) : Prop :=
  ∀ channel ∈ view.channels, p channel

/-- All channels that the member brings into its view have the property. -/
def EachOfMember (p : String × Json → Prop) (member : String × Json) : Prop :=
  ∀ channel ∈ memberChannels member, p channel

variable {p : String × Json → Prop} {key : String} {value : Json}

@[simp] theorem eachChannel_array {views : List Json} :
    (array views).EachChannel p ↔ ∀ view ∈ views, view.EachChannel p := by
  rw [EachChannel, channels_array, List.forall_mem_flatMap]
  rfl

@[simp] theorem eachChannel_object {members : List (String × Json)} :
    (object members).EachChannel p ↔ ∀ member ∈ members, EachOfMember p member := by
  rw [EachChannel, channels_object, List.forall_mem_flatMap]
  rfl

@[simp] theorem eachOfMember_encoding {members : List (String × Json)} :
    EachOfMember p ("encoding", .object members) ↔ ∀ channel ∈ members, p channel :=
  .rfl

@[simp] theorem eachOfMember_layer : EachOfMember p ("layer", value) ↔ value.EachChannel p :=
  .rfl

/-- Keys that hold neither channels nor views. -/
@[simp] theorem eachOfMember_other
    (other : key ∉ ["encoding", "layer", "spec", "concat", "hconcat", "vconcat"]) :
    EachOfMember p (key, value) := by
  have notEncoding : key ≠ "encoding" := List.ne_of_not_mem_cons other
  have notView : key ∉ viewKeys := List.not_mem_of_not_mem_cons other
  rw [EachOfMember, memberChannels, if_neg notEncoding, if_neg notView]
  exact List.forall_mem_nil _

end Json

/-! ## Around a chart -/

namespace Fragment

/-- The channels in the encoding of the fragment, and in the views that it consists of. -/
def channels (f : Fragment) : List (String × Json) :=
  f.toJson.channels

theorem channels_eq (f : Fragment) : f.channels = f.members.flatMap Json.memberChannels :=
  Json.channels_object f.members

@[simp] theorem eachChannel_toJson {p : String × Json → Prop} {f : Fragment} :
    f.toJson.EachChannel p ↔ f.All (Json.EachOfMember p) :=
  Json.eachChannel_object

@[simp] theorem eachOfMember_encoding {p : String × Json → Prop} {f : Fragment} :
    Json.EachOfMember p ("encoding", f.toJson) ↔ f.All p :=
  .rfl

/-- Below what is merged on top, members without channels do not show. -/
theorem channels_merge_perm {f : Fragment}
    (bare : f.All fun member => Json.memberChannels member = []) (top : Fragment) :
    (f.merge top).channels.Perm top.channels := by
  have below : ((f.members.filter fun entry => entry.1 ∉ Entries.keys top.members).flatMap
      Json.memberChannels) = [] :=
    List.flatMap_eq_nil_iff.mpr fun member inside => bare member (List.mem_of_mem_filter inside)
  have both := (Entries.merge_perm f.distinct top.distinct).flatMap_right Json.memberChannels
  rw [List.flatMap_append, below, List.nil_append] at both
  rw [channels_eq, channels_eq]
  exact both

end Fragment

namespace ChartRequest

theorem channels_document_perm (request : ChartRequest) (config : ChartConfig) {kind : ChartKind}
    (chart : Fragment) (encoded : kind.isLowLevel = false) :
    (request.document config kind chart).channels.Perm chart.channels := by
  unfold document
  rw [if_neg (by simp [encoded])]
  split
  next field _ =>
    have cell : (trellis request.schema field (baseDocument request.data) chart).channels =
        ((Fragment.ofMembers [("width", "container"), ("height", 200)]).merge chart).channels ++
          [] := rfl
    rw [cell, List.append_nil]
    refine Fragment.channels_merge_perm (Fragment.all_ofMembers ?_) chart
    simp [Json.memberChannels, Json.viewKeys]
  next =>
    refine Fragment.channels_merge_perm (Fragment.all_ofMembers ?_) chart
    simp [Json.memberChannels, Json.viewKeys]

theorem channels_shownTitle (request : ChartRequest) (config : ChartConfig) :
    (request.shownTitle config).members.flatMap Json.memberChannels = [] := by
  refine List.flatMap_eq_nil_iff.mpr fun member inside => ?_
  have titled := request.key_of_mem_shownTitle config member inside
  simp [Json.memberChannels, Json.viewKeys, titled]

/-- What compiles was resolved and drawn, and if it is made of encodings, then it has the channels
of its chart. -/
theorem exists_channels_of_compile {request : ChartRequest} {document : Json}
    (compiled : request.compile = .ok document) :
    ∃ resolved kind chart,
      resolveConfig request.config request.data request.schema = .ok resolved ∧
      resolved.Completes request.config request.data request.schema ∧
      resolved.kind = some kind ∧
      Chart.build kind (request.context resolved kind) = .ok chart ∧
      (kind.isLowLevel = false → document.channels.Perm chart.channels) := by
  obtain ⟨resolved, kind, chart, isResolved, isKind, built, rfl⟩ :=
    ChartRequest.exists_chart_of_compile compiled
  refine ⟨resolved, kind, chart, isResolved, ?_, isKind, built, fun encoded => ?_⟩
  · rcases resolveConfig_eq_ok_iff.mp isResolved with
      ⟨required, rfl⟩ | ⟨incomplete, rfl, hasKind, -⟩
    · exact ChartConfig.completes_clearDangling required
    · exact ChartConfig.completes_completed incomplete hasKind
  · rw [Fragment.toJson, Json.channels_object,
      request.members_compose_shownTitle resolved (request.untitled_document resolved built),
      List.flatMap_append, request.channels_shownTitle, List.append_nil, ← Fragment.channels_eq]
    exact request.channels_document_perm resolved chart encoded

end ChartRequest

/-! ## In a chart -/

/-- The channels that all builders share are the colour of a field, or none. -/
theorem all_sharedEncoding {p : String × Json → Prop} (schema : Schema) (config : ChartConfig)
    (kind : ChartKind) (mobile : Bool)
    (color : ∀ field, p ("color", (colorEncoding schema config field mobile).toJson)) :
    (sharedEncoding schema config kind mobile).All p := by
  unfold sharedEncoding
  generalize (if kind = .heatmap then none else config.field .color) = field
  dsimp only
  split
  next => exact Fragment.all_empty
  next => exact Fragment.all_ofMembers (List.forall_mem_singleton.mpr (color field))

namespace Chart

/-- The encoding of a layer of the first measure of a series. -/
def primaryEncoding (ctx : ChartContext) (layer : SeriesLayer) : Fragment :=
  let positions := Fragment.ofMembers
    [("x", (axisEncoding ctx (ctx.field .x) ctx.config.scaleX).toJson),
     ("y", (axisEncoding ctx (ctx.field .y) ctx.config.scaleY).toJson),
     ("tooltip", .array ctx.tooltip)]
  if ctx.field .color = "" then positions
  else match layer with
    | .ghost => positions.set "detail" (.object [("field", ctx.field .color)])
    | .filtered => positions.merge ctx.shared

/-- The encoding of the layers of the second measure of a series. -/
def secondaryEncoding (ctx : ChartContext) : Fragment :=
  (Fragment.ofMembers
    [("x", (encodeField ctx.schema (ctx.field .x) .empty true ctx.config.scaleX).toJson),
     ("y", (encodeField ctx.schema (ctx.field .y2) .empty true none).toJson),
     ("tooltip", .array ctx.tooltip)]).merge ctx.shared

/-- The encodings of a series, layer by layer. -/
def seriesEncodings (ctx : ChartContext) : List Fragment :=
  [primaryEncoding ctx .ghost, primaryEncoding ctx .filtered] ++
    if ctx.field .y2 = "" then [] else [secondaryEncoding ctx, secondaryEncoding ctx]

theorem channels_primaryLayer (ctx : ChartContext) (area : Bool) (layer : SeriesLayer) :
    (primaryLayer ctx area layer).toJson.channels = (primaryEncoding ctx layer).members := by
  cases layer <;> exact List.append_nil _

theorem channels_secondaryLayer (ctx : ChartContext) (layer : SeriesLayer) :
    (secondaryLayer ctx layer).toJson.channels = (secondaryEncoding ctx).members := by
  cases layer <;> exact List.append_nil _

theorem channels_series (ctx : ChartContext) (area : Bool) :
    (series ctx area).channels = (seriesEncodings ctx).flatMap Fragment.members := by
  let first := [(primaryLayer ctx area .ghost).toJson, (primaryLayer ctx area .filtered).toJson]
  let second := [(secondaryLayer ctx .ghost).toJson, (secondaryLayer ctx .filtered).toJson]
  by_cases single : ctx.field .y2 = ""
  · have layers : (series ctx area).channels = first.flatMap Json.channels ++ [] := by
      rw [series_single single, ← Json.channels_array]
      rfl
    rw [layers]
    simp [first, seriesEncodings, single, channels_primaryLayer]
  · have layers : (series ctx area).channels = ((first.flatMap Json.channels ++ []) ++
        ((second.flatMap Json.channels ++ []) ++ [])) ++ [] := by
      rw [series_double single, ← Json.channels_array, ← Json.channels_array]
      rfl
    rw [layers]
    simp [first, second, seriesEncodings, single, channels_primaryLayer, channels_secondaryLayer]

/-- What holds of the x channels, of what all charts share and of whatever stands under the other
keys, holds of all channels of a series. -/
theorem all_channels_series {p : String × Json → Prop} {ctx : ChartContext}
    (onAxis : p ("x", (axisEncoding ctx (ctx.field .x) ctx.config.scaleX).toJson))
    (plain : p ("x", (encodeField ctx.schema (ctx.field .x) .empty true ctx.config.scaleX).toJson))
    (others : ∀ key ∈ ["y", "tooltip", "detail"], ∀ value, p (key, value))
    (shared : ctx.shared.All p) (area : Bool) :
    ∀ channel ∈ (series ctx area).channels, p channel := by
  have y := others "y" (by decide)
  have tooltip := others "tooltip" (by decide)
  have primary : ∀ layer, (primaryEncoding ctx layer).All p := by
    intro layer
    have positions : (Fragment.ofMembers
        [("x", (axisEncoding ctx (ctx.field .x) ctx.config.scaleX).toJson),
         ("y", (axisEncoding ctx (ctx.field .y) ctx.config.scaleY).toJson),
         ("tooltip", .array ctx.tooltip)]).All p :=
      Fragment.all_ofMembers (by simp [onAxis, y, tooltip])
    unfold primaryEncoding
    dsimp only
    split
    next => exact positions
    next =>
      cases layer with
      | ghost => exact positions.set (others "detail" (by decide) _)
      | filtered => exact positions.merge shared
  have secondary : (secondaryEncoding ctx).All p :=
    (Fragment.all_ofMembers (by simp [plain, y, tooltip])).merge shared
  rw [channels_series, List.forall_mem_flatMap, seriesEncodings]
  refine List.forall_mem_append.mpr ⟨?_, ?_⟩
  · exact List.forall_mem_cons.mpr
      ⟨primary .ghost, List.forall_mem_singleton.mpr (primary .filtered)⟩
  · split
    next => exact List.forall_mem_nil _
    next => exact List.forall_mem_cons.mpr ⟨secondary, List.forall_mem_singleton.mpr secondary⟩

/-- A series has an x channel. -/
theorem exists_x_series (ctx : ChartContext) (area : Bool) :
    ∃ encoding, ("x", encoding) ∈ (series ctx area).channels := by
  refine ⟨(axisEncoding ctx (ctx.field .x) ctx.config.scaleX).toJson, ?_⟩
  have isX : (primaryEncoding ctx .ghost).get? "x" =
      some (axisEncoding ctx (ctx.field .x) ctx.config.scaleX).toJson := by
    unfold primaryEncoding
    dsimp only
    split <;> rfl
  rw [channels_series]
  exact List.mem_flatMap.mpr ⟨_, List.mem_cons_self, Entries.mem_of_get? isX⟩

end Chart

end ChartCompiler

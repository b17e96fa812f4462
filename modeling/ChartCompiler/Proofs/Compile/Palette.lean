import Mathlib
import ChartCompiler.Proofs.Compile.Drawing
import ChartCompiler.Proofs.Config.Completion

/-!
Themes and documents. Two values are `Recolored` from one palette to another when they are
the same tree except at texts that are one and the same colour of the two palettes. Writing
and merging members keep fragments recolored, every builder draws recolored charts from two
palettes (`build_recolored`), no decision is taken by the theme, and so the documents of two
themes are recolored as well (`compile_themes`).
-/

namespace ChartCompiler

variable {p q : Palette}

/-! ## The relation -/

/-- The same tree, except that a text may be a colour of the first palette where the other
tree has the colour of that name of the second. -/
inductive Json.Recolored (p q : Palette) : Json → Json → Prop
  | same (value : Json) : Recolored p q value value
  | color {name a b : String} (first : (name, a) ∈ p.colors) (second : (name, b) ∈ q.colors) :
    Recolored p q (.string a) (.string b)
  | array {xs ys : List Json} (items : List.Forall₂ (Recolored p q) xs ys) :
    Recolored p q (.array xs) (.array ys)
  | object {xs ys : List (String × Json)} (keys : Entries.keys xs = Entries.keys ys)
    (values : List.Forall₂ (Recolored p q) (xs.map Prod.snd) (ys.map Prod.snd)) :
    Recolored p q (.object xs) (.object ys)

/-- Members with the same keys in the same order, each with recolored values. -/
inductive MembersRecolored (p q : Palette) : List (String × Json) → List (String × Json) → Prop
  | nil : MembersRecolored p q [] []
  | cons {name : String} {a b : Json} {xs ys : List (String × Json)}
    (value : Json.Recolored p q a b) (rest : MembersRecolored p q xs ys) :
    MembersRecolored p q ((name, a) :: xs) ((name, b) :: ys)

/-- Fragments with recolored members. -/
def Fragment.Recolored (p q : Palette) (f g : Fragment) : Prop :=
  MembersRecolored p q f.members g.members

namespace MembersRecolored

variable {xs ys later later' : List (String × Json)} {a b : Json}

theorem same (members : List (String × Json)) : MembersRecolored p q members members := by
  induction members with
  | nil => exact .nil
  | cons entry rest ih => exact .cons (.same entry.2) ih

theorem object (members : MembersRecolored p q xs ys) :
    Json.Recolored p q (.object xs) (.object ys) := by
  have both : Entries.keys xs = Entries.keys ys ∧
      List.Forall₂ (Json.Recolored p q) (xs.map Prod.snd) (ys.map Prod.snd) := by
    induction members with
    | nil => exact ⟨rfl, .nil⟩
    | cons value _ ih => exact ⟨congrArg (List.cons _) ih.1, .cons value ih.2⟩
  exact .object both.1 both.2

theorem insert (members : MembersRecolored p q xs ys) (name : String)
    (value : Json.Recolored p q a b) :
    MembersRecolored p q (Entries.insert xs name a) (Entries.insert ys name b) := by
  induction members with
  | nil => exact .cons value .nil
  | cons old rest ih =>
    unfold Entries.insert
    split
    next => exact .cons value rest
    next => exact .cons old ih

theorem merge (members : MembersRecolored p q xs ys) (top : MembersRecolored p q later later') :
    MembersRecolored p q (Entries.merge xs later) (Entries.merge ys later') := by
  induction top generalizing xs ys with
  | nil => exact members
  | cons value _ ih => exact ih (members.insert _ value)

end MembersRecolored

namespace Fragment.Recolored

variable {f g f' g' : Fragment} {a b : Json}

theorem same (f : Fragment) : Fragment.Recolored p q f f :=
  MembersRecolored.same f.members

theorem toJson (fragments : Fragment.Recolored p q f g) : Json.Recolored p q f.toJson g.toJson :=
  MembersRecolored.object fragments

theorem ofMembers {xs ys : List (String × Json)} (members : MembersRecolored p q xs ys) :
    Fragment.Recolored p q (.ofMembers xs) (.ofMembers ys) :=
  MembersRecolored.merge .nil members

theorem set (fragments : Fragment.Recolored p q f g) (name : String)
    (value : Json.Recolored p q a b) : Fragment.Recolored p q (f.set name a) (g.set name b) :=
  MembersRecolored.insert fragments name value

theorem merge (fragments : Fragment.Recolored p q f g) (top : Fragment.Recolored p q f' g') :
    Fragment.Recolored p q (f.merge f') (g.merge g') :=
  MembersRecolored.merge fragments top

end Fragment.Recolored

theorem forall₂_map {α : Type} {f g : α → Json} {items : List α}
    (each : ∀ item ∈ items, Json.Recolored p q (f item) (g item)) :
    List.Forall₂ (Json.Recolored p q) (items.map f) (items.map g) := by
  rw [List.forall₂_map_left_iff, List.forall₂_map_right_iff]
  exact List.forall₂_same.mpr each

theorem forall₂_flatMap {α : Type} {f g : α → List Json} {items : List α}
    (each : ∀ item ∈ items, List.Forall₂ (Json.Recolored p q) (f item) (g item)) :
    List.Forall₂ (Json.Recolored p q) (items.flatMap f) (items.flatMap g) := by
  induction items with
  | nil => exact .nil
  | cons item items ih =>
    have first := each item List.mem_cons_self
    have rest := ih fun other inside => each other (List.mem_cons_of_mem _ inside)
    exact List.rel_append first rest

/-- One colour of the two palettes. -/
theorem Json.recolored_color (name : String) (color : Palette → String)
    (listed : ∀ palette : Palette, (name, color palette) ∈ palette.colors) :
    Json.Recolored p q (.string (color p)) (.string (color q)) :=
  .color (listed p) (listed q)

/-! ## Builders -/

/-- The context with another palette. -/
def ChartContext.painted (ctx : ChartContext) (palette : Palette) : ChartContext :=
  { ctx with palette }

namespace Chart

variable (ctx : ChartContext) (p q : Palette)

theorem barFragment_recolored (encoding : Fragment) :
    Fragment.Recolored p q (barFragment (ctx.painted p) encoding)
      (barFragment (ctx.painted q) encoding) := by
  have color : Json.Recolored p q (.string p.mark) (.string q.mark) :=
    Json.recolored_color "mark" Palette.mark (by simp [Palette.colors])
  have mark : Json.Recolored p q (barMark (ctx.painted p)) (barMark (ctx.painted q)) :=
    MembersRecolored.object (.cons (.same _) (.cons color .nil))
  exact .ofMembers (.cons (.same _) (.cons mark (.same _)))

theorem primaryLayer_recolored (area : Bool) (layer : SeriesLayer) :
    Fragment.Recolored p q (primaryLayer (ctx.painted p) area layer)
      (primaryLayer (ctx.painted q) area layer) := by
  have ghost : Json.Recolored p q (.string p.ghost) (.string q.ghost) :=
    Json.recolored_color "ghost" Palette.ghost (by simp [Palette.colors])
  have outline : Json.Recolored p q (.string p.ghostOutline) (.string q.ghostOutline) :=
    Json.recolored_color "ghostOutline" Palette.ghostOutline (by simp [Palette.colors])
  have filtered : Json.Recolored p q (.string p.filteredMark) (.string q.filteredMark) :=
    Json.recolored_color "filteredMark" Palette.filteredMark (by simp [Palette.colors])
  cases layer with
  | ghost =>
    refine .ofMembers (.cons (.same _) (.cons (Fragment.Recolored.toJson ?_) (.same _)))
    cases area with
    | false => exact (Fragment.Recolored.same _).set "color" ghost
    | true =>
      have line : Json.Recolored p q (.object [("color", p.ghostOutline)])
          (.object [("color", q.ghostOutline)]) := MembersRecolored.object (.cons outline .nil)
      exact ((Fragment.Recolored.same _).set "line" line).set "color" ghost
  | filtered =>
    refine .ofMembers (.cons (.same _) (.cons (Fragment.Recolored.toJson ?_) (.same _)))
    exact (Fragment.Recolored.same _).set "color" filtered

theorem secondaryLayer_recolored (layer : SeriesLayer) :
    Fragment.Recolored p q (secondaryLayer (ctx.painted p) layer)
      (secondaryLayer (ctx.painted q) layer) := by
  have ghost : Json.Recolored p q (.string p.ghost) (.string q.ghost) :=
    Json.recolored_color "ghost" Palette.ghost (by simp [Palette.colors])
  have filtered : Json.Recolored p q (.string p.secondaryMark) (.string q.secondaryMark) :=
    Json.recolored_color "secondaryMark" Palette.secondaryMark (by simp [Palette.colors])
  cases layer with
  | ghost =>
    refine .ofMembers (.cons (.same _) (.cons (MembersRecolored.object ?_) (.same _)))
    exact .cons (.same _) (.cons ghost (.same _))
  | filtered =>
    refine .ofMembers (.cons (.same _) (.cons (MembersRecolored.object ?_) (.same _)))
    exact .cons (.same _) (.cons filtered (.same _))

theorem series_recolored (area : Bool) :
    Fragment.Recolored p q (series (ctx.painted p) area) (series (ctx.painted q) area) := by
  have ghost := (primaryLayer_recolored ctx p q area .ghost).toJson
  have filtered := (primaryLayer_recolored ctx p q area .filtered).toJson
  have first := Json.Recolored.array (.cons ghost (.cons filtered .nil))
  by_cases single : ctx.field .y2 = ""
  · have painted : ∀ palette, (ctx.painted palette).field .y2 = "" := fun _ => single
    rw [series_single (painted p), series_single (painted q)]
    exact .ofMembers (.cons first .nil)
  · have painted : ∀ palette, (ctx.painted palette).field .y2 ≠ "" := fun _ => single
    have ghost := (secondaryLayer_recolored ctx p q .ghost).toJson
    have filtered := (secondaryLayer_recolored ctx p q .filtered).toJson
    have second := Json.Recolored.array (.cons ghost (.cons filtered .nil))
    rw [series_double (painted p), series_double (painted q)]
    refine .ofMembers (.cons (.array (.cons ?_ (.cons ?_ .nil))) (.same _))
    · exact MembersRecolored.object (.cons first .nil)
    · exact MembersRecolored.object (.cons second .nil)

theorem point_recolored :
    Fragment.Recolored p q (point (ctx.painted p)) (point (ctx.painted q)) := by
  have color : Json.Recolored p q (.string p.mark) (.string q.mark) :=
    Json.recolored_color "mark" Palette.mark (by simp [Palette.colors])
  have label : Json.Recolored p q (.string p.pointLabel) (.string q.pointLabel) :=
    Json.recolored_color "annotation" Palette.pointLabel (by simp [Palette.colors])
  have labels : ∀ field,
      Json.Recolored p q (pointLabels (ctx.painted p) field) (pointLabels (ctx.painted q) field) := by
    intro field
    refine MembersRecolored.object (.cons (.same _) (.cons (MembersRecolored.object ?_) .nil))
    refine .cons (.same _) (.cons (MembersRecolored.object ?_) .nil)
    exact .cons label .nil
  refine .ofMembers (.cons (.array (.cons ?_ ?_)) (.same _))
  · refine MembersRecolored.object (.cons (.same _) (.cons (MembersRecolored.object ?_) (.same _)))
    exact .cons (.same _) (.cons (.same _) (.cons color .nil))
  · exact forall₂_map fun field _ => labels field

theorem donut_recolored :
    Fragment.Recolored p q (donut (ctx.painted p)) (donut (ctx.painted q)) := by
  have color : Json.Recolored p q (.string p.sliceLabel) (.string q.sliceLabel) :=
    Json.recolored_color "sliceLabel" Palette.sliceLabel (by simp [Palette.colors])
  refine .ofMembers (.cons (.array (.cons (.same _) (.cons ?_ .nil))) .nil)
  refine MembersRecolored.object (.cons (.same _) (.cons (MembersRecolored.object ?_) (.same _)))
  exact .cons (.same _) (.cons (.same _) (.cons color (.same _)))

theorem beeswarm_recolored :
    Fragment.Recolored p q (beeswarm (ctx.painted p)) (beeswarm (ctx.painted q)) := by
  have color : Json.Recolored p q (.string p.hoverStroke) (.string q.hoverStroke) :=
    Json.recolored_color "hoverStroke" Palette.hoverStroke (by simp [Palette.colors])
  have nodes : ∀ x y, Json.Recolored p q (swarmNodes (ctx.painted p) x y)
      (swarmNodes (ctx.painted q) x y) := by
    intro x y
    have stroke : Json.Recolored p q (.object [("value", p.hoverStroke)])
        (.object [("value", q.hoverStroke)]) := MembersRecolored.object (.cons color .nil)
    refine MembersRecolored.object ?_
    repeat refine .cons (.same _) ?_
    refine .cons (MembersRecolored.object ?_) (.same _)
    repeat refine .cons (.same _) ?_
    exact .cons (MembersRecolored.object (.cons stroke (.same _))) .nil
  refine .ofMembers ?_
  -- the marks come last
  repeat refine .cons (.same _) ?_
  exact .cons (.array (.cons (nodes _ _) .nil)) .nil

theorem cardMarks_recolored (valueFont labelFont : Float) (total : Nat) (column : Column)
    (index : Nat) : List.Forall₂ (Json.Recolored p q)
      (cardMarks (ctx.painted p) valueFont labelFont total column index)
      (cardMarks (ctx.painted q) valueFont labelFont total column index) := by
  have value : Json.Recolored p q (.string p.headlineValue) (.string q.headlineValue) :=
    Json.recolored_color "headlineValue" Palette.headlineValue (by simp [Palette.colors])
  have label : Json.Recolored p q (.string p.headlineLabel) (.string q.headlineLabel) :=
    Json.recolored_color "headlineLabel" Palette.headlineLabel (by simp [Palette.colors])
  have valueMarks : ∀ font place, Json.Recolored p q (valueMark (ctx.painted p) column font place)
      (valueMark (ctx.painted q) column font place) := by
    intro font place
    refine MembersRecolored.object (.cons (.same _) (.cons (.same _)
      (.cons (MembersRecolored.object (.cons (MembersRecolored.object ?_) .nil)) .nil)))
    repeat refine .cons (.same _) ?_
    exact .cons (MembersRecolored.object (.cons value .nil)) .nil
  have labelMarks : ∀ font place, Json.Recolored p q (labelMark (ctx.painted p) column font place)
      (labelMark (ctx.painted q) column font place) := by
    intro font place
    refine MembersRecolored.object (.cons (.same _)
      (.cons (MembersRecolored.object (.cons (MembersRecolored.object ?_) .nil)) .nil))
    repeat refine .cons (.same _) ?_
    exact .cons (MembersRecolored.object (.cons label .nil)) .nil
  simp only [cardMarks, ChartContext.painted]
  by_cases picture : isImage column
  · simp only [picture, if_true]
    exact List.forall₂_same.mpr fun mark _ => .same mark
  · simp only [picture, if_false, Bool.false_eq_true]
    refine List.rel_append ?_ (.cons (labelMarks _ _) .nil)
    split
    next => exact .nil
    next => exact .cons (valueMarks _ _) .nil

theorem headline_recolored :
    Fragment.Recolored p q (headline (ctx.painted p)) (headline (ctx.painted q)) := by
  have marks := fun valueFont labelFont total (columns : List (Column × Nat)) =>
    forall₂_flatMap fun entry (_ : entry ∈ columns) =>
      cardMarks_recolored ctx p q valueFont labelFont total entry.1 entry.2
  refine .ofMembers ?_
  repeat refine .cons (.same _) ?_
  exact .cons (.array (marks _ _ _ _)) .nil

theorem landLayer_recolored (outline : Outline) :
    Json.Recolored p q (landLayer (ctx.painted p) outline) (landLayer (ctx.painted q) outline) := by
  have land : Json.Recolored p q (.string p.mapLand) (.string q.mapLand) :=
    Json.recolored_color "mapLand" Palette.mapLand (by simp [Palette.colors])
  have border : Json.Recolored p q (.string p.mapBorder) (.string q.mapBorder) :=
    Json.recolored_color "mapBorder" Palette.mapBorder (by simp [Palette.colors])
  refine MembersRecolored.object (.cons (.same _) (.cons (MembersRecolored.object ?_) .nil))
  exact .cons (.same _) (.cons land (.cons border .nil))

theorem mapPoints_recolored (longitude latitude : String) :
    Json.Recolored p q (mapPoints (ctx.painted p) longitude latitude)
      (mapPoints (ctx.painted q) longitude latitude) := by
  have color : Json.Recolored p q (.string p.mapPoint) (.string q.mapPoint) :=
    Json.recolored_color "mapPoint" Palette.mapPoint (by simp [Palette.colors])
  refine MembersRecolored.object (.cons (.same _) (.cons (.same _) (.cons
    (Fragment.Recolored.toJson ?_) .nil)))
  refine Fragment.Recolored.set (Fragment.Recolored.set (.same _) "color" ?_) "tooltip" (.same _)
  simp only [ChartContext.painted]
  split
  next => exact .same _
  next => exact MembersRecolored.object (.cons color .nil)

theorem scatterMap_recolored (longitude latitude : String) :
    Fragment.Recolored p q (scatterMap (ctx.painted p) longitude latitude)
      (scatterMap (ctx.painted q) longitude latitude) := by
  have drawn : ∀ projection outline, Fragment.Recolored p q
      (scatterMapOver (ctx.painted p) longitude latitude projection outline)
      (scatterMapOver (ctx.painted q) longitude latitude projection outline) := by
    intro projection outline
    have land := landLayer_recolored ctx p q outline
    have points := mapPoints_recolored ctx p q longitude latitude
    exact .ofMembers (.cons (.same _) (.cons (.array (.cons land (.cons points .nil))) .nil))
  by_cases nationwide : Geo.isNationwideUs (placesOf ctx longitude latitude)
  · have painted : ∀ palette, Geo.isNationwideUs
        (placesOf (ctx.painted palette) longitude latitude) := fun _ => nationwide
    rw [scatterMap_states (painted p), scatterMap_states (painted q)]
    exact drawn _ _
  · have painted : ∀ palette, ¬ Geo.isNationwideUs
        (placesOf (ctx.painted palette) longitude latitude) := fun _ => nationwide
    rw [scatterMap_countries (painted p), scatterMap_countries (painted q)]
    exact drawn _ _

theorem regionLand_recolored (outline : Outline) :
    Json.Recolored p q (regionLand (ctx.painted p) outline)
      (regionLand (ctx.painted q) outline) := by
  have land : Json.Recolored p q (.string p.mapLand) (.string q.mapLand) :=
    Json.recolored_color "mapLand" Palette.mapLand (by simp [Palette.colors])
  have border : Json.Recolored p q (.string p.mapBorder) (.string q.mapBorder) :=
    Json.recolored_color "mapBorder" Palette.mapBorder (by simp [Palette.colors])
  cases outline with
  | states => exact landLayer_recolored ctx p q .states
  | countries =>
    refine MembersRecolored.object (.cons (.same _) (.cons (.same _)
      (.cons (MembersRecolored.object ?_) .nil)))
    exact .cons (.same _) (.cons land (.cons border (.same _)))

theorem choropleth_recolored (outline : Outline) (geo : String) :
    Fragment.Recolored p q (choropleth (ctx.painted p) outline geo)
      (choropleth (ctx.painted q) outline geo) := by
  have border : Json.Recolored p q (.string p.mapBorder) (.string q.mapBorder) :=
    Json.recolored_color "mapBorder" Palette.mapBorder (by simp [Palette.colors])
  have encoding : Fragment.Recolored p q (regionEncoding (ctx.painted p) geo)
      (regionEncoding (ctx.painted q) geo) := by
    refine Fragment.Recolored.merge (.same _) (.ofMembers ?_)
    refine .cons (.same _) (.cons (MembersRecolored.object ?_) (.same _))
    exact .cons (.same _) (.cons border .nil)
  have land := regionLand_recolored ctx p q outline
  refine .ofMembers (.cons (.same _) (.cons (.array (.cons land (.cons ?_ .nil))) (.same _)))
  refine MembersRecolored.object ?_
  repeat refine .cons (.same _) ?_
  exact .cons encoding.toJson .nil

/-- Either palette gives a chart, or neither does, for the same reason; and the charts are
recolored. -/
theorem build_recolored (kind : ChartKind) :
    (∃ failure, build kind (ctx.painted p) = .error failure ∧
      build kind (ctx.painted q) = .error failure) ∨
    ∃ f g, build kind (ctx.painted p) = .ok f ∧ build kind (ctx.painted q) = .ok g ∧
      Fragment.Recolored p q f g := by
  cases kind with
  | bar | barh => exact .inr ⟨_, _, rfl, rfl, barFragment_recolored ctx p q _⟩
  | line => exact .inr ⟨_, _, rfl, rfl, series_recolored ctx p q false⟩
  | area => exact .inr ⟨_, _, rfl, rfl, series_recolored ctx p q true⟩
  | point => exact .inr ⟨_, _, rfl, rfl, point_recolored ctx p q⟩
  | heatmap | boxplot => exact .inr ⟨_, _, rfl, rfl, .same _⟩
  | donut => exact .inr ⟨_, _, rfl, rfl, donut_recolored ctx p q⟩
  | beeswarm => exact .inr ⟨_, _, rfl, rfl, beeswarm_recolored ctx p q⟩
  | headline => exact .inr ⟨_, _, rfl, rfl, headline_recolored ctx p q⟩
  | treemap =>
    have same : build .treemap (ctx.painted q) = build .treemap (ctx.painted p) := rfl
    rw [same]
    cases build .treemap (ctx.painted p) with
    | error failure => exact .inl ⟨failure, rfl, rfl⟩
    | ok chart => exact .inr ⟨chart, chart, rfl, rfl, .same chart⟩
  | usaMap =>
    simp only [build, map, ChartContext.painted]
    split
    next longitude latitude _ _ =>
      exact .inr ⟨_, _, rfl, rfl, scatterMap_recolored ctx p q longitude latitude⟩
    next =>
      split
      next => exact .inl ⟨_, rfl, rfl⟩
      next geo _ =>
        have outlined : ∀ palette, outlineOf? { ctx with palette } geo = outlineOf? ctx geo :=
          fun _ => rfl
        simp only [outlined]
        cases outlineOf? ctx geo with
        | none => exact .inl ⟨_, rfl, rfl⟩
        | some outline => exact .inr ⟨_, _, rfl, rfl, choropleth_recolored ctx p q outline geo⟩

end Chart

/-! ## Documents -/

namespace ChartRequest

variable {f g : Fragment}

theorem trellis_recolored (schema : Schema) (field : String) (base : Fragment)
    (charts : Fragment.Recolored p q f g) :
    Fragment.Recolored p q (trellis schema field base f) (trellis schema field base g) := by
  have cells := Fragment.Recolored.merge (.same (.ofMembers [("width", "container"), ("height", 200)]))
    charts
  exact Fragment.Recolored.set (.same _) "spec" cells.toJson

theorem document_recolored (request : ChartRequest) (config : ChartConfig) (kind : ChartKind)
    (charts : Fragment.Recolored p q f g) :
    Fragment.Recolored p q (request.document config kind f) (request.document config kind g) := by
  unfold document
  split
  next => exact charts
  next =>
    split
    next => exact trellis_recolored request.schema _ _ charts
    next => exact Fragment.Recolored.merge (.same _) charts

end ChartRequest

/-- **Themes differ in palette colours only.** Whatever the request, two themes fail alike or
give the same document, in which a text may be a colour of the one palette where the other
document has the colour of that name of the other palette. -/
theorem compile_themes (request : ChartRequest) (a b : Theme) :
    (∃ failure, { request with theme := a }.compile = .error failure ∧
      { request with theme := b }.compile = .error failure) ∨
    ∃ s t, { request with theme := a }.compile = .ok s ∧
      { request with theme := b }.compile = .ok t ∧ Json.Recolored a.palette b.palette s t := by
  cases isResolved : resolveConfig request.config request.data request.schema with
  | error failure =>
    have failed : ∀ theme, { request with theme }.compile = .error failure := by
      intro theme
      change (resolveConfig request.config request.data request.schema >>= _) = _
      rw [isResolved]
      rfl
    exact .inl ⟨failure, failed a, failed b⟩
  | ok resolved =>
    cases isKind : resolved.kind with
    | none =>
      have failed : ∀ theme, { request with theme }.compile = .error .noDefaultChart := by
        intro theme
        change (resolveConfig request.config request.data request.schema >>= _) = _
        rw [isResolved]
        simp only [bind, Except.bind, isKind]
      exact .inl ⟨_, failed a, failed b⟩
    | some kind =>
      let ctx := request.context resolved kind
      have drawn : ∀ theme : Theme, { request with theme }.compile =
          (Chart.build kind (ctx.painted theme.palette)).map fun chart => (Fragment.compose
            [request.document resolved kind chart, request.shownTitle resolved]).toJson :=
        fun _ => compile_of_resolved isResolved isKind
      rw [drawn, drawn]
      rcases Chart.build_recolored ctx a.palette b.palette kind with
        ⟨failure, first, second⟩ | ⟨f, g, first, second, charts⟩
      · rw [first, second]
        exact .inl ⟨failure, rfl, rfl⟩
      · rw [first, second]
        have body := request.document_recolored resolved kind charts
        have documents := (Fragment.Recolored.merge (.same .empty) body).merge
          (.same (request.shownTitle resolved))
        exact .inr ⟨_, _, rfl, rfl, documents.toJson⟩

end ChartCompiler

import Mathlib
import ChartCompiler.Interaction
import ChartCompiler.Proofs.Schema.Columns

/-!
The payload of a click. `ClickedColumns` states by which columns a click on a row filters, with
their values and in their order, and knows nothing of how the payload is put together: the row
has a value that is not `null` in the column, a channel other than the facet is bound to it, and
a click on a chart of the kind filters by it. `Coordinator.payload_exact` says that the payload
holds exactly these columns, unless a field of regions is bound, which then stands alone. The
bindings are taken in one after the other, and `Coordinator.payloadStep_extends` is what one of
them does.
-/

namespace ChartCompiler

/-! ## Which columns are clicked -/

/-- A click on a chart of the kind filters by the column. -/
inductive Column.TakesClicks (column : Column) (kind : Option ChartKind) : Prop
  | label : column.isCategorical → column.TakesClicks kind
  | region : column.isGeographic → column.TakesClicks kind
  | latitude : column.isLatitude → column.TakesClicks kind
  | longitude : column.isLongitude → column.TakesClicks kind
  | time : column.isTemporal → kind ≠ some .area → column.TakesClicks kind

/-- The channel stands in front of another in channel order. -/
def Channel.Before (channel other : Channel) : Prop :=
  Channel.all.idxOf channel < Channel.all.idxOf other

/-- The columns by which a click on the row filters, with the values that the row has in them.
`bound` tells which channels are bound to which fields. -/
structure ClickedColumns (bound : Channel → String → Prop) (kind : Option ChartKind)
    (schema : Schema) (datum : Row) (clicked : List (Column × Json)) : Prop where
  mem_iff : ∀ column value, (column, value) ∈ clicked ↔
    column ∈ schema.columns ∧ (∃ channel, channel ≠ .trellis ∧ bound channel column.name) ∧
      Entries.get? datum column.name = some value ∧ value ≠ .null ∧ column.TakesClicks kind
  /-- columns stand in the order of the first channels that are bound to them -/
  ordered : clicked.Pairwise fun a b =>
    ∃ channel, channel ≠ .trellis ∧ bound channel a.1.name ∧
      ∀ other, other ≠ .trellis → bound other b.1.name → channel.Before other

/-- What a payload shows of clicked columns: their values by field. -/
def chartEntries (clicked : List (Column × Json)) : List (String × Json) :=
  clicked.map fun entry => (entry.1.name, entry.2)

/-- What a payload filters by: the filter values of the columns by their filter keys. -/
def filterEntries (clicked : List (Column × Json)) : List (String × Json) :=
  clicked.map fun entry => (entry.1.filterKey, entry.1.filterValue entry.2)

theorem keys_chartEntries (clicked : List (Column × Json)) :
    Entries.keys (chartEntries clicked) = clicked.map fun entry => entry.1.name := by
  simp [Entries.keys, chartEntries]

theorem keys_filterEntries (clicked : List (Column × Json)) :
    Entries.keys (filterEntries clicked) = clicked.map fun entry => entry.1.filterKey := by
  simp [Entries.keys, filterEntries]

theorem Column.isClickable_iff {column : Column} {kind : Option ChartKind} :
    column.isClickable kind = true ↔ column.TakesClicks kind := by
  simp only [isClickable, Bool.or_eq_true, Bool.and_eq_true, decide_eq_true_eq, or_assoc]
  constructor
  · rintro (label | region | latitude | longitude | ⟨time, notArea⟩)
    · exact .label label
    · exact .region region
    · exact .latitude latitude
    · exact .longitude longitude
    · exact .time time notArea
  · rintro (label | region | latitude | longitude | ⟨time, notArea⟩) <;> simp [*]

namespace Coordinator

theorem present?_eq_some_iff {datum : Row} {field : String} {value : Json} :
    present? datum field = some value ↔
      Entries.get? datum field = some value ∧ value ≠ .null := by
  have isNull : ∀ {v : Json}, (!v.isNull) = true ↔ v ≠ .null := by
    intro v
    cases v <;> simp [Json.isNull]
  rw [present?, Option.filter_eq_some_iff, isNull]

end Coordinator

theorem ChartConfig.mem_boundFields {config : ChartConfig} {channel : Channel} {field : String} :
    (channel, field) ∈ config.boundFields ↔ config.field channel = some field := by
  simp [boundFields, Channel.mem_all]

theorem ChartConfig.boundFields_pairwise (config : ChartConfig) :
    config.boundFields.Pairwise fun a b => a.1.Before b.1 := by
  have channels : Channel.all.Pairwise Channel.Before := by
    unfold Channel.Before
    decide
  refine List.Pairwise.filterMap _ ?_ channels
  intro a b before entry isA other isB
  obtain ⟨f, -, rfl⟩ := Option.map_eq_some_iff.mp isA
  obtain ⟨g, -, rfl⟩ := Option.map_eq_some_iff.mp isB
  exact before

/-- There is one way to list the columns. -/
theorem ClickedColumns.unique {bound : Channel → String → Prop} {kind : Option ChartKind}
    {schema : Schema} {datum : Row} {some other : List (Column × Json)}
    (columns : ClickedColumns bound kind schema datum some)
    (alike : ClickedColumns bound kind schema datum other) : some = other := by
  have nodup : ∀ {clicked}, ClickedColumns bound kind schema datum clicked → clicked.Nodup := by
    intro clicked columns
    refine columns.ordered.imp ?_
    rintro a b ⟨channel, notFacet, isBound, before⟩ rfl
    exact lt_irrefl _ (before channel notFacet isBound)
  refine List.Perm.eq_of_pairwise ?_ columns.ordered alike.ordered
    ((List.perm_ext_iff_of_nodup (nodup columns) (nodup alike)).mpr fun _ =>
      (columns.mem_iff _ _).trans (alike.mem_iff _ _).symm)
  rintro a b - - ⟨c, notFacet, isBound, before⟩ ⟨d, dNotFacet, dIsBound, dBefore⟩
  exact absurd (before d dNotFacet dIsBound) (lt_asymm (dBefore c notFacet isBound))

/-! ## One binding after the other -/

namespace ClickedColumns

variable {bound more : Channel → String → Prop} {kind : Option ChartKind} {schema : Schema}
  {datum : Row} {clicked : List (Column × Json)} {channel : Channel} {field : String}

/-- A binding comes after all that were taken in. -/
structure Extends (bound more : Channel → String → Prop) (channel : Channel) (field : String) :
    Prop where
  iff : ∀ c f, more c f ↔ bound c f ∨ c = channel ∧ f = field
  last : ∀ c f, bound c f → c.Before channel

/-- Columns keep their order when a later binding is taken in. -/
theorem Extends.ordered (extend : Extends bound more channel field)
    (columns : ClickedColumns bound kind schema datum clicked) :
    clicked.Pairwise fun a b => ∃ c, c ≠ .trellis ∧ more c a.1.name ∧
      ∀ other, other ≠ .trellis → more other b.1.name → c.Before other := by
  refine columns.ordered.imp ?_
  rintro a b ⟨c, notFacet, isBound, before⟩
  refine ⟨c, notFacet, (extend.iff _ _).mpr (.inl isBound), fun other notFacet otherBound => ?_⟩
  rcases (extend.iff _ _).mp otherBound with otherBound | ⟨rfl, -⟩
  · exact before other notFacet otherBound
  · exact extend.last _ _ isBound

/-- A binding by which no new column is clicked changes nothing. -/
theorem keep (columns : ClickedColumns bound kind schema datum clicked)
    (extend : Extends bound more channel field)
    (old : channel ≠ .trellis → ∀ column value, column.name = field → column ∈ schema.columns →
      Entries.get? datum field = some value → value ≠ .null → column.TakesClicks kind →
      ∃ c, c ≠ .trellis ∧ bound c field) :
    ClickedColumns more kind schema datum clicked := by
  refine ⟨fun column value => ?_, extend.ordered columns⟩
  rw [columns.mem_iff]
  constructor
  · rintro ⟨inside, ⟨c, notFacet, isBound⟩, rest⟩
    exact ⟨inside, ⟨c, notFacet, (extend.iff _ _).mpr (.inl isBound)⟩, rest⟩
  · rintro ⟨inside, ⟨c, notFacet, isBound⟩, found, present, takes⟩
    refine ⟨inside, ?_, found, present, takes⟩
    rcases (extend.iff _ _).mp isBound with isBound | ⟨rfl, isField⟩
    · exact ⟨c, notFacet, isBound⟩
    · rw [isField] at found ⊢
      exact old notFacet column value isField inside found present takes

/-- A binding by which a new column is clicked puts it at the end. -/
theorem concat (columns : ClickedColumns bound kind schema datum clicked)
    (extend : Extends bound more channel field) {column : Column} {value : Json}
    (notFacet : channel ≠ .trellis) (isField : column.name = field)
    (inside : column ∈ schema.columns) (found : Entries.get? datum field = some value)
    (present : value ≠ .null) (takes : column.TakesClicks kind)
    (fresh : ∀ c, c ≠ .trellis → ¬ bound c field) :
    ClickedColumns more kind schema datum (clicked ++ [(column, value)]) := by
  subst isField
  constructor
  · intro other w
    rw [List.mem_append, columns.mem_iff, List.mem_singleton, Prod.mk.injEq]
    constructor
    · rintro (⟨otherInside, ⟨c, other, isBound⟩, rest⟩ | ⟨rfl, rfl⟩)
      · exact ⟨otherInside, ⟨c, other, (extend.iff _ _).mpr (.inl isBound)⟩, rest⟩
      · exact ⟨inside, ⟨channel, notFacet, (extend.iff _ _).mpr (.inr ⟨rfl, rfl⟩)⟩, found, present,
          takes⟩
    · rintro ⟨otherInside, ⟨c, otherChannel, isBound⟩, otherFound, otherRest⟩
      rcases (extend.iff _ _).mp isBound with isBound | ⟨rfl, sameName⟩
      · exact .inl ⟨otherInside, ⟨c, otherChannel, isBound⟩, otherFound, otherRest⟩
      · have same := List.inj_on_of_nodup_map schema.distinct otherInside inside sameName
        subst same
        exact .inr ⟨rfl, Option.some.inj (otherFound.symm.trans found)⟩
  · refine List.pairwise_append.mpr ⟨extend.ordered columns, List.pairwise_singleton .., ?_⟩
    rintro ⟨a, w⟩ insideOld b isNew
    obtain rfl := List.mem_singleton.mp isNew
    obtain ⟨-, ⟨c, cChannel, isBound⟩, -⟩ := (columns.mem_iff a w).mp insideOld
    refine ⟨c, cChannel, (extend.iff _ _).mpr (.inl isBound), fun other otherChannel isOther => ?_⟩
    rcases (extend.iff _ _).mp isOther with isOther | ⟨rfl, -⟩
    · exact absurd isOther (fresh other otherChannel)
    · exact extend.last _ _ isBound

end ClickedColumns

namespace DimensionClick

/-- The click that shows and filters by the columns. -/
def ofColumns (clicked : List (Column × Json)) (append : Bool) : DimensionClick :=
  ⟨Entries.ofPairs (filterEntries clicked), chartEntries clicked, append⟩

theorem ofColumns_concat {clicked : List (Column × Json)} {column : Column} {value : Json} {append : Bool}
    (fresh : column.name ∉ Entries.keys (chartEntries clicked)) :
    (ofColumns clicked append).insert column (column.filterValue value) value =
      ofColumns (clicked ++ [(column, value)]) append := by
  have filters : filterEntries (clicked ++ [(column, value)]) =
      filterEntries clicked ++ [(column.filterKey, column.filterValue value)] := List.map_append
  have chart : chartEntries (clicked ++ [(column, value)]) =
      chartEntries clicked ++ [(column.name, value)] := List.map_append
  simp only [ofColumns, DimensionClick.insert, filters, chart, Entries.ofPairs_concat,
    Entries.insert_of_fresh fresh]

end DimensionClick

namespace Coordinator

variable {bound more : Channel → String → Prop} {datum : Row} {clicked : List (Column × Json)}
  {channel : Channel} {field : String}

/-- One binding is taken into the payload. -/
theorem payloadStep_extends {c : Coordinator} (append : Bool)
    (columns : ClickedColumns bound c.config.kind c.schema datum clicked)
    (extend : ClickedColumns.Extends bound more channel field) :
    ∃ clicked', ClickedColumns more c.config.kind c.schema datum clicked' ∧
      c.payloadStep datum (.ofColumns clicked append) (channel, field) =
        .ofColumns clicked' append := by
  have inChart : Entries.contains (DimensionClick.ofColumns clicked append).chart field = true ↔
      ∃ column value, (column, value) ∈ clicked ∧ column.name = field := by
    rw [Entries.contains_iff_mem_keys, DimensionClick.ofColumns, keys_chartEntries]
    simp
  rw [payloadStep]
  split
  next skipped =>
    refine ⟨clicked, columns.keep extend fun notFacet _ _ _ _ _ _ _ => ?_, rfl⟩
    have shown : Entries.contains (DimensionClick.ofColumns clicked append).chart field = true := by
      simpa [notFacet] using skipped
    obtain ⟨column, value, inside, rfl⟩ := inChart.mp shown
    obtain ⟨-, isBound, -⟩ := (columns.mem_iff column value).mp inside
    exact isBound
  next taken =>
    obtain ⟨notFacet, absent⟩ : channel ≠ .trellis ∧
        ¬ ∃ column value, (column, value) ∈ clicked ∧ column.name = field := by
      rw [← inChart]
      simpa using taken
    split
    next column value isColumn isPresent =>
      obtain ⟨inside, rfl⟩ := (c.schema.get?_eq_some_iff).mp isColumn
      obtain ⟨found, present⟩ := present?_eq_some_iff.mp isPresent
      split
      next clickable =>
        have takes := Column.isClickable_iff.mp clickable
        refine ⟨clicked ++ [(column, value)],
          columns.concat extend notFacet rfl inside found present takes ?_, ?_⟩
        · intro other otherChannel isBound
          exact absent ⟨column, value, (columns.mem_iff ..).mpr
            ⟨inside, ⟨other, otherChannel, isBound⟩, found, present, takes⟩, rfl⟩
        · refine DimensionClick.ofColumns_concat fun inKeys => absent ?_
          rw [keys_chartEntries] at inKeys
          simpa using inKeys
      next idle =>
        refine ⟨clicked, columns.keep extend fun _ other w sameName otherInside _ _ takes => ?_, rfl⟩
        obtain rfl := List.inj_on_of_nodup_map c.schema.distinct otherInside inside sameName
        exact absurd (Column.isClickable_iff.mpr takes) idle
    next missing =>
      refine ⟨clicked, columns.keep extend fun _ column value sameName inside found present _ => ?_,
        rfl⟩
      exact (missing column value ((c.schema.get?_eq_some_iff).mpr ⟨inside, sameName⟩)
        (present?_eq_some_iff.mpr ⟨found, present⟩)).elim

/-- All bindings are taken into the payload. -/
theorem foldl_payloadStep {c : Coordinator} (datum : Row) (append : Bool)
    (bindings : List (Channel × String)) (inOrder : bindings.Pairwise fun a b => a.1.Before b.1) :
    ∃ clicked, ClickedColumns (fun channel field => (channel, field) ∈ bindings) c.config.kind
        c.schema datum clicked ∧
      bindings.foldl (c.payloadStep datum) (.empty append) = .ofColumns clicked append := by
  induction bindings using List.reverseRecOn with
  | nil => exact ⟨[], ⟨by simp, .nil⟩, rfl⟩
  | append_singleton bindings binding ih =>
    obtain ⟨earlier, -, last⟩ := List.pairwise_append.mp inOrder
    obtain ⟨clicked, columns, folded⟩ := ih earlier
    rw [List.foldl_concat, folded]
    refine payloadStep_extends append columns ⟨fun channel field => ?_, fun channel field isBound => ?_⟩
    · rw [List.mem_append, List.mem_singleton]
      exact or_congr .rfl Prod.ext_iff
    · exact last _ isBound _ (List.mem_singleton_self _)

theorem payload_append (c : Coordinator) (datum : Row) (append : Bool) :
    (c.payload datum append).append = append := by
  rw [payload]
  split
  · split <;> rfl
  · obtain ⟨clicked, -, folded⟩ := foldl_payloadStep datum append _ c.config.boundFields_pairwise
    rw [folded, DimensionClick.ofColumns]

theorem payload_of_geo {c : Coordinator} {datum : Row} {append : Bool} {column : Column}
    {value : Json} (isGeo : c.config.field .geo = some column.name)
    (inside : column ∈ c.schema.columns) (found : Entries.get? datum column.name = some value)
    (present : value ≠ .null) :
    c.payload datum append = ⟨[(column.filterKey, value)], [(column.name, value)], append⟩ := by
  have isColumn := c.schema.get?_eq_some_iff.mpr ⟨inside, rfl⟩
  have isPresent := present?_eq_some_iff.mpr ⟨found, present⟩
  simp only [payload, isGeo, isColumn, isPresent]
  rfl

theorem payload_of_geo_absent {c : Coordinator} {datum : Row} {append : Bool} {geo : String}
    (isGeo : c.config.field .geo = some geo)
    (absent : (∀ column ∈ c.schema.columns, column.name ≠ geo) ∨
      ∀ value, Entries.get? datum geo = some value → value = .null) :
    c.payload datum append = .empty append := by
  simp only [payload, isGeo]
  split
  next column value isColumn isPresent =>
    obtain ⟨inside, isField⟩ := c.schema.get?_eq_some_iff.mp isColumn
    obtain ⟨found, present⟩ := present?_eq_some_iff.mp isPresent
    rcases absent with noColumn | noValue
    · exact absurd isField (noColumn column inside)
    · exact absurd (noValue value found) present
  next => rfl

/-- The payload of a click on a row holds what the row has in the columns that are bound, each
once, in the order in which channels are bound to them, and says whether it is added to the
filters. A field of regions stands alone and keeps its value in the filter. -/
theorem payload_exact (c : Coordinator) (datum : Row) (append : Bool) :
    (c.payload datum append).append = append ∧
      (c.config.field .geo = none →
        let columns := ClickedColumns (fun channel field => c.config.field channel = some field)
          c.config.kind c.schema datum
        (∃ clicked, columns clicked) ∧
        ∀ clicked, columns clicked →
          (c.payload datum append).chart = chartEntries clicked ∧
          (c.payload datum append).filters = Entries.ofPairs (filterEntries clicked) ∧
          ((clicked.map fun entry => entry.1.filterKey).Nodup →
            (c.payload datum append).filters = filterEntries clicked ∧
            (c.payload datum append).filters.length = (c.payload datum append).chart.length)) ∧
      ∀ geo, c.config.field .geo = some geo →
        (∀ column ∈ c.schema.columns, column.name = geo →
          ∀ value, Entries.get? datum geo = some value → value ≠ .null →
            (c.payload datum append).chart = [(geo, value)] ∧
            (c.payload datum append).filters = [(column.filterKey, value)]) ∧
        ((∀ column ∈ c.schema.columns, column.name ≠ geo) ∨
            (∀ value, Entries.get? datum geo = some value → value = .null) →
          (c.payload datum append).chart = [] ∧ (c.payload datum append).filters = []) := by
  refine ⟨payload_append c datum append, fun noGeo => ?_, fun geo isGeo => ⟨?_, fun absent => ?_⟩⟩
  · have folded : c.payload datum append =
        c.config.boundFields.foldl (c.payloadStep datum) (.empty append) := by
      simp only [payload, noGeo]
    obtain ⟨clicked, columns, isPayload⟩ :=
      foldl_payloadStep datum append _ c.config.boundFields_pairwise
    simp only [ChartConfig.mem_boundFields] at columns
    refine ⟨⟨clicked, columns⟩, fun other alike => ?_⟩
    obtain rfl := columns.unique alike
    rw [folded, isPayload, DimensionClick.ofColumns]
    refine ⟨rfl, rfl, fun distinct => ?_⟩
    have asWritten : Entries.ofPairs (filterEntries clicked) = filterEntries clicked :=
      Entries.ofPairs_of_distinct (keys_filterEntries clicked ▸ distinct)
    refine ⟨asWritten, ?_⟩
    rw [asWritten, filterEntries, chartEntries, List.length_map, List.length_map]
  · rintro column inside rfl value found present
    rw [payload_of_geo isGeo inside found present]
    exact ⟨rfl, rfl⟩
  · rw [payload_of_geo_absent isGeo absent]
    exact ⟨rfl, rfl⟩

/-- A year is bound to two channels, the facet holds a column of its own, a region and a country
are filtered under one address, and the row has no value in one of the columns. -/
theorem payload_exact_shared_address :
    let year : Column := { name := "sold", type := .integer, traits := ["time.year"] }
    let region : Column := { name := "region", type := .string, address := some "place" }
    let country : Column := { name := "country", type := .string, address := some "place" }
    let schema : Schema :=
      ⟨[region, country, year, { name := "state", type := .string },
        { name := "shop", type := .string }], by decide⟩
    let config : ChartConfig :=
      { kind := some .area
        bindings := { x := some "sold", y := some "shop", color := some "country",
                      size := some "region", group := some "sold", trellis := some "state" } }
    let datum : Row :=
      [("state", "Utah"), ("country", "US"), ("region", "west"), ("shop", .null), ("sold", 2021)]
    let c : Coordinator := { config, schema }
    c.config.field .geo = none ∧
      ∃ clicked, ClickedColumns (fun channel field => c.config.field channel = some field)
          c.config.kind c.schema datum clicked ∧
        chartEntries clicked =
          [("sold", (2021 : Json)), ("country", .string "US"), ("region", .string "west")] ∧
        Entries.ofPairs (filterEntries clicked) =
          [("sold", (2021 : Json)), ("place", .string "west")] ∧
        (c.payload datum true).append = true := by
  intro year region country schema config datum c
  have noGeo : c.config.field .geo = none := by decide
  obtain ⟨append, exact, -⟩ := payload_exact c datum true
  obtain ⟨⟨clicked, columns⟩, settled⟩ := exact noGeo
  obtain ⟨chart, filters, -⟩ := settled clicked columns
  exact ⟨noGeo, clicked, columns, chart.symm.trans (by decide +kernel),
    filters.symm.trans (by decide +kernel), append⟩

end Coordinator

end ChartCompiler

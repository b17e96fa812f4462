import Mathlib
import ChartCompiler.Proofs.Compile.Channels
import ChartCompiler.Proofs.Interaction.Timing
import ChartCompiler.Proofs.Schema.Columns

/-!
The key of a brushed range. The engine keeps the range that is brushed over a channel under the
field of the channel, with the unit of time in front if it has one. A series puts the unit of its
column's base type on every x channel (`namesBrush_of_compile`), while a coordinator looks every
range over the calendar up by days. The two agree except over `datetime` and `timestamp`
(`Column.brushKey_eq_engineName_iff`), and there whatever is brushed counts as cleared
(`brush_reported_iff`).
-/

namespace ChartCompiler

/-! ## The name of a channel -/

/-- The name under which the engine keeps what is brushed over a channel. -/
def Json.engineName? (encoding : Json) : Option String := do
  let field ← (encoding.member? "field").bind asString?
  match (encoding.member? "timeUnit").bind asString? with
  | some unit => some (unit ++ "_" ++ field)
  | none => some field

/-- Every x channel of the document has the name, and there is one. -/
def Json.NamesBrush (document : Json) (name : String) : Prop :=
  (∃ encoding, ("x", encoding) ∈ document.channels) ∧
    ∀ encoding, ("x", encoding) ∈ document.channels → encoding.engineName? = some name

/-- The unit of time by which a type is drawn. -/
def ColumnType.timeUnit? : ColumnType → Option String
  | date => some "yearmonthdate"
  | datetime => some "yearmonthdatehours"
  | time => some "hoursminutesseconds"
  | _ => none

/-- The name of a channel that draws the column. -/
def Column.engineName (column : Column) : String :=
  match column.type.timeUnit? with
  | some unit => unit ++ "_" ++ column.name
  | none => column.name

section

variable {schema : Schema} {column : Column}

theorem get?_formatHint (found : schema.get? column.name = some column) :
    (formatHint schema column.name).get? "timeUnit" = column.type.timeUnit?.map .string ∧
      (formatHint schema column.name).get? "field" = none := by
  unfold formatHint
  rw [found, Option.map_some]
  cases column.type <;> exact ⟨rfl, rfl⟩

theorem engineName?_of_get? {f : Fragment} (field : f.get? "field" = some (.string column.name))
    (unit : f.get? "timeUnit" = column.type.timeUnit?.map .string) :
    f.toJson.engineName? = some column.engineName := by
  unfold Json.engineName? Column.engineName
  rw [Fragment.member?_toJson, Fragment.member?_toJson, field, unit]
  cases column.type.timeUnit? <;> rfl

/-- Whatever else a chart adds to the encoding of a column, its name is that of the column. -/
theorem engineName?_encodeField {added : Fragment} (titled : Bool) (scale : Option ScaleType)
    (found : schema.get? column.name = some column) (named : column.name ≠ "")
    (noUnit : added.get? "timeUnit" = none) (noField : added.get? "field" = none) :
    (encodeField schema column.name added titled scale).toJson.engineName? =
      some column.engineName := by
  obtain ⟨isUnit, isField⟩ := get?_formatHint found
  let base := Fragment.ofMembers
    [("field", column.name), ("type", measureType schema column.name)]
  let titledBase := if titled then base.set "title" (fieldTitle schema column.name) else base
  have titledField : titledBase.get? "field" = some (.string column.name) := by
    cases titled <;> rfl
  have titledUnit : titledBase.get? "timeUnit" = none := by
    cases titled <;> rfl
  let encoding := (titledBase.merge (formatHint schema column.name)).merge added
  have field : encoding.get? "field" = some (.string column.name) := by
    rw [Fragment.get?_merge, Fragment.get?_merge, noField, isField, titledField]
    rfl
  have unit : encoding.get? "timeUnit" = column.type.timeUnit?.map .string := by
    rw [Fragment.get?_merge, Fragment.get?_merge, noUnit, isUnit, titledUnit, Option.none_or,
      Option.or_none]
  unfold encodeField
  rw [if_neg named]
  cases scale with
  | none => exact engineName?_of_get? field unit
  | some s =>
    refine engineName?_of_get? ?_ ?_
    · rw [Fragment.get?_set]
      exact field
    · rw [Fragment.get?_set]
      exact unit

end

/-! ## The x channels of a series -/

/-- The channel has the name of the column, if it is an x channel. -/
def Column.NamesX (column : Column) (channel : String × Json) : Prop :=
  channel.1 = "x" → channel.2.engineName? = some column.engineName

theorem Column.namesX_other (column : Column) {key : String} (other : key ≠ "x") (value : Json) :
    column.NamesX (key, value) :=
  fun same => absurd same other

theorem namesX_series {ctx : ChartContext} {column : Column}
    (isX : ctx.config.field .x = some column.name) (named : column.name ≠ "")
    (found : ctx.schema.get? column.name = some column) (shared : ctx.shared.All column.NamesX)
    (area : Bool) : ∀ channel ∈ (Chart.series ctx area).channels, column.NamesX channel := by
  have drawn : ctx.field .x = column.name := by rw [ChartContext.field, isX, Option.getD_some]
  refine Chart.all_channels_series (fun _ => ?_) (fun _ => ?_) (fun key other value => ?_) shared
    area
  · rw [drawn]
    exact engineName?_encodeField true _ found named rfl rfl
  · rw [drawn]
    exact engineName?_encodeField true _ found named rfl rfl
  · refine column.namesX_other ?_ value
    rintro rfl
    exact absurd other (by decide)

/-- The x channels of a series over a column are named by the column. -/
theorem namesBrush_of_compile {request : ChartRequest} {document : Json} {column : Column}
    (isOver : request.config.IsSeriesOver request.schema column)
    (compiled : request.compile = .ok document) : document.NamesBrush column.engineName := by
  obtain ⟨resolved, kind, chart, -, completes, isKind, built, channels⟩ :=
    ChartRequest.exists_channels_of_compile compiled
  obtain ⟨series, x, bound, found⟩ := isOver
  obtain ⟨inside, rfl⟩ := request.schema.get?_eq_some_iff.mp found
  have named : column.name ≠ "" := (ChartConfig.field_eq_some_iff.mp bound).2
  have present : request.schema.contains column.name := Option.isSome_of_eq_some found
  have isX : resolved.field .x = some column.name := completes.explicit .x _ bound present
  let ctx := request.context resolved kind
  obtain ⟨area, encoded, rfl⟩ :
      ∃ area, kind.isLowLevel = false ∧ chart = Chart.series ctx area := by
    obtain ⟨own, isOwn, keeps⟩ := completes.kind
    obtain rfl : kind = own := Option.some.inj (isKind.symm.trans isOwn)
    rcases series with line | area
    · obtain rfl := keeps .line line
      exact ⟨false, rfl, (Except.ok.inj built).symm⟩
    · obtain rfl := keeps .area area
      exact ⟨true, rfl, (Except.ok.inj built).symm⟩
  have shared : ctx.shared.All column.NamesX :=
    all_sharedEncoding _ _ _ _ fun _ => column.namesX_other (by decide) _
  have isChannel : ∀ {channel}, channel ∈ document.channels ↔
      channel ∈ (Chart.series ctx area).channels := (channels encoded).mem_iff
  constructor
  · obtain ⟨encoding, inside⟩ := Chart.exists_x_series ctx area
    exact ⟨encoding, isChannel.mpr inside⟩
  · intro encoding inside
    exact namesX_series isX named found shared area _ (isChannel.mp inside) rfl

/-! ## The key that is looked up -/

/-- Days are looked up over the calendar, whatever the unit of time on the axis. -/
theorem brushKey_eq_engineName_iff {column : Column}
    (ordered : column.type.isCalendar ∨ column.type.isNumeric) :
    Coordinator.brushKey column = column.engineName ↔
      column.type ≠ .datetime ∧ column.type ≠ .timestamp := by
  unfold Coordinator.brushKey Column.engineName
  revert ordered
  cases column.type <;> simp [ColumnType.isCalendar, ColumnType.isNumeric, ColumnType.timeUnit?]

namespace Coordinator

section

variable {c : Coordinator} {column : Column} {range : Json}

theorem brush_of_brushed {values : List Json} (now : Nat)
    (series : c.config.IsSeriesOver c.schema column) (found : brushed? column range = some values) :
    c.brush now range = (c, rangeCalls column values) := by
  rw [brush, if_pos (ChartKind.any_isTimeSeries_iff.mpr series.1), bind_eq_some_of_series series]
  dsimp only
  rw [found]

/-- One range without values counts as cleared like another. -/
theorem brush_of_cleared {other : Json} (now : Nat)
    (series : c.config.IsSeriesOver c.schema column) (cleared : brushed? column range = none)
    (otherCleared : brushed? column other = none) : c.brush now range = c.brush now other := by
  rw [brush, brush, if_pos (ChartKind.any_isTimeSeries_iff.mpr series.1),
    if_pos (ChartKind.any_isTimeSeries_iff.mpr series.1), bind_eq_some_of_series series]
  dsimp only
  rw [cleared, otherCleared]

theorem isBrushed_singleton_iff {name : String} {stored values : List Json} :
    column.IsBrushed (.object [(name, .array stored)]) values ↔
      brushKey column = name ∧ stored = values := by
  unfold Column.IsBrushed
  change Entries.get? [(name, Json.array stored)] (brushKey column) = some (.array values) ↔ _
  rw [Entries.get?_cons]
  split
  next same => simp [same]
  next other => simp [other, Entries.get?]

/-- Values over a column that is measured or lies on the calendar are reported. -/
theorem exists_rangeCalls {values : List Json}
    (ordered : column.type.isCalendar ∨ column.type.isNumeric) (nonempty : values ≠ []) :
    ∃ first last filter, values.head? = some first ∧ values.getLast? = some last ∧
      rangeCalls column values = [.dimension (.between column filter first last)] := by
  have isFirst := List.head?_eq_some_head nonempty
  have isLast := List.getLast?_eq_some_getLast nonempty
  obtain ⟨filter, isFilter⟩ : ∃ filter,
      rangeFilter? column (values.head nonempty) (values.getLast nonempty) = some filter := by
    unfold rangeFilter?
    rcases ordered with calendar | numeric
    · exact ⟨_, if_pos calendar⟩
    · exact ⟨_, (if_neg (ColumnType.not_isCalendar_of_isNumeric numeric)).trans (if_pos numeric)⟩
  refine ⟨_, _, filter, isFirst, isLast, ?_⟩
  rw [rangeCalls_eq isFirst isLast, isFilter]
  rfl

end

end Coordinator

/-- **Brushes over hours and time stamps count as cleared.** In a document over a column that is
measured or lies on the calendar the engine keeps what is brushed under one name. A coordinator
looks it up under that name unless the column is a `datetime` or a `timestamp`. If it does, it
reports every brush with values as a click on that column, from the first value to the last; if
not, it takes every such brush for one that was cleared. -/
theorem brush_reported_or_cleared {request : ChartRequest} {document : Json} {column : Column}
    (isOver : request.config.IsSeriesOver request.schema column)
    (ordered : column.type.isCalendar ∨ column.type.isNumeric)
    (compiled : request.compile = .ok document) :
    document.NamesBrush column.engineName ∧
    (Coordinator.brushKey column = column.engineName ↔
      column.type ≠ .datetime ∧ column.type ≠ .timestamp) ∧
    ∀ (c : Coordinator) (now : Nat) (values : List Json),
      c.config.IsSeriesOver c.schema column → values ≠ [] →
      let brushed := c.brush now (.object [(column.engineName, .array values)])
      (Coordinator.brushKey column = column.engineName →
        ∃ first last filter, values.head? = some first ∧ values.getLast? = some last ∧
          brushed = (c, [.dimension (.between column filter first last)])) ∧
      (Coordinator.brushKey column ≠ column.engineName →
        brushed = c.brush now (.object [])) := by
  refine ⟨namesBrush_of_compile isOver compiled, brushKey_eq_engineName_iff ordered, ?_⟩
  intro c now values series nonempty brushed
  constructor
  · intro looksUp
    obtain ⟨first, last, filter, isFirst, isLast, calls⟩ :=
      Coordinator.exists_rangeCalls ordered nonempty
    refine ⟨first, last, filter, isFirst, isLast, ?_⟩
    rw [← calls]
    exact Coordinator.brush_of_brushed now series (Coordinator.brushed?_eq_some_iff.mpr
      ⟨Coordinator.isBrushed_singleton_iff.mpr ⟨looksUp, rfl⟩, nonempty⟩)
  · intro misses
    refine Coordinator.brush_of_cleared now series ?_ rfl
    refine Coordinator.brushed?_eq_none_iff.mpr fun others found => ?_
    exact absurd (Coordinator.isBrushed_singleton_iff.mp found).1 misses

/-- A line over hours: what is brushed is kept under one key and looked up under another. -/
theorem brush_cleared_over_hours :
    let request : ChartRequest :=
      { schema := ⟨[{ name := "placed", type := .datetime }, { name := "revenue", type := .money }],
          by decide⟩
        data := .empty
        config :=
          ((ChartConfig.ofKind .line).setField .x "placed").setField .y "revenue" }
    let c : Coordinator := { config := request.config, schema := request.schema }
    ∃ document, request.compile = .ok document ∧
      document.NamesBrush "yearmonthdatehours_placed" ∧
      ∀ now values, values ≠ [] →
        c.brush now (.object [("yearmonthdatehours_placed", .array values)]) =
          c.brush now (.object []) := by
  intro request c
  obtain ⟨document, compiled⟩ : ∃ document, request.compile = .ok document := ⟨_, rfl⟩
  have isOver : request.config.IsSeriesOver request.schema
      { name := "placed", type := .datetime } := ⟨.inl rfl, "placed", rfl, rfl⟩
  obtain ⟨names, -, brushes⟩ := brush_reported_or_cleared isOver (.inl rfl) compiled
  refine ⟨document, compiled, names, fun now values nonempty => ?_⟩
  exact (brushes c now values isOver nonempty).2 (by decide)

/-- Not every brush is reported: over a time stamp, a range of two values is taken for a click
beside all points. -/
theorem not_forall_brush_reported :
    ¬ ∀ (request : ChartRequest) (document : Json) (column : Column) (name : String),
      request.config.IsSeriesOver request.schema column →
      column.type.isCalendar ∨ column.type.isNumeric → request.compile = .ok document →
      document.NamesBrush name → Coordinator.brushKey column = name ∧
        ∀ (c : Coordinator) (now : Nat) (values : List Json),
          c.config.IsSeriesOver c.schema column → values ≠ [] →
          ∃ click, (c.brush now (.object [(name, .array values)])).2 = [.dimension click] := by
  intro reports
  let column : Column := { name := "placed", type := .timestamp }
  let request : ChartRequest :=
    { schema := ⟨[column, { name := "revenue", type := .money }], by decide⟩
      data := .empty
      config := ((ChartConfig.ofKind .line).setField .x "placed").setField .y "revenue" }
  obtain ⟨document, compiled⟩ : ∃ document, request.compile = .ok document := ⟨_, rfl⟩
  have isOver : request.config.IsSeriesOver request.schema column :=
    ⟨.inl rfl, "placed", rfl, rfl⟩
  have names : document.NamesBrush "placed" := namesBrush_of_compile isOver compiled
  obtain ⟨-, brushes⟩ := reports request document column "placed" isOver (.inl rfl) compiled names
  obtain ⟨click, isClick⟩ := brushes { config := request.config, schema := request.schema } 0
    [1, 2] isOver (List.cons_ne_nil _ _)
  cases isClick

end ChartCompiler

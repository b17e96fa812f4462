import Mathlib
import ChartCompiler.Interaction

/-!
The timing of clicks and brushes. A coordinator keeps the time of a single click and holds two
windows against it: a background click that follows a click on a card within the one has
bubbled up, and a brush that is cleared within the other was cleared by the click.
`InteractionAnswer` states what an event calls for in terms of all that came before it, with
one rule for each way to answer. `Coordinator.interactionLog_iff` says that on every history
whose times do not decrease a coordinator answers by these rules and by nothing else. What
carries the proof is `Coordinator.Follows`: the one click that is kept stands for all of them,
because it is the latest.
-/

namespace ChartCompiler

/-! ## Histories -/

/-- What a coordinator is told. -/
inductive InteractionEvent where
  /-- a click, on a row or beside all rows -/
  | click (shift : Bool) (datum : Option Row)
  | brush (range : Json)
  | setConfig (config : ChartConfig)

/-- The event is a click. -/
def InteractionEvent.isClick : InteractionEvent → Bool
  | .click .. => true
  | _ => false

/-- The configuration that an event brings into force. -/
def InteractionEvent.config? : InteractionEvent → Option ChartConfig
  | .setConfig config => some config
  | _ => none

/-- An event with the time of its arrival, in milliseconds. -/
structure TimedEvent where
  time : Nat
  event : InteractionEvent

/-- The configuration in force after a history that began with `first`. -/
def configAfter (first : ChartConfig) (history : List TimedEvent) : ChartConfig :=
  (history.filterMap (·.event.config?)).getLast?.getD first

/-- Some click of the history lies strictly less than `window` before `now`. -/
def ClickedWithin (history : List TimedEvent) (now window : Nat) : Prop :=
  ∃ past ∈ history, past.event.isClick ∧ now < past.time + window

theorem configAfter_concat (first : ChartConfig) (history : List TimedEvent) (e : TimedEvent) :
    configAfter first (history ++ [e]) = e.event.config?.getD (configAfter first history) := by
  unfold configAfter
  rw [List.filterMap_append]
  cases brought : e.event.config? with
  | none => simp [brought]
  | some config => simp [brought]

theorem clickedWithin_concat {history : List TimedEvent} {e : TimedEvent} {now window : Nat} :
    ClickedWithin (history ++ [e]) now window ↔
      ClickedWithin history now window ∨ (e.event.isClick ∧ now < e.time + window) := by
  simp [ClickedWithin, or_and_right, exists_or]

/-! ## The rules -/

theorem ChartKind.any_isTimeSeries_iff {kind : Option ChartKind} :
    kind.any ChartKind.isTimeSeries ↔ kind = some .line ∨ kind = some .area := by
  cases kind with
  | none => simp
  | some kind => cases kind <;> simp [ChartKind.isTimeSeries]

theorem ColumnType.not_isCalendar_of_isNumeric {type : ColumnType} (numeric : type.isNumeric) :
    ¬ type.isCalendar := by
  cases type <;> first | decide | cases numeric

/-- The chart is a series over the column. -/
def ChartConfig.IsSeriesOver (config : ChartConfig) (schema : Schema) (column : Column) : Prop :=
  (config.kind = some .line ∨ config.kind = some .area) ∧
    ∃ x, config.field .x = some x ∧ schema.get? x = some column

/-- The range holds these values for the column. -/
def Column.IsBrushed (column : Column) (range : Json) (values : List Json) : Prop :=
  range.member? (Coordinator.brushKey column) = some (.array values)

/-- A click that filters by one column, between two values. -/
def DimensionClick.between (column : Column) (filter first last : Json) : DimensionClick :=
  ⟨[(column.filterKey, filter)], [(column.name, .array [first, last])], false⟩

/-- What an event calls for under a configuration, where `recent` tells within which windows
there was a click before it. -/
inductive InteractionAnswer (config : ChartConfig) (schema : Schema) (recent : Nat → Prop) :
    InteractionEvent → List InteractionCall → Prop
  | background (shift : Bool) : ¬ (config.kind = some .headline ∧ recent 50) →
    InteractionAnswer config schema recent (.click shift none) [.background]
  | bubbled (shift : Bool) : config.kind = some .headline → recent 50 →
    InteractionAnswer config schema recent (.click shift none) []
  /-- a click on a row by which nothing can be filtered -/
  | point (shift : Bool) (datum : Row) :
    (({ config, schema } : Coordinator).payload datum shift).isEmpty →
    InteractionAnswer config schema recent (.click shift (some datum)) [.point datum]
  | dimension (shift : Bool) (datum : Row) {payload : DimensionClick} :
    ({ config, schema } : Coordinator).payload datum shift = payload → ¬ payload.isEmpty →
    InteractionAnswer config schema recent (.click shift (some datum))
      [.dimension payload, .point datum]
  /-- a brush on a chart that is no series -/
  | elsewhere (range : Json) : config.kind ≠ some .line → config.kind ≠ some .area →
    InteractionAnswer config schema recent (.brush range) [.background]
  /-- a brush on a series over no column -/
  | adrift (range : Json) : config.kind = some .line ∨ config.kind = some .area →
    (∀ column, ¬ config.IsSeriesOver schema column) →
    InteractionAnswer config schema recent (.brush range) []
  | cleared (range : Json) {column : Column} : config.IsSeriesOver schema column →
    (∀ values, column.IsBrushed range values → values = []) → ¬ recent 750 →
    InteractionAnswer config schema recent (.brush range) [.background]
  | clearedByClick (range : Json) {column : Column} : config.IsSeriesOver schema column →
    (∀ values, column.IsBrushed range values → values = []) → recent 750 →
    InteractionAnswer config schema recent (.brush range) []
  | dates (range : Json) {column : Column} {values : List Json} {first last : Json} :
    config.IsSeriesOver schema column → column.IsBrushed range values →
    values.head? = some first → values.getLast? = some last → column.type.isCalendar →
    InteractionAnswer config schema recent (.brush range)
      [.dimension (.between column (.array [first.toIsoDate, last.toIsoDate]) first last)]
  | quantities (range : Json) {column : Column} {values : List Json} {first last : Json} :
    config.IsSeriesOver schema column → column.IsBrushed range values →
    values.head? = some first → values.getLast? = some last → column.type.isNumeric →
    InteractionAnswer config schema recent (.brush range)
      [.dimension (.between column (.array [first, last]) first last)]
  /-- values without an order -/
  | unordered (range : Json) {column : Column} {values : List Json} :
    config.IsSeriesOver schema column → column.IsBrushed range values → values ≠ [] →
    ¬ column.type.isCalendar → ¬ column.type.isNumeric →
    InteractionAnswer config schema recent (.brush range) []
  | setConfig (next : ChartConfig) :
    InteractionAnswer config schema recent (.setConfig next) []

/-- The answers to the events of a history, each by the rules. -/
inductive InteractionLog (first : ChartConfig) (schema : Schema) :
    List TimedEvent → List (List InteractionCall) → Prop
  | nil : InteractionLog first schema [] []
  | concat {history : List TimedEvent} {log : List (List InteractionCall)} {e : TimedEvent}
      {calls : List InteractionCall} : InteractionLog first schema history log →
    InteractionAnswer (configAfter first history) schema (ClickedWithin history e.time)
      e.event calls →
    InteractionLog first schema (history ++ [e]) (log ++ [calls])

namespace Coordinator

/-! ## Runs -/

/-- One event. -/
def step (c : Coordinator) (e : TimedEvent) : Coordinator × List InteractionCall :=
  match e.event with
  | .click shift datum => c.click e.time shift datum
  | .brush range => c.brush e.time range
  | .setConfig config => (c.setConfig config, [])

/-- The events in order, and what each of them calls for. -/
def run (c : Coordinator) (events : List TimedEvent) :
    Coordinator × List (List InteractionCall) :=
  events.foldl (fun (c, log) e =>
    let (c, calls) := c.step e
    (c, log ++ [calls])) (c, [])

theorem run_concat (c : Coordinator) (events : List TimedEvent) (e : TimedEvent) :
    c.run (events ++ [e]) =
      (((c.run events).1.step e).1, (c.run events).2 ++ [((c.run events).1.step e).2]) := by
  simp only [run, List.foldl_append, List.foldl_cons, List.foldl_nil]

/-! ## One event -/

section Calls

variable {c : Coordinator} {column : Column} {range : Json} {values : List Json}

theorem snd_click_none (c : Coordinator) (now : Nat) (shift : Bool) :
    (c.click now shift none).2 =
      if c.config.kind = some .headline ∧ c.clickedWithin now 50 then [] else [.background] := by
  simp [click, bubbleWindow]

theorem snd_click_some (c : Coordinator) (now : Nat) (shift : Bool) (datum : Row) :
    (c.click now shift (some datum)).2 =
      (if (c.payload datum shift).isEmpty then [] else [.dimension (c.payload datum shift)]) ++
        [.point datum] :=
  rfl

theorem snd_brush_elsewhere (now : Nat) (range : Json)
    (apart : ¬ (c.config.kind = some .line ∨ c.config.kind = some .area)) :
    (c.brush now range).2 = [.background] := by
  rw [brush, if_neg (ChartKind.any_isTimeSeries_iff.not.mpr apart)]

theorem snd_brush_adrift (now : Nat) (range : Json)
    (series : c.config.kind = some .line ∨ c.config.kind = some .area)
    (adrift : (c.config.field .x).bind c.schema.get? = none) : (c.brush now range).2 = [] := by
  rw [brush, if_pos (ChartKind.any_isTimeSeries_iff.mpr series), adrift]

theorem bind_eq_some_of_series (series : c.config.IsSeriesOver c.schema column) :
    (c.config.field .x).bind c.schema.get? = some column := by
  obtain ⟨-, x, bound, found⟩ := series
  rw [bound, Option.bind_some, found]

theorem bind_eq_none_of_adrift (series : c.config.kind = some .line ∨ c.config.kind = some .area)
    (adrift : ¬ ∃ column, c.config.IsSeriesOver c.schema column) :
    (c.config.field .x).bind c.schema.get? = none := by
  rw [Option.eq_none_iff_forall_ne_some]
  intro column found
  obtain ⟨x, bound, found⟩ := Option.bind_eq_some_iff.mp found
  exact adrift ⟨column, series, x, bound, found⟩

/-- A brush over a column reports its values, or counts as cleared. -/
theorem snd_brush_over (now : Nat) (range : Json) (series : c.config.IsSeriesOver c.schema column) :
    (c.brush now range).2 =
      match brushed? column range with
      | some values => rangeCalls column values
      | none => if c.clickedWithin now 750 then [] else [.background] := by
  rw [brush, if_pos (ChartKind.any_isTimeSeries_iff.mpr series.1), bind_eq_some_of_series series]
  dsimp only
  cases brushed? column range <;> rfl

theorem brushed?_eq_some_iff :
    brushed? column range = some values ↔ column.IsBrushed range values ∧ values ≠ [] := by
  unfold brushed? Column.IsBrushed
  cases range.member? (brushKey column) with
  | none => simp
  | some entry => cases entry <;> simp [Json.asArray?, Option.filter_eq_some_iff]

theorem brushed?_eq_none_iff :
    brushed? column range = none ↔ ∀ values, column.IsBrushed range values → values = [] := by
  rw [Option.eq_none_iff_forall_ne_some]
  exact forall_congr' fun values => by rw [ne_eq, brushed?_eq_some_iff, not_and_not_right]

theorem rangeCalls_eq {first last : Json} (isFirst : values.head? = some first)
    (isLast : values.getLast? = some last) :
    rangeCalls column values =
      ((rangeFilter? column first last).map fun filter =>
        InteractionCall.dimension (.between column filter first last)).toList := by
  rw [rangeCalls, isFirst, isLast]
  dsimp only
  cases rangeFilter? column first last <;> rfl

theorem snd_brush_between (now : Nat) {first last : Json}
    (series : c.config.IsSeriesOver c.schema column) (brushed : column.IsBrushed range values)
    (isFirst : values.head? = some first) (isLast : values.getLast? = some last) :
    (c.brush now range).2 =
      ((rangeFilter? column first last).map fun filter =>
        InteractionCall.dimension (.between column filter first last)).toList := by
  have nonempty : values ≠ [] := by
    rintro rfl
    cases isFirst
  rw [snd_brush_over now range series, brushed?_eq_some_iff.mpr ⟨brushed, nonempty⟩]
  exact rangeCalls_eq isFirst isLast

end Calls

/-! ## Answering by the rules -/

section Answers

variable {c : Coordinator} {now : Nat} {recent : Nat → Prop} {column : Column} {range : Json}
  {values : List Json} {calls : List InteractionCall}

theorem answer_click (knows : ∀ window, c.clickedWithin now window ↔ recent window) (shift : Bool)
    (datum : Option Row) :
    InteractionAnswer c.config c.schema recent (.click shift datum)
      (c.click now shift datum).2 := by
  cases datum with
  | none =>
    rw [snd_click_none]
    split
    · next bubbled => exact .bubbled shift bubbled.1 ((knows 50).mp bubbled.2)
    · next apart => exact .background shift (by rwa [← knows])
  | some datum =>
    rw [snd_click_some]
    split
    · next isEmpty => exact .point shift datum isEmpty
    · next filters => exact .dimension shift datum rfl filters

theorem answer_values (series : c.config.IsSeriesOver c.schema column)
    (brushed : column.IsBrushed range values) (nonempty : values ≠ []) :
    InteractionAnswer c.config c.schema recent (.brush range) (rangeCalls column values) := by
  have isFirst := List.head?_eq_some_head nonempty
  have isLast := List.getLast?_eq_some_getLast nonempty
  rw [rangeCalls_eq isFirst isLast, rangeFilter?]
  split
  · next calendar => exact .dates range series brushed isFirst isLast calendar
  · next noCalendar =>
    split
    · next numeric => exact .quantities range series brushed isFirst isLast numeric
    · next noNumber => exact .unordered range series brushed nonempty noCalendar noNumber

theorem answer_brush (knows : ∀ window, c.clickedWithin now window ↔ recent window)
    (range : Json) :
    InteractionAnswer c.config c.schema recent (.brush range) (c.brush now range).2 := by
  by_cases series : c.config.kind = some .line ∨ c.config.kind = some .area
  · by_cases column : ∃ column, c.config.IsSeriesOver c.schema column
    · obtain ⟨column, isOver⟩ := column
      rw [snd_brush_over now range isOver]
      cases found : brushed? column range with
      | some values =>
        obtain ⟨brushed, nonempty⟩ := brushed?_eq_some_iff.mp found
        exact answer_values isOver brushed nonempty
      | none =>
        have cleared := brushed?_eq_none_iff.mp found
        dsimp only
        split
        · next clicked => exact .clearedByClick range isOver cleared ((knows 750).mp clicked)
        · next apart => exact .cleared range isOver cleared ((knows 750).not.mp apart)
    · rw [snd_brush_adrift now range series (bind_eq_none_of_adrift series column)]
      exact .adrift range series (not_exists.mp column)
  · rw [snd_brush_elsewhere now range series]
    exact .elsewhere range (not_or.mp series).1 (not_or.mp series).2

/-- A coordinator that knows within which windows there was a click answers by the rules. -/
theorem answer_step {e : TimedEvent}
    (knows : ∀ window, c.clickedWithin e.time window ↔ recent window) :
    InteractionAnswer c.config c.schema recent e.event (c.step e).2 := by
  obtain ⟨now, event⟩ := e
  cases event with
  | click shift datum => exact answer_click knows shift datum
  | brush range => exact answer_brush knows range
  | setConfig config => exact .setConfig config

theorem snd_click_of_answer (knows : ∀ window, c.clickedWithin now window ↔ recent window)
    {shift : Bool} {datum : Option Row}
    (answer : InteractionAnswer c.config c.schema recent (.click shift datum) calls) :
    (c.click now shift datum).2 = calls := by
  cases answer with
  | background _ apart =>
    rw [snd_click_none, if_neg (by rwa [knows])]
  | bubbled _ headline clicked =>
    rw [snd_click_none, if_pos ⟨headline, (knows 50).mpr clicked⟩]
  | point _ datum isEmpty =>
    rw [snd_click_some]
    exact congrArg (· ++ [_]) (if_pos isEmpty)
  | dimension _ datum isPayload filters =>
    subst isPayload
    rw [snd_click_some]
    exact congrArg (· ++ [_]) (if_neg filters)

theorem snd_brush_of_answer (knows : ∀ window, c.clickedWithin now window ↔ recent window)
    (answer : InteractionAnswer c.config c.schema recent (.brush range) calls) :
    (c.brush now range).2 = calls := by
  cases answer with
  | elsewhere _ noLine noArea =>
    exact snd_brush_elsewhere now range (not_or.mpr ⟨noLine, noArea⟩)
  | adrift _ series apart =>
    exact snd_brush_adrift now range series
      (bind_eq_none_of_adrift series (not_exists.mpr apart))
  | cleared _ series cleared apart =>
    rw [snd_brush_over now range series, brushed?_eq_none_iff.mpr cleared]
    exact if_neg ((knows 750).not.mpr apart)
  | clearedByClick _ series cleared clicked =>
    rw [snd_brush_over now range series, brushed?_eq_none_iff.mpr cleared]
    exact if_pos ((knows 750).mpr clicked)
  | dates _ series brushed isFirst isLast calendar =>
    rw [snd_brush_between now series brushed isFirst isLast, rangeFilter?, if_pos calendar]
    rfl
  | quantities _ series brushed isFirst isLast numeric =>
    rw [snd_brush_between now series brushed isFirst isLast, rangeFilter?,
      if_neg (ColumnType.not_isCalendar_of_isNumeric numeric), if_pos numeric]
    rfl
  | unordered _ series brushed nonempty noCalendar noNumber =>
    rw [snd_brush_between now series brushed (List.head?_eq_some_head nonempty)
      (List.getLast?_eq_some_getLast nonempty), rangeFilter?, if_neg noCalendar, if_neg noNumber]
    rfl

/-- The rules leave it no other answer. -/
theorem answer_iff_step {e : TimedEvent}
    (knows : ∀ window, c.clickedWithin e.time window ↔ recent window) :
    InteractionAnswer c.config c.schema recent e.event calls ↔ (c.step e).2 = calls := by
  refine ⟨fun answer => ?_, fun isStep => isStep ▸ answer_step knows⟩
  obtain ⟨now, event⟩ := e
  cases event with
  | click shift datum => exact snd_click_of_answer knows answer
  | brush range => exact snd_brush_of_answer knows answer
  | setConfig config =>
    cases answer
    rfl

end Answers

/-! ## One click for all -/

theorem fst_brush (c : Coordinator) (now : Nat) (range : Json) :
    (c.brush now range).1 = c ∨ (c.brush now range).1 = { c with lastBrushClear := some now } := by
  unfold brush
  split
  · split
    · exact .inl rfl
    · split
      · exact .inl rfl
      · exact .inr rfl
  · exact .inl rfl

/-- Clicks alone move the time that is kept, and changes of the configuration alone move the
configuration. -/
theorem fst_step (c : Coordinator) (e : TimedEvent) :
    (c.step e).1.config = e.event.config?.getD c.config ∧ (c.step e).1.schema = c.schema ∧
      (c.step e).1.lastClick = if e.event.isClick then some e.time else c.lastClick := by
  obtain ⟨now, event⟩ := e
  cases event with
  | click shift datum => cases datum <;> exact ⟨rfl, rfl, rfl⟩
  | brush range =>
    change (c.brush now range).1.config = c.config ∧ (c.brush now range).1.schema = c.schema ∧
      (c.brush now range).1.lastClick = c.lastClick
    rcases c.fst_brush now range with same | cleared
    · rw [same]
      exact ⟨rfl, rfl, rfl⟩
    · rw [cleared]
      exact ⟨rfl, rfl, rfl⟩
  | setConfig config => exact ⟨rfl, rfl, rfl⟩

/-- What a coordinator that began with `first` knows of its history: the configuration in
force, the schema and, by the one click that it keeps, within which windows there was one. -/
structure Follows (c : Coordinator) (first : ChartConfig) (schema : Schema)
    (history : List TimedEvent) : Prop where
  config : c.config = configAfter first history
  schema : c.schema = schema
  clicked : ∀ now, (∀ past ∈ history, past.time ≤ now) →
    ∀ window, c.clickedWithin now window ↔ ClickedWithin history now window

variable {c : Coordinator} {first : ChartConfig} {schema : Schema} {history : List TimedEvent}
  {e : TimedEvent} {log : List (List InteractionCall)}

theorem follows_nil (first : ChartConfig) (schema : Schema) :
    ({ config := first, schema } : Coordinator).Follows first schema [] where
  config := rfl
  schema := rfl
  clicked := by
    intro now _ window
    simp [clickedWithin, ClickedWithin]

theorem Follows.step (follows : c.Follows first schema history)
    (later : ∀ past ∈ history, past.time ≤ e.time) :
    (c.step e).1.Follows first schema (history ++ [e]) := by
  obtain ⟨config, isSchema, lastClick⟩ := c.fst_step e
  refine ⟨?_, isSchema.trans follows.schema, fun now reached window => ?_⟩
  · rw [config, configAfter_concat, follows.config]
  · have earlier : ∀ past ∈ history, past.time ≤ now :=
      fun past inside => reached past (List.mem_append_left _ inside)
    rw [clickedWithin_concat, clickedWithin, lastClick]
    by_cases click : e.event.isClick
    · -- whatever lies within the window before the new click, the new click does too
      have last : e.time ≤ now := reached e (by simp)
      have covered : ClickedWithin history now window → now < e.time + window := by
        rintro ⟨past, inside, -, within⟩
        have before := later past inside
        omega
      simp only [click, if_true, Option.any_some, decide_eq_true_eq, true_and]
      rw [or_iff_right_of_imp covered]
      omega
    · rw [if_neg click, ← follows.clicked now earlier window]
      simp [clickedWithin, click]

theorem follows_run (first : ChartConfig) (schema : Schema) (events : List TimedEvent)
    (ordered : events.Pairwise fun a b => a.time ≤ b.time) :
    (({ config := first, schema } : Coordinator).run events).1.Follows first schema events := by
  induction events using List.reverseRecOn with
  | nil => exact follows_nil first schema
  | append_singleton events e ih =>
    obtain ⟨ordered, -, later⟩ := List.pairwise_append.mp ordered
    rw [run_concat]
    exact (ih ordered).step fun past inside => later past inside e (List.mem_singleton_self e)

/-! ## Whole histories -/

theorem log_nil_iff : InteractionLog first schema [] log ↔ log = [] := by
  refine ⟨fun isLog => ?_, fun isEmpty => isEmpty ▸ .nil⟩
  generalize isNil : ([] : List TimedEvent) = history at isLog
  cases isLog with
  | nil => rfl
  | concat => simp at isNil

theorem log_concat_iff : InteractionLog first schema (history ++ [e]) log ↔
    ∃ before calls, log = before ++ [calls] ∧ InteractionLog first schema history before ∧
      InteractionAnswer (configAfter first history) schema (ClickedWithin history e.time)
        e.event calls := by
  constructor
  · intro isLog
    generalize isConcat : history ++ [e] = whole at isLog
    cases isLog with
    | nil => simp at isConcat
    | concat isLog answer =>
      obtain ⟨rfl, isLast⟩ := List.append_inj' isConcat rfl
      obtain rfl := List.singleton_inj.mp isLast
      exact ⟨_, _, rfl, isLog, answer⟩
  · rintro ⟨before, calls, rfl, isLog, answer⟩
    exact .concat isLog answer

/-- **Clicks and brushes follow the timing rules.** Told any events at times that do not
decrease, a new coordinator answers each of them by the rules, in terms of the configuration
then in force and of the clicks before it, and the rules determine all its answers. -/
theorem interactionLog_iff (first : ChartConfig) (schema : Schema) (events : List TimedEvent)
    (ordered : events.Pairwise fun a b => a.time ≤ b.time) (log : List (List InteractionCall)) :
    InteractionLog first schema events log ↔
      (({ config := first, schema } : Coordinator).run events).2 = log := by
  induction events using List.reverseRecOn generalizing log with
  | nil => exact log_nil_iff.trans eq_comm
  | append_singleton events e ih =>
    obtain ⟨ordered, -, later⟩ := List.pairwise_append.mp ordered
    have follows := follows_run first schema events ordered
    have knows := follows.clicked e.time fun past inside =>
      later past inside e (List.mem_singleton_self e)
    have answers : ∀ calls, InteractionAnswer _ _ _ e.event calls ↔ _ = calls :=
      fun calls => answer_iff_step knows
    rw [follows.config, follows.schema] at answers
    rw [log_concat_iff, run_concat]
    simp only [ih ordered, answers]
    constructor
    · rintro ⟨before, calls, rfl, rfl, rfl⟩
      rfl
    · rintro rfl
      exact ⟨_, _, rfl, rfl, rfl⟩

/-- A click fifty milliseconds after another has not bubbled up, and a brush that is cleared
750 milliseconds after a click was not cleared by it; a millisecond earlier they were. -/
theorem interactionLog_at_boundaries :
    let cost : Column := { name := "cost", type := .money, address := some "db.cost" }
    let schema : Schema := ⟨[cost], by decide⟩
    let card : ChartConfig := .ofKind .headline
    let series : ChartConfig := { kind := some .area, bindings := { x := some "cost" } }
    let row : Row := [("cost", .int 3)]
    let brushed (values : List Json) : InteractionEvent :=
      .brush (.object [("cost", .array values)])
    let events : List TimedEvent :=
      [⟨5, .click false (some row)⟩, ⟨54, .click true none⟩, ⟨104, .click false none⟩,
        ⟨104, .setConfig series⟩, ⟨110, brushed [.int 1, .int 2, .int 3]⟩,
        ⟨853, brushed []⟩, ⟨854, .brush .null⟩]
    let click : DimensionClick := .between cost (.array [.int 1, .int 3]) (.int 1) (.int 3)
    (events.Pairwise fun a b => a.time ≤ b.time) ∧
      InteractionLog card schema events
        [[.point row], [], [.background], [], [.dimension click], [], [.background]] := by
  intro cost schema card series row brushed events click
  have ordered : events.Pairwise fun a b => a.time ≤ b.time := by decide
  exact ⟨ordered, (interactionLog_iff card schema events ordered _).mpr (by decide)⟩

end Coordinator

end ChartCompiler

import Mathlib
import ChartCompiler.Proofs.Schema.Columns
import ChartCompiler.Schema.Json

/-!
Schemas as JSON and back. A column reads back as it was written (`Column.ofJson_toJson`),
whatever its members are. Written as an object keyed by name, the columns of a schema read
back in their order; written as an array, they do so exactly when every column has a name.
What is read is a list of columns in either form (`Schema.Reads`), and the schema is what
such a list comes to (`Schema.Collects`), also where names repeat.
-/

namespace ChartCompiler

theorem mapM_eq_ok_iff {α β ε : Type} {f : α → Except ε β} {xs : List α} {ys : List β} :
    xs.mapM f = .ok ys ↔ List.Forall₂ (fun x y => f x = .ok y) xs ys := by
  induction xs generalizing ys with
  | nil =>
    rw [List.forall₂_nil_left_iff]
    exact ⟨fun h => (Except.ok.inj h).symm, fun h => h ▸ rfl⟩
  | cons x xs ih =>
    rw [List.mapM_cons, List.forall₂_cons_left_iff]
    simp only [← ih]
    cases first : f x with
    | error e => simp [bind, Except.bind]
    | ok y =>
      cases rest : xs.mapM f with
      | error e => simp [bind, Except.bind]
      | ok ys' => simp [bind, Except.bind, pure, Except.pure, eq_comm]

namespace Column

/-! ## One column -/

theorem decodeType_name (type : ColumnType) : Draft.decodeType (.string type.name) = .ok type := by
  cases type <;> rfl

theorem list_string_strings (items : List String) :
    Decode.list Decode.string (Json.strings items) = .ok items :=
  mapM_eq_ok_iff.mpr (List.forall₂_map_left_iff.mpr (List.forall₂_same.mpr fun _ _ => rfl))

theorem step_type (draft : Draft) (type : ColumnType) :
    draft.step "type" (.string type.name) = .ok { draft with type := some type } := by
  simp only [Draft.step, decodeType_name]
  rfl

theorem step_traits (draft : Draft) (traits : List String) :
    draft.step "traits" (Json.strings traits) = .ok { draft with traits } := by
  simp only [Draft.step, list_string_strings]
  rfl

/-- The three members that are always written. -/
theorem foldlM_step_required (name : String) (type : ColumnType) (traits : List String)
    (rest : List (String × Json)) :
    ([("name", .string name), ("type", .string type.name), ("traits", Json.strings traits)] ++
      rest).foldlM (fun acc member => acc.step member.1 member.2) ({} : Draft) =
      rest.foldlM (fun acc member => acc.step member.1 member.2)
        { name, type := some type, traits } := by
  have first : Draft.step {} "name" (.string name) = .ok { name } := rfl
  simp only [List.cons_append, List.nil_append, List.foldlM_cons, first, step_type, step_traits]
  rfl

/-- A column reads back as it was written. -/
theorem ofJson_toJson (column : Column) : ofJson column.toJson = .ok column := by
  obtain ⟨name, type, traits, format, description, address⟩ := column
  unfold ofJson toJson Decode.record
  simp only [List.append_assoc]
  rw [foldlM_step_required]
  cases format <;> cases description <;> cases address <;> rfl

end Column

namespace Schema

/-! ## Columns in JSON -/

/-- The entry of a schema object is a column, which takes its key where it has no name. -/
def EntryReads (member : String × Json) (column : Column) : Prop :=
  ∃ read, Column.ofJson member.2 = .ok read ∧
    column = if read.name = "" then { read with name := member.1 } else read

/-- The columns that a document holds, in either form. -/
inductive Reads : Json → List Column → Prop
  | object {members : List (String × Json)} {columns : List Column} :
    List.Forall₂ EntryReads members columns → Reads (.object members) columns
  | array {items : List Json} {columns : List Column} :
    List.Forall₂ (fun item column => Column.ofJson item = .ok column) items columns →
    (∀ column ∈ columns, column.name ≠ "") → Reads (.array items) columns

theorem entryOfJson_eq_ok_iff {key : String} {value : Json} {column : Column} :
    entryOfJson key value = .ok column ↔ EntryReads (key, value) column := by
  unfold entryOfJson EntryReads
  cases Column.ofJson value with
  | error cause => simp
  | ok read =>
    constructor
    · intro named
      exact ⟨read, rfl, (Except.ok.inj named).symm⟩
    · rintro ⟨_, ⟨⟩, rfl⟩
      rfl

theorem findIdx?_unnamed_eq_none_iff {columns : List Column} :
    columns.findIdx? (·.name = "") = none ↔ ∀ column ∈ columns, column.name ≠ "" := by
  simp [List.findIdx?_eq_none_iff]

theorem ofJson_object_eq_ok_iff {members : List (String × Json)} {schema : Schema} :
    ofJson (.object members) = .ok schema ↔
      ∃ columns, List.Forall₂ EntryReads members columns ∧ schema = ofColumns columns := by
  have reads : ∀ columns,
      (members.mapM fun member => entryOfJson member.1 member.2) = .ok columns ↔
        List.Forall₂ EntryReads members columns := by
    intro columns
    simp only [mapM_eq_ok_iff, entryOfJson_eq_ok_iff]
  simp only [← reads, ofJson]
  cases members.mapM fun member => entryOfJson member.1 member.2 with
  | error cause => simp [bind, Except.bind]
  | ok columns => simp [bind, Except.bind, pure, Except.pure, eq_comm]

theorem ofJson_array_of_columns {items : List Json} {columns : List Column}
    (read : List.Forall₂ (fun item column => Column.ofJson item = .ok column) items columns) :
    ofJson (.array items) =
      match columns.findIdx? (·.name = "") with
      | some index => .error (.unnamedSchemaItem index)
      | none => .ok (ofColumns columns) := by
  have isRead := mapM_eq_ok_iff.mpr read
  cases unnamed : columns.findIdx? (·.name = "") <;> simp only [ofJson, isRead, unnamed]

theorem ofJson_array_eq_ok_iff {items : List Json} {schema : Schema} :
    ofJson (.array items) = .ok schema ↔
      ∃ columns, List.Forall₂ (fun item column => Column.ofJson item = .ok column) items columns ∧
        (∀ column ∈ columns, column.name ≠ "") ∧ schema = ofColumns columns := by
  constructor
  · intro isRead
    cases read : items.mapM Column.ofJson with
    | error cause =>
      rw [ofJson, read] at isRead
      cases isRead
    | ok columns =>
      have columnwise := mapM_eq_ok_iff.mp read
      rw [ofJson_array_of_columns columnwise] at isRead
      split at isRead
      · cases isRead
      · next named =>
        exact ⟨columns, columnwise, findIdx?_unnamed_eq_none_iff.mp named,
          (Except.ok.inj isRead).symm⟩
  · rintro ⟨columns, read, named, rfl⟩
    rw [ofJson_array_of_columns read, findIdx?_unnamed_eq_none_iff.mpr named]

/-- A document is read as the columns that it holds. -/
theorem ofJson_eq_ok_iff {value : Json} {schema : Schema} :
    ofJson value = .ok schema ↔ ∃ columns, Reads value columns ∧ schema = ofColumns columns := by
  constructor
  · intro isRead
    cases value with
    | object members =>
      obtain ⟨columns, entries, same⟩ := ofJson_object_eq_ok_iff.mp isRead
      exact ⟨columns, .object entries, same⟩
    | array items =>
      obtain ⟨columns, read, named, same⟩ := ofJson_array_eq_ok_iff.mp isRead
      exact ⟨columns, .array read named, same⟩
    | _ => cases isRead
  · rintro ⟨columns, reads, same⟩
    cases reads with
    | object entries => exact ofJson_object_eq_ok_iff.mpr ⟨columns, entries, same⟩
    | array read named => exact ofJson_array_eq_ok_iff.mpr ⟨columns, read, named, same⟩

theorem collects_of_ofJson {value : Json} {schema : Schema} (isRead : ofJson value = .ok schema) :
    ∃ columns, Reads value columns ∧ schema.Collects columns := by
  obtain ⟨columns, reads, rfl⟩ := ofJson_eq_ok_iff.mp isRead
  exact ⟨columns, reads, collects_ofColumns columns⟩

/-! ## Schemas -/

/-- A schema as the array of its columns. -/
def columnsToJson (schema : Schema) : Json :=
  .array (schema.columns.map Column.toJson)

theorem ofJson_toJson (schema : Schema) : ofJson schema.toJson = .ok schema := by
  refine ofJson_object_eq_ok_iff.mpr ⟨schema.columns, ?_, schema.ofColumns_columns.symm⟩
  refine List.forall₂_map_left_iff.mpr (List.forall₂_same.mpr fun column _ => ?_)
  refine ⟨column, column.ofJson_toJson, ?_⟩
  split <;> rfl

theorem forall₂_columns (schema : Schema) :
    List.Forall₂ (fun item column => Column.ofJson item = .ok column)
      (schema.columns.map Column.toJson) schema.columns :=
  List.forall₂_map_left_iff.mpr (List.forall₂_same.mpr fun column _ => column.ofJson_toJson)

theorem ofJson_columnsToJson (schema : Schema)
    (named : ∀ column ∈ schema.columns, column.name ≠ "") :
    ofJson schema.columnsToJson = .ok schema :=
  ofJson_array_eq_ok_iff.mpr
    ⟨schema.columns, schema.forall₂_columns, named, schema.ofColumns_columns.symm⟩

/-- An array with a nameless column is refused, and the fault says which one it is. -/
theorem ofJson_columnsToJson_of_unnamed (schema : Schema) {index : Nat} {column : Column}
    (isAt : schema.columns[index]? = some column) (unnamed : column.name = "") :
    ofJson schema.columnsToJson = .error (.unnamedSchemaItem index) := by
  have found : schema.columns.findIdx? (·.name = "") = some index := by
    obtain ⟨inside, rfl⟩ := List.getElem?_eq_some_iff.mp isAt
    refine List.findIdx?_eq_some_iff_getElem.mpr ⟨inside, decide_eq_true unnamed, ?_⟩
    intro earlier before alsoUnnamed
    -- another nameless column in front of it would have the same name
    refine List.nodup_iff_getElem?_ne_getElem?.mp schema.distinct earlier index before
      (by simpa using inside) ?_
    rw [List.getElem?_map, List.getElem?_map, isAt, Option.map_some, unnamed,
      List.getElem?_eq_getElem (before.trans inside), Option.map_some]
    exact congrArg some (of_decide_eq_true alsoUnnamed)
  rw [columnsToJson, ofJson_array_of_columns schema.forall₂_columns, found]

/-- **Schemas survive JSON.** Every schema reads back from the object of its columns, and from
their array if all of them have names, while an array with a nameless column is refused. Every
schema that is built from columns, or read, has distinct names, each in the place where it
first came and with the column that came last under it. -/
theorem schema_survives_json :
    (∀ schema : Schema,
      ofJson schema.toJson = .ok schema ∧
        ((∀ column ∈ schema.columns, column.name ≠ "") →
          ofJson schema.columnsToJson = .ok schema) ∧
        ∀ index column, schema.columns[index]? = some column → column.name = "" →
          ofJson schema.columnsToJson = .error (.unnamedSchemaItem index)) ∧
      (∀ columns, (ofColumns columns).Collects columns) ∧
      ∀ value schema, ofJson value = .ok schema →
        ∃ columns, Reads value columns ∧ schema.Collects columns :=
  ⟨fun schema => ⟨schema.ofJson_toJson, schema.ofJson_columnsToJson,
    fun _ _ => schema.ofJson_columnsToJson_of_unnamed⟩, collects_ofColumns,
    fun _ _ => collects_of_ofJson⟩

/-- Two columns survive as an array, a nameless one is refused, and of two columns of one name
the second takes the place of the first. -/
theorem schema_survives_json_repeated :
    let region : Column :=
      { name := "region", type := .string, traits := ["geo.us_state"], address := some "db.region" }
    let total : Column := { name := "", type := .money, format := some ",d" }
    let cost : Column := { total with name := "cost" }
    let named : Schema := ⟨[region, cost], by decide⟩
    let nameless : Schema := ⟨[region, total], by decide⟩
    let day : Column := { name := "region", type := .date }
    let repeated : Json := .array [region.toJson, cost.toJson, day.toJson]
    let later : Schema := ⟨[day, cost], by decide⟩
    (∀ column ∈ named.columns, column.name ≠ "") ∧ ofJson named.columnsToJson = .ok named ∧
      nameless.columns[1]? = some total ∧ total.name = "" ∧
      ofJson nameless.columnsToJson = .error (.unnamedSchemaItem 1) ∧
      ofJson repeated = .ok later ∧ ∃ columns, Reads repeated columns ∧ later.Collects columns := by
  intro region total cost named nameless day repeated later
  have hasNames : ∀ column ∈ named.columns, column.name ≠ "" := by decide
  have isRead : ofJson repeated = .ok later := by decide
  obtain ⟨survives, -, collects⟩ := schema_survives_json
  exact ⟨hasNames, (survives named).2.1 hasNames, rfl, rfl,
    (survives nameless).2.2 1 total rfl rfl, isRead, collects repeated later isRead⟩

end Schema

end ChartCompiler

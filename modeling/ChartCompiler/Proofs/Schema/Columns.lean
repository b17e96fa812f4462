import Mathlib
import ChartCompiler.Proofs.Entries
import ChartCompiler.Schema.Basic

/-!
Schemas as ordered entries. A schema keeps every column under its own name, so building one
from a list of columns is writing entries (`entries_ofColumns`), and what is known of ordered
entries carries over: names stand in the order in which they first came, each with the column
that came last under it. `Schema.Collects` gathers what this comes to.
-/

namespace ChartCompiler.Schema

/-- The columns as entries, each under its own name. -/
def entries (columns : List Column) : List (String × Column) :=
  columns.map fun column => (column.name, column)

theorem keys_entries (columns : List Column) :
    Entries.keys (entries columns) = columns.map Column.name := by
  simp [Entries.keys, entries]

theorem snd_entries (columns : List Column) : (entries columns).map Prod.snd = columns := by
  simp [entries, Function.comp_def]

theorem get?_entries (columns : List Column) (name : String) :
    Entries.get? (entries columns) name = columns.find? (·.name = name) := by
  induction columns with
  | nil => rfl
  | cons column rest ih =>
    rw [entries, List.map_cons, Entries.get?_cons, ← entries, ih, List.find?_cons]
    by_cases found : column.name = name
    · simp [found]
    · simp [found, Ne.symm found]

theorem entries_put (columns : List Column) (column : Column) :
    entries (put columns column) = Entries.insert (entries columns) column.name column := by
  induction columns with
  | nil => rfl
  | cons first rest ih =>
    unfold put
    split
    · next same => simp [entries, Entries.insert, same]
    · next other => simpa [entries, Entries.insert, other] using ih

theorem ofColumns_concat (columns : List Column) (column : Column) :
    ofColumns (columns ++ [column]) = (ofColumns columns).insert column :=
  List.foldl_concat ..

theorem entries_ofColumns (columns : List Column) :
    entries (ofColumns columns).columns = Entries.ofPairs (entries columns) := by
  induction columns using List.reverseRecOn with
  | nil => rfl
  | append_singleton columns column ih =>
    have concat : entries (columns ++ [column]) = entries columns ++ [(column.name, column)] :=
      List.map_append
    rw [ofColumns_concat, concat, Entries.ofPairs_concat, ← ih]
    exact entries_put _ column

/-! ## What a list of columns comes to -/

theorem ext_columns {a b : Schema} (same : a.columns = b.columns) : a = b := by
  cases a
  cases b
  cases same
  rfl

theorem get?_eq_some_iff (schema : Schema) {name : String} {column : Column} :
    schema.get? name = some column ↔ column ∈ schema.columns ∧ column.name = name := by
  have sound : ∀ {name other}, schema.get? name = some other →
      other ∈ schema.columns ∧ other.name = name := fun found =>
    ⟨List.mem_of_find?_eq_some found, by simpa using List.find?_some found⟩
  refine ⟨sound, ?_⟩
  rintro ⟨inside, rfl⟩
  have present : (schema.get? column.name).isSome :=
    List.find?_isSome.mpr ⟨column, inside, decide_eq_true rfl⟩
  obtain ⟨other, found⟩ := Option.isSome_iff_exists.mp present
  -- what is found has the name too, and names are distinct
  obtain ⟨alsoInside, sameName⟩ := sound found
  rw [found, List.inj_on_of_nodup_map schema.distinct alsoInside inside sameName]

/-- Columns whose names differ are kept as they are. -/
theorem ofColumns_columns (schema : Schema) : ofColumns schema.columns = schema := by
  have distinct : (Entries.keys (entries schema.columns)).Nodup := by
    rw [keys_entries]
    exact schema.distinct
  have same := entries_ofColumns schema.columns
  rw [Entries.ofPairs_of_distinct distinct] at same
  refine ext_columns ?_
  rw [← snd_entries (ofColumns schema.columns).columns, same, snd_entries]

/-- What a schema makes of the columns it is given. -/
structure Collects (schema : Schema) (columns : List Column) : Prop where
  /-- no two columns have one name -/
  distinct : (schema.columns.map Column.name).Nodup
  /-- a column is found under its own name, and nothing else is -/
  own : ∀ name column, schema.get? name = some column ↔ column ∈ schema.columns ∧ column.name = name
  /-- names stand in the order in which they first came -/
  first : schema.columns.map Column.name = (columns.map Column.name).eraseDups
  /-- a name has the column that came last under it -/
  last : ∀ before column after, columns = before ++ column :: after →
    (∀ later ∈ after, later.name ≠ column.name) → schema.get? column.name = some column

theorem collects_ofColumns (columns : List Column) : (ofColumns columns).Collects columns where
  distinct := (ofColumns columns).distinct
  own := fun _ _ => get?_eq_some_iff _
  first := by
    rw [← keys_entries, entries_ofColumns, Entries.keys_ofPairs, keys_entries]
  last := by
    rintro before column after rfl apart
    have split : entries (before ++ column :: after) =
        entries before ++ (column.name, column) :: entries after := by
      simp [entries]
    have last : ∀ other ∈ entries after, other.1 ≠ column.name := by
      simpa [entries] using apart
    rw [get?, ← get?_entries, entries_ofColumns, split]
    exact Entries.get?_ofPairs last

end ChartCompiler.Schema

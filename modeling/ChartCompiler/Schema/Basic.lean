import ChartCompiler.Schema.Column

/-!
Schemas: columns in order, no two of one name. `Schema.ofColumns` builds one
from any list; a repeated name keeps its first place and its last definition.
-/

namespace ChartCompiler

/-- The columns of a dataset in order, each under its own name. -/
structure Schema where
  columns : List Column
  distinct : (columns.map Column.name).Nodup
deriving DecidableEq

namespace Schema

/-- The schema without columns. -/
def empty : Schema :=
  ⟨[], List.nodup_nil⟩

instance : Inhabited Schema := ⟨empty⟩

/-- Writes a column into a list of columns: a column of the same name is
replaced where it stands, a new one goes to the end. -/
def put : List Column → Column → List Column
  | [], column => [column]
  | c :: rest, column => if c.name = column.name then column :: rest else c :: put rest column

theorem mem_names_put {columns : List Column} {column : Column} {name : String} :
    name ∈ (put columns column).map Column.name ↔
      name ∈ columns.map Column.name ∨ name = column.name := by
  induction columns with
  | nil => simp [put]
  | cons c rest ih =>
    unfold put
    split
    next h => simp only [List.map_cons, List.mem_cons, h]; grind
    next h => simp only [List.map_cons, List.mem_cons, ih]; grind

theorem nodup_names_put {columns : List Column} (column : Column)
    (h : (columns.map Column.name).Nodup) :
    ((put columns column).map Column.name).Nodup := by
  induction columns with
  | nil => simp [put]
  | cons c rest ih =>
    rw [List.map_cons, List.nodup_cons] at h
    unfold put
    split
    next hc => rw [List.map_cons, List.nodup_cons, ← hc]; exact h
    next hc =>
      rw [List.map_cons, List.nodup_cons]
      refine ⟨fun hmem => ?_, ih h.2⟩
      rcases mem_names_put.1 hmem with hmem | heq
      · exact h.1 hmem
      · exact hc heq

/-- Adds a column, replacing the one of the same name if there is one. -/
def insert (schema : Schema) (column : Column) : Schema :=
  ⟨put schema.columns column, nodup_names_put column schema.distinct⟩

/-- The schema of a list of columns. -/
def ofColumns (columns : List Column) : Schema :=
  columns.foldl insert empty

/-- The column of a name. -/
def get? (schema : Schema) (name : String) : Option Column :=
  schema.columns.find? (·.name = name)

/-- The schema has a column of that name. -/
def contains (schema : Schema) (name : String) : Bool :=
  (schema.get? name).isSome

/-- The columns of a bucket, in schema order. -/
def bucket (schema : Schema) (b : Bucket) : List Column :=
  schema.columns.filter b.holds

/-- The field names a column of the bucket. A name without a column is in none. -/
def fieldIs (schema : Schema) (field : String) (b : Bucket) : Bool :=
  (schema.get? field).any b.holds

/-- The field names a column with the trait. -/
def fieldHasTrait (schema : Schema) (field t : String) : Bool :=
  (schema.get? field).any (·.hasTrait t)

end Schema

end ChartCompiler

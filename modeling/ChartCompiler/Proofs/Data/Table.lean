import Mathlib
import ChartCompiler.Data.Dataset
import ChartCompiler.Proofs.Data.Bytes
import ChartCompiler.Proofs.Entries

/-!
Tables and rows. `IsRowOf` says what the row of a record is: the trimmed headers in the order
in which they first appear, each over the last cell that comes under it, trimmed and typed. A
table written between quotes is read, as a text or as bytes, into exactly the rows of its
records (`ofCsv_write`), whatever its cells hold.
-/

namespace ChartCompiler.Dataset

variable {schema : Schema} {header : List String}

/-- The row of a record under a header. -/
structure IsRowOf (schema : Schema) (header cells : List String) (row : Row) : Prop where
  /-- the trimmed headers in the order in which they first appear -/
  keys : Entries.keys row = (header.map Text.trim).eraseDups
  /-- the last cell under a header, trimmed and typed by the column of that name -/
  value {before after : List (String × String)} {name cell : String} :
    header.zip cells = before ++ (name, cell) :: after →
    (∀ later ∈ after, Text.trim later.1 ≠ Text.trim name) →
    Entries.get? row (Text.trim name) =
      some (typedCell (Text.trim cell) ((schema.get? (Text.trim name)).map Column.type))

theorem isRowOf_rowOf (schema : Schema) {cells : List String}
    (filled : cells.length = header.length) :
    IsRowOf schema header cells (rowOf schema (header.map Text.trim) (cells.map Text.trim)) where
  keys := by
    have short : (header.map Text.trim).length ≤ (cells.map Text.trim).length := by
      simp [filled]
    rw [rowOf, Entries.keys_ofPairs, Entries.keys, List.map_map]
    exact congrArg List.eraseDups (List.map_fst_zip short)
  value := by
    intro before after name cell parted last
    have trimmed : (header.map Text.trim).zip (cells.map Text.trim) =
        (before.map (Prod.map Text.trim Text.trim)) ++
          (Text.trim name, Text.trim cell) :: after.map (Prod.map Text.trim Text.trim) := by
      rw [List.zip_map, parted, List.map_append, List.map_cons]
      rfl
    rw [rowOf, trimmed, List.map_append, List.map_cons]
    refine Entries.get?_ofPairs fun other inside => ?_
    simp only [List.map_map, List.mem_map] at inside
    obtain ⟨later, inside, rfl⟩ := inside
    exact last later inside

/-- Records as long as the header are all read. -/
theorem rowsOfRecords_of_filled (schema : Schema) {records : List (List String)} (number : Nat)
    (filled : ∀ record ∈ records, record.length = header.length) :
    rowsOfRecords schema header number (records.map some) =
      .ok (records.map fun cells => rowOf schema header (cells.map Text.trim)) := by
  induction records generalizing number with
  | nil => rfl
  | cons record records ih =>
    have length : ¬ record.length ≠ header.length := not_not.mpr (filled record List.mem_cons_self)
    have rest := ih (number + 1) fun other inside => filled other (List.mem_cons_of_mem _ inside)
    rw [List.map_cons, rowsOfRecords, if_neg length, rest]
    rfl

/-- **A quoted table loses nothing.** Headers and cells written between quotes, in lines that
end alike, are read as one row for each record, in order, from the text as from its bytes. -/
theorem ofCsv_write (schema : Schema) (lineEnd : Csv.LineEnd) {header : List String}
    {records : List (List String)} (nonempty : header ≠ [])
    (filled : ∀ record ∈ records, record.length = header.length) :
    let text := Csv.write lineEnd (header :: records)
    ∃ data, ofCsv schema text = .ok data ∧ ofCsvBytes schema text.toUTF8.data.toList = .ok data ∧
      List.Forall₂ (IsRowOf schema header) records data.rows := by
  intro text
  have lines : ∀ record ∈ header :: records, record ≠ [] := by
    intro record inside
    rcases List.mem_cons.mp inside with rfl | inside
    · exact nonempty
    · intro blank
      have same := filled record inside
      rw [blank] at same
      exact nonempty (List.eq_nil_of_length_eq_zero same.symm)
  let rows := records.map fun cells => rowOf schema (header.map Text.trim) (cells.map Text.trim)
  have trimmed : ∀ record ∈ records, record.length = (header.map Text.trim).length := by
    simpa using filled
  have read : ofCsv schema text = .ok ⟨rows⟩ := by
    rw [ofCsv, Csv.ofChars_write lineEnd lines, List.map_cons, ofRecords,
      rowsOfRecords_of_filled schema 1 trimmed]
    rfl
  have bytes : ofCsvBytes schema text.toUTF8.data.toList = ofCsv schema text := by
    rw [ofCsvBytes, Csv.ofBytes_toUTF8, ofCsv]
  refine ⟨⟨rows⟩, read, bytes.trans read, ?_⟩
  rw [List.forall₂_map_right_iff, List.forall₂_same]
  exact fun record inside => isRowOf_rowOf schema (filled record inside)

/-- Two headers that coincide once trimmed share a member that holds the second cell, and a
record of empty cells is a record. -/
theorem ofCsv_write_coinciding :
    let schema : Schema := ⟨[{ name := "n", type := .integer }], by decide⟩
    let header := ["n", "note", " n "]
    let records := [["1", "a,\"b\"\r\n", " 2"], ["", "", ""]]
    let rows : List Row :=
      [[("n", 2), ("note", .string "a,\"b\"")], [("n", .null), ("note", .null)]]
    header ≠ [] ∧ (∀ record ∈ records, record.length = header.length) ∧
      ofCsv schema (Csv.write .carriageReturnLineFeed (header :: records)) = .ok ⟨rows⟩ ∧
      List.Forall₂ (IsRowOf schema header) records rows := by
  intro schema header records rows
  have nonempty : header ≠ [] := by decide
  have filled : ∀ record ∈ records, record.length = header.length := by decide
  obtain ⟨data, read, -, isRow⟩ := ofCsv_write schema .carriageReturnLineFeed nonempty filled
  have table : ofCsv schema (Csv.write .carriageReturnLineFeed (header :: records)) =
      .ok ⟨rows⟩ := by
    cbv
  rw [read] at table
  cases table
  exact ⟨nonempty, filled, read, isRow⟩

end ChartCompiler.Dataset

import Mathlib
import ChartCompiler.Data.Csv

/-!
Tables written between quotes. Every cell stands between quotes with the quotes inside it
doubled, commas part the cells of a line, and every line ends alike. Between quotes the
reader takes in any character, line ends and separators included (`recordsFrom_quoted`), and
a line is never blank, because even an empty cell has its quotes. So a written table is read
back record by record and cell by cell (`ofChars_write`).
-/

namespace ChartCompiler.Csv

/-! ## Writing -/

/-- How the lines of a written table end. -/
inductive LineEnd where
  | lineFeed
  | carriageReturnLineFeed
deriving DecidableEq

/-- The characters of a line end. -/
def LineEnd.chars : LineEnd → List Char
  | lineFeed => ['\n']
  | carriageReturnLineFeed => ['\r', '\n']

/-- A character as it stands between quotes. -/
def doubledQuote (c : Char) : List Char :=
  if c = '"' then ['"', '"'] else [c]

/-- A cell between quotes. -/
def writeCell (cell : List Char) : List Char :=
  '"' :: (cell.flatMap doubledQuote ++ ['"'])

/-- A line of cells. -/
def writeRecord (lineEnd : LineEnd) (cells : List (List Char)) : List Char :=
  List.intercalate [','] (cells.map writeCell) ++ lineEnd.chars

/-- A table of lines. -/
def write (lineEnd : LineEnd) (table : List (List String)) : String :=
  String.ofList (table.flatMap fun record => writeRecord lineEnd (record.map String.toList))

/-! ## Reading one line back -/

/-- The mark of a character. -/
def charMark (c : Char) : Mark :=
  markOf c.toNat

theorem charMark_eq_quote_iff {c : Char} : charMark c = .quote ↔ c = '"' := by
  constructor
  · intro quote
    have code : c.toNat = 34 := by
      unfold charMark markOf at quote
      grind
    exact Char.toNat_inj.mp code
  · rintro rfl
    rfl

variable {p : Partial Char} {rest : List Char}

/-- Inside quotes every symbol but the quote is part of the cell. -/
theorem recordsFrom_quoted_cons {c : Char} (other : c ≠ '"') :
    recordsFrom charMark .quoted p (c :: rest) = recordsFrom charMark .quoted (p.push c) rest := by
  have mark : charMark c ≠ .quote := fun quote => other (charMark_eq_quote_iff.mp quote)
  rw [recordsFrom]
  cases isMark : charMark c with
  | quote => exact absurd isMark mark
  | _ => rfl

/-- The cell is taken in as it was before its quotes were doubled. -/
theorem recordsFrom_quoted (p : Partial Char) (cell rest : List Char) :
    recordsFrom charMark .quoted p (cell.flatMap doubledQuote ++ '"' :: rest) =
      recordsFrom charMark .afterQuote { p with current := cell.reverse ++ p.current } rest := by
  induction cell generalizing p with
  | nil => rfl
  | cons c cell ih =>
    have shifted : { p.push c with current := cell.reverse ++ (p.push c).current } =
        ({ p with current := (c :: cell).reverse ++ p.current } : Partial Char) := by
      simp [Partial.push]
    rw [List.flatMap_cons, List.append_assoc, ← shifted]
    by_cases quote : c = '"'
    · -- the first of the two closes the cell for one step, the second opens it again
      subst quote
      exact ih (p.push '"')
    · rw [doubledQuote, if_neg quote, ← ih (p.push c)]
      exact recordsFrom_quoted_cons quote

theorem recordsFrom_firstCell (cell : List Char) :
    recordsFrom charMark .betweenRecords {} (writeCell cell ++ rest) =
      recordsFrom charMark .afterQuote { current := cell.reverse } rest := by
  have read := recordsFrom_quoted {} cell rest
  rw [List.append_nil] at read
  rw [writeCell, List.cons_append, List.append_assoc]
  exact read

theorem recordsFrom_nextCell (cell : List Char) :
    recordsFrom charMark .afterQuote p (',' :: (writeCell cell ++ rest)) =
      recordsFrom charMark .afterQuote { p.endField with current := cell.reverse } rest := by
  have read := recordsFrom_quoted p.endField cell rest
  rw [show p.endField.current = [] from rfl, List.append_nil] at read
  rw [writeCell, List.cons_append, List.append_assoc]
  exact read

theorem recordsFrom_lineEnd (lineEnd : LineEnd) :
    recordsFrom charMark .afterQuote p (lineEnd.chars ++ rest) =
      p.record :: recordsFrom charMark .betweenRecords {} rest := by
  cases lineEnd <;> rfl

theorem writeRecord_cons (lineEnd : LineEnd) (cell : List Char) (cells : List (List Char)) :
    writeRecord lineEnd (cell :: cells) =
      writeCell cell ++ (cells.flatMap (fun cell => ',' :: writeCell cell) ++ lineEnd.chars) := by
  induction cells generalizing cell with
  | nil => simp [writeRecord]
  | cons next cells ih =>
    have step := ih next
    simp only [writeRecord, List.map_cons, List.intercalate_cons_cons] at step ⊢
    simp only [List.append_assoc, step, List.flatMap_cons, List.cons_append, List.nil_append]

/-- The cells after the first, each with the comma in front of it, and the line end. -/
theorem recordsFrom_furtherCells (lineEnd : LineEnd) (cells : List (List Char)) :
    recordsFrom charMark .afterQuote p
        (cells.flatMap (fun cell => ',' :: writeCell cell) ++ (lineEnd.chars ++ rest)) =
      (p.record ++ cells) :: recordsFrom charMark .betweenRecords {} rest := by
  induction cells generalizing p with
  | nil =>
    rw [List.append_nil]
    exact recordsFrom_lineEnd lineEnd
  | cons cell cells ih =>
    let read : Partial Char := { p.endField with current := cell.reverse }
    have record : read.record = p.record ++ [cell] := by
      simp [read, Partial.record, Partial.endField]
    rw [List.flatMap_cons, List.cons_append, List.cons_append, List.append_assoc,
      recordsFrom_nextCell, ih, record, List.append_assoc]
    rfl

theorem recordsFrom_writeRecord (lineEnd : LineEnd) {cells : List (List Char)}
    (nonempty : cells ≠ []) :
    recordsFrom charMark .betweenRecords {} (writeRecord lineEnd cells ++ rest) =
      cells :: recordsFrom charMark .betweenRecords {} rest := by
  obtain ⟨cell, cells, rfl⟩ := List.exists_cons_of_ne_nil nonempty
  have record : Partial.record { current := cell.reverse } = [cell] := by
    simp [Partial.record, Partial.endField]
  rw [writeRecord_cons, List.append_assoc, List.append_assoc, recordsFrom_firstCell,
    recordsFrom_furtherCells, record]
  rfl

/-! ## Reading the table back -/

theorem records_write (lineEnd : LineEnd) {table : List (List (List Char))}
    (nonempty : ∀ record ∈ table, record ≠ []) :
    records charMark (table.flatMap (writeRecord lineEnd)) = table := by
  induction table with
  | nil => rfl
  | cons record table ih =>
    rw [List.flatMap_cons, records, recordsFrom_writeRecord lineEnd (nonempty _ List.mem_cons_self)]
    exact congrArg _ (ih fun other inside => nonempty other (List.mem_cons_of_mem _ inside))

theorem ofChars_of_unmarked {text : List Char} (unmarked : text.head? ≠ some byteOrderMark) :
    ofChars text = (records charMark text).map fun fields => fields.map String.ofList := by
  cases text with
  | nil => rfl
  | cons c rest =>
    have other : c ≠ byteOrderMark := fun same => unmarked (congrArg some same)
    simp only [ofChars, if_neg other]
    rfl

/-- A written table starts with a quote, if with anything. -/
theorem unmarked_write (lineEnd : LineEnd) {table : List (List String)}
    (nonempty : ∀ record ∈ table, record ≠ []) :
    (write lineEnd table).toList.head? ≠ some byteOrderMark := by
  rw [write, String.toList_ofList]
  cases table with
  | nil => nofun
  | cons record table =>
    obtain ⟨cell, cells, rfl⟩ := List.exists_cons_of_ne_nil (nonempty record List.mem_cons_self)
    rw [List.flatMap_cons, List.map_cons, writeRecord_cons]
    exact ne_of_beq_false rfl

/-- **What is written is read back**, record by record and cell by cell. -/
theorem ofChars_write (lineEnd : LineEnd) {table : List (List String)}
    (nonempty : ∀ record ∈ table, record ≠ []) :
    ofChars (write lineEnd table).toList = table := by
  let symbols := table.map fun record => record.map String.toList
  have filled : ∀ record ∈ symbols, record ≠ [] := by
    simpa [symbols] using nonempty
  have text : (write lineEnd table).toList = symbols.flatMap (writeRecord lineEnd) := by
    rw [write, String.toList_ofList, List.flatMap_map]
  rw [ofChars_of_unmarked (unmarked_write lineEnd nonempty), text, records_write lineEnd filled]
  simp [symbols, Function.comp_def]

end ChartCompiler.Csv

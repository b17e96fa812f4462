import ChartCompiler.Text.Blank

/-!
Comma-separated records. Fields are separated by commas and records by `\n`,
`\r` or `\r\n`; blank lines are no records. A field that starts with a quote
runs to the next lone quote, two quotes standing for one; what follows the
closing quote is appended, and a quote that is never closed runs to the end. A
quote inside an unquoted field stands for itself.

The reader works on any kind of symbol that can be told apart into separators
and others, so that texts and raw bytes are read by the same rules.
-/

namespace ChartCompiler.Csv

/-- What a symbol means to the reader. -/
inductive Mark where
  | comma
  | quote
  | carriageReturn
  | lineFeed
  | other
deriving DecidableEq

/-- The mark of a code point, which is also that of a byte. -/
def markOf (code : Nat) : Mark :=
  if code = 44 then .comma
  else if code = 34 then .quote
  else if code = 13 then .carriageReturn
  else if code = 10 then .lineFeed
  else .other

variable {σ : Type}

/-- Where the reader stands. -/
inductive Position where
  /-- between records: line ends are skipped -/
  | betweenRecords
  /-- at the start of a field, after a separator -/
  | fieldStart
  /-- inside a field, quotes being literal -/
  | plain
  /-- inside quotes -/
  | quoted
  /-- after a quote that closes the field or stands for a quote -/
  | afterQuote
deriving DecidableEq

/-- The record being read: its finished fields and the current field, each last
first. -/
structure Partial (σ : Type) where
  fields : List (List σ) := []
  current : List σ := []

namespace Partial

/-- Adds a symbol to the current field. -/
def push (p : Partial σ) (c : σ) : Partial σ :=
  { p with current := c :: p.current }

/-- Ends the current field. -/
def endField (p : Partial σ) : Partial σ :=
  ⟨p.current.reverse :: p.fields, []⟩

/-- The fields of the record, the current one included. -/
def record (p : Partial σ) : List (List σ) :=
  p.endField.fields.reverse

end Partial

/-- The records of a list of symbols, from a position inside a record. -/
def recordsFrom (mark : σ → Mark) : Position → Partial σ → List σ → List (List (List σ))
  | .betweenRecords, _, [] => []
  | _, p, [] => [p.record]
  | .betweenRecords, _, c :: rest =>
    match mark c with
    | .carriageReturn | .lineFeed => recordsFrom mark .betweenRecords {} rest
    | .quote => recordsFrom mark .quoted {} rest
    | .comma => recordsFrom mark .fieldStart (Partial.endField {}) rest
    | .other => recordsFrom mark .plain (Partial.push {} c) rest
  | .fieldStart, p, c :: rest =>
    match mark c with
    | .carriageReturn | .lineFeed => p.record :: recordsFrom mark .betweenRecords {} rest
    | .quote => recordsFrom mark .quoted p rest
    | .comma => recordsFrom mark .fieldStart p.endField rest
    | .other => recordsFrom mark .plain (p.push c) rest
  | .plain, p, c :: rest =>
    match mark c with
    | .carriageReturn | .lineFeed => p.record :: recordsFrom mark .betweenRecords {} rest
    | .comma => recordsFrom mark .fieldStart p.endField rest
    | .quote | .other => recordsFrom mark .plain (p.push c) rest
  | .quoted, p, c :: rest =>
    match mark c with
    | .quote => recordsFrom mark .afterQuote p rest
    | .carriageReturn | .lineFeed | .comma | .other => recordsFrom mark .quoted (p.push c) rest
  | .afterQuote, p, c :: rest =>
    match mark c with
    | .carriageReturn | .lineFeed => p.record :: recordsFrom mark .betweenRecords {} rest
    | .quote => recordsFrom mark .quoted (p.push c) rest
    | .comma => recordsFrom mark .fieldStart p.endField rest
    | .other => recordsFrom mark .plain (p.push c) rest

/-- The records of a list of symbols. -/
def records (mark : σ → Mark) (symbols : List σ) : List (List (List σ)) :=
  recordsFrom mark .betweenRecords {} symbols

/-- The byte order mark that a text may start with. -/
def byteOrderMark : Char := '\ufeff'

/-- The records of a text. -/
def ofChars (text : List Char) : List (List String) :=
  let text := match text with
    | c :: rest => if c = byteOrderMark then rest else text
    | [] => []
  (records (fun c => markOf c.toNat) text).map fun fields => fields.map String.ofList

/-- The records of a list of bytes. A record is missing where the bytes of one
of its fields are not UTF-8. -/
def ofBytes (bytes : List UInt8) : List (Option (List String)) :=
  let bytes := match bytes with
    | 0xEF :: 0xBB :: 0xBF :: rest => rest
    | _ => bytes
  (records (fun b => markOf b.toNat) bytes).map fun fields =>
    fields.mapM fun field => String.fromUTF8? ⟨field.toArray⟩

end ChartCompiler.Csv

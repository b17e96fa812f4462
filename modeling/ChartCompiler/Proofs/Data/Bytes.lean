import Mathlib
import ChartCompiler.Proofs.Data.Quoted

/-!
Texts and their bytes. The reader takes in the bytes of a text as it takes in its
characters (`ofBytes_toUTF8`): a separator is one byte of the same mark, every byte of any
other character is an ordinary symbol (`exists_bytes`), and the three bytes of the byte order
mark stand for nothing else.
-/

namespace ChartCompiler.Csv

/-- The mark of a byte. -/
def byteMark (b : UInt8) : Mark :=
  markOf b.toNat

/-- The bytes of some characters. -/
def bytes (text : List Char) : List UInt8 :=
  text.flatMap String.utf8EncodeChar

theorem bytes_cons (c : Char) (text : List Char) :
    bytes (c :: text) = String.utf8EncodeChar c ++ bytes text :=
  List.flatMap_cons

/-! ## One character -/

theorem utf8EncodeChar_of_lt {c : Char} (ascii : c.toNat < 128) :
    String.utf8EncodeChar c = [UInt8.ofNat c.toNat] := by
  have small : c.val.toNat ≤ 127 := Nat.le_of_lt_succ ascii
  simp only [String.utf8EncodeChar, if_pos small]
  rfl

theorem le_of_mem_utf8EncodeChar {c : Char} (long : 128 ≤ c.toNat) :
    ∀ b ∈ String.utf8EncodeChar c, 128 ≤ b.toNat := by
  have large : ¬ c.val.toNat ≤ 127 := Nat.not_le_of_lt long
  simp only [String.utf8EncodeChar, if_neg large]
  split
  · simp
    omega
  · split
    · simp
      omega
    · simp
      omega

theorem markOf_of_le {code : Nat} (long : 128 ≤ code) : markOf code = .other := by
  unfold markOf
  grind

/-- The first byte of a character has the mark of the character, and the others, which only
an ordinary character has, are ordinary. -/
theorem exists_bytes (c : Char) : ∃ first more, String.utf8EncodeChar c = first :: more ∧
    byteMark first = charMark c ∧ (∀ b ∈ more, byteMark b = .other) ∧
    (charMark c ≠ .other → more = []) := by
  by_cases ascii : c.toNat < 128
  · have code : (UInt8.ofNat c.toNat).toNat = c.toNat :=
      UInt8.toNat_ofNat_of_lt' (Nat.lt_trans ascii (by decide))
    exact ⟨_, [], utf8EncodeChar_of_lt ascii, congrArg markOf code, nofun, fun _ => rfl⟩
  · have long : 128 ≤ c.toNat := Nat.le_of_not_lt ascii
    have ordinary : ∀ b ∈ String.utf8EncodeChar c, byteMark b = .other := fun b inside =>
      markOf_of_le (le_of_mem_utf8EncodeChar long b inside)
    have mark : charMark c = .other := markOf_of_le long
    obtain ⟨first, more, encoded⟩ := List.exists_cons_of_ne_nil (String.utf8EncodeChar_ne_nil (c := c))
    rw [encoded] at ordinary
    exact ⟨first, more, encoded, (ordinary first List.mem_cons_self).trans mark.symm,
      fun b inside => ordinary b (List.mem_cons_of_mem _ inside), fun separator => absurd mark separator⟩

/-! ## The reader in step -/

/-- The record being read, in bytes. -/
def Partial.bytes (p : Partial Char) : Partial UInt8 where
  fields := p.fields.map Csv.bytes
  current := (Csv.bytes p.current.reverse).reverse

theorem Partial.bytes_push (p : Partial Char) (c : Char) :
    (p.push c).bytes =
      { p.bytes with current := (String.utf8EncodeChar c).reverse ++ p.bytes.current } := by
  simp [Partial.bytes, Partial.push, Csv.bytes]

theorem Partial.bytes_endField (p : Partial Char) : p.endField.bytes = p.bytes.endField := by
  simp [Partial.bytes, Partial.endField, Csv.bytes]

theorem Partial.record_bytes (p : Partial Char) : p.bytes.record = p.record.map Csv.bytes := by
  simp [Partial.bytes, Partial.record, Partial.endField, Csv.bytes]

/-- Ordinary bytes are taken in one after the other. -/
theorem recordsFrom_ordinary {position : Position} (inside : position = .plain ∨ position = .quoted)
    {more rest : List UInt8} (ordinary : ∀ b ∈ more, byteMark b = .other) (p : Partial UInt8) :
    recordsFrom byteMark position p (more ++ rest) =
      recordsFrom byteMark position { p with current := more.reverse ++ p.current } rest := by
  induction more generalizing p with
  | nil => rfl
  | cons b more ih =>
    have mark := ordinary b List.mem_cons_self
    have step : recordsFrom byteMark position p (b :: (more ++ rest)) =
        recordsFrom byteMark position (p.push b) (more ++ rest) := by
      rcases inside with rfl | rfl <;> simp only [recordsFrom, mark]
    rw [List.cons_append, step, ih fun b inside => ordinary b (List.mem_cons_of_mem _ inside)]
    simp [Partial.push]

theorem recordsFrom_bytes (position : Position) (p : Partial Char) (text : List Char) :
    recordsFrom byteMark position p.bytes (bytes text) =
      (recordsFrom charMark position p text).map (List.map bytes) := by
  induction text generalizing position p with
  | nil => cases position <;> simp [recordsFrom, bytes, Partial.record_bytes]
  | cons c text ih =>
    obtain ⟨first, more, encoded, mark, ordinary, lone⟩ := exists_bytes c
    have pushed (p : Partial Char) : (p.push c).bytes =
        { p.bytes.push first with current := more.reverse ++ (p.bytes.push first).current } := by
      rw [Partial.bytes_push, encoded]
      simp [Partial.push]
    have taken (next : Position) (inside : next = .plain ∨ next = .quoted) (p : Partial Char) :
        recordsFrom byteMark next (p.bytes.push first) (more ++ bytes text) =
          (recordsFrom charMark next (p.push c) text).map (List.map bytes) := by
      rw [recordsFrom_ordinary inside ordinary, ← pushed, ih]
    -- a separator is a single byte
    have parted (next : Position) (p : Partial Char) (separator : charMark c ≠ .other) :
        recordsFrom byteMark next p.bytes (more ++ bytes text) =
          (recordsFrom charMark next p text).map (List.map bytes) := by
      rw [lone separator]
      exact ih next p
    have ended (p : Partial Char) (separator : charMark c ≠ .other) :
        p.bytes.record :: recordsFrom byteMark .betweenRecords {} (more ++ bytes text) =
          (p.record :: recordsFrom charMark .betweenRecords {} text).map (List.map bytes) := by
      rw [Partial.record_bytes, List.map_cons]
      exact congrArg _ (parted .betweenRecords {} separator)
    rw [bytes_cons, encoded, List.cons_append]
    cases position with
    | betweenRecords =>
      simp only [recordsFrom, mark]
      cases isMark : charMark c with
      | comma => exact parted .fieldStart (Partial.endField {}) (by simp [isMark])
      | quote => exact parted .quoted {} (by simp [isMark])
      | carriageReturn | lineFeed => exact parted .betweenRecords {} (by simp [isMark])
      | other => exact taken .plain (.inl rfl) {}
    | fieldStart =>
      simp only [recordsFrom, mark, ← Partial.bytes_endField]
      cases isMark : charMark c with
      | comma => exact parted .fieldStart p.endField (by simp [isMark])
      | quote => exact parted .quoted p (by simp [isMark])
      | carriageReturn | lineFeed => exact ended p (by simp [isMark])
      | other => exact taken .plain (.inl rfl) p
    | plain =>
      simp only [recordsFrom, mark, ← Partial.bytes_endField]
      cases isMark : charMark c with
      | comma => exact parted .fieldStart p.endField (by simp [isMark])
      | carriageReturn | lineFeed => exact ended p (by simp [isMark])
      | quote | other => exact taken .plain (.inl rfl) p
    | quoted =>
      simp only [recordsFrom, mark]
      cases isMark : charMark c with
      | quote => exact parted .afterQuote p (by simp [isMark])
      | _ => exact taken .quoted (.inr rfl) p
    | afterQuote =>
      simp only [recordsFrom, mark, ← Partial.bytes_endField]
      cases isMark : charMark c with
      | comma => exact parted .fieldStart p.endField (by simp [isMark])
      | carriageReturn | lineFeed => exact ended p (by simp [isMark])
      | quote => exact taken .quoted (.inr rfl) p
      | other => exact taken .plain (.inl rfl) p

/-! ## Whole texts -/

theorem toUTF8_toList (s : String) : s.toUTF8.data.toList = bytes s.toList := by
  have encoded : (String.ofList s.toList).toByteArray = (bytes s.toList).toByteArray :=
    String.toByteArray_ofList
  rw [String.ofList_toList] at encoded
  rw [String.toUTF8_eq_toByteArray, encoded, List.data_toByteArray]

theorem fromUTF8?_bytes (cell : List Char) :
    String.fromUTF8? ⟨(bytes cell).toArray⟩ = some (String.ofList cell) := by
  have encoded : (⟨(bytes cell).toArray⟩ : ByteArray) = (String.ofList cell).toByteArray := by
    rw [String.toByteArray_ofList]
    exact ByteArray.ext List.data_toByteArray.symm
  rw [encoded, String.fromUTF8?, dif_pos (String.ofList cell).isValidUTF8]
  rfl

/-- Only the byte order mark starts with its three bytes. -/
theorem eq_byteOrderMark {c : Char} {rest more : List UInt8}
    (encoded : String.utf8EncodeChar c ++ rest = 0xEF :: 0xBB :: 0xBF :: more) :
    c = byteOrderMark := by
  have code : c.val.toNat = 0xFEFF := by
    simp only [String.utf8EncodeChar] at encoded
    split_ifs at encoded <;>
      simp only [List.cons_append, List.nil_append, List.cons.injEq, ← UInt8.toNat_inj,
        UInt8.toNat_ofNat', UInt8.reduceToNat] at encoded <;>
      omega
  exact Char.toNat_inj.mp code

theorem records_bytes (text : List Char) :
    records byteMark (bytes text) = (records charMark text).map (List.map bytes) :=
  recordsFrom_bytes .betweenRecords {} text

theorem mapM_fromUTF8? (fields : List (List Char)) :
    (fields.map bytes).mapM (fun field => String.fromUTF8? ⟨field.toArray⟩) =
      some (fields.map String.ofList) := by
  induction fields with
  | nil => rfl
  | cons field fields ih => simp [List.mapM_cons, fromUTF8?_bytes, ih]

/-- **A text is read alike from its characters and from its bytes.** -/
theorem ofBytes_toUTF8 (s : String) :
    ofBytes s.toUTF8.data.toList = (ofChars s.toList).map some := by
  rw [toUTF8_toList]
  generalize s.toList = text
  have read (text : List Char) :
      (records byteMark (bytes text)).map
          (fun fields => fields.mapM fun field => String.fromUTF8? ⟨field.toArray⟩) =
        ((records charMark text).map fun fields => fields.map String.ofList).map some := by
    rw [records_bytes, List.map_map, List.map_map]
    exact List.map_congr_left fun fields _ => mapM_fromUTF8? fields
  cases text with
  | nil => rfl
  | cons c text =>
    by_cases marked : c = byteOrderMark
    · subst marked
      exact read text
    · have unmarked : (c :: text).head? ≠ some byteOrderMark := fun same =>
        marked (Option.some.inj same)
      rw [ofChars_of_unmarked unmarked, ← read, ofBytes]
      · rfl
      · intro more encoded
        rw [bytes_cons] at encoded
        exact marked (eq_byteOrderMark encoded)

end ChartCompiler.Csv

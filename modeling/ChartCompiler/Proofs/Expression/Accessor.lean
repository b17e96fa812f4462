import Mathlib
import ChartCompiler.Chart.Expression
import ChartCompiler.Proofs.Text.Runs

/-!
Reading texts and field accessors back out of an expression. A text ends at the first quote
that no backslash precedes; an accessor is a bare name behind `datum.` or a text between the
brackets of `datum[…]`. What is written for a text or a field is read as that text or field,
and the reader stops where the written part stops (`names_stay_inside`): no name, whatever its
characters, reaches into the expression around it.
-/

namespace ChartCompiler.Expression

open Text (Ends ends_nil takeWhile_append dropWhile_append)

/-! ## The readers -/

/-- What stands in front of the closing quote of a text, and what stands behind it. A
backslash stands for the character after it. -/
def readQuoted : List Char → Option (List Char × List Char)
  | [] => none
  | '\'' :: rest => some ([], rest)
  | '\\' :: c :: rest => (readQuoted rest).map fun (s, rest) => (c :: s, rest)
  | c :: rest => if c = '\\' then none else (readQuoted rest).map fun (s, rest) => (c :: s, rest)

/-- A text between single quotes at the start of an expression. -/
def readText? : List Char → Option (String × List Char)
  | '\'' :: rest => (readQuoted rest).map fun (s, rest) => (String.ofList s, rest)
  | _ => none

/-- An ASCII letter, a digit or an underscore. -/
def isNameChar (c : Char) : Bool :=
  c.isAlphanum || c == '_'

/-- A bare name at the start of an expression, as long as it goes on. -/
def readName? (cs : List Char) : Option (String × List Char) :=
  match cs.takeWhile isNameChar with
  | [] => none
  | c :: w => if c.isDigit then none else some (String.ofList (c :: w), cs.dropWhile isNameChar)

/-- A field accessor at the start of an expression. -/
def readDatum? : List Char → Option (String × List Char)
  | 'd' :: 'a' :: 't' :: 'u' :: 'm' :: '.' :: rest => readName? rest
  | 'd' :: 'a' :: 't' :: 'u' :: 'm' :: '[' :: rest =>
    match readText? rest with
    | some (field, ']' :: rest) => some (field, rest)
    | _ => none
  | _ => none

/-! ## Texts -/

/-- A character that is written is read, and the reader goes on behind it. -/
theorem readQuoted_escapedChar (c : Char) (rest : List Char) :
    readQuoted (escapedChar c ++ rest) = (readQuoted rest).map fun (s, rest) => (c :: s, rest) := by
  unfold escapedChar
  split_ifs with special
  · exact readQuoted.eq_3 c rest
  · obtain ⟨notBackslash, notQuote⟩ := not_or.mp special
    rw [List.singleton_append, readQuoted.eq_4 _ _ notQuote fun _ _ same => absurd same notBackslash,
      if_neg notBackslash]

theorem readQuoted_append (s rest : List Char) :
    readQuoted (s.flatMap escapedChar ++ '\'' :: rest) = some (s, rest) := by
  induction s with
  | nil => rfl
  | cons c s ih =>
    rw [List.flatMap_cons, List.append_assoc, readQuoted_escapedChar, ih]
    rfl

theorem readText?_textChars (s rest : List Char) :
    readText? (textChars s ++ rest) = some (String.ofList s, rest) := by
  have split : textChars s ++ rest = '\'' :: (s.flatMap escapedChar ++ '\'' :: rest) := by
    simp [textChars]
  rw [split, readText?, readQuoted_append]
  rfl

/-! ## Accessors -/

theorem isDecimalDigit_eq (c : Char) : isDecimalDigit c = c.isDigit :=
  rfl

theorem isIdentifierChar_eq (c : Char) : isIdentifierChar c = isNameChar c := by
  have letter : isAsciiLetter c = c.isAlpha := by
    rw [isAsciiLetter, Char.isAlpha, Char.isUpper, Char.isLower, Bool.decide_and, Bool.or_comm]
    rfl
  rw [isIdentifierChar, isAsciiAlphanumeric, isNameChar, Char.isAlphanum, letter,
    isDecimalDigit_eq]

theorem readName?_append {w rest : List Char} (identifier : isIdentifier w = true)
    (ends : Ends isNameChar rest) : readName? (w ++ rest) = some (String.ofList w, rest) := by
  cases w with
  | nil => cases identifier
  | cons c w =>
    obtain ⟨notDigit, parts⟩ := Bool.and_eq_true_iff.mp identifier
    have all : ∀ d ∈ c :: w, isNameChar d = true := by
      intro d inside
      rw [← isIdentifierChar_eq]
      exact List.all_eq_true.mp parts d inside
    rw [Bool.not_eq_true', isDecimalDigit_eq] at notDigit
    rw [readName?, takeWhile_append all ends, dropWhile_append all ends]
    exact if_neg (Bool.eq_false_iff.mp notDigit)

theorem readDatum?_datumChars (field : List Char) {rest : List Char}
    (ends : Ends isNameChar rest) :
    readDatum? (datumChars field ++ rest) = some (String.ofList field, rest) := by
  unfold datumChars
  split_ifs with identifier
  · exact readName?_append identifier ends
  · have split : "datum[".toList ++ textChars field ++ [']'] ++ rest =
        'd' :: 'a' :: 't' :: 'u' :: 'm' :: '[' :: (textChars field ++ ']' :: rest) := by
      simp
    rw [split, readDatum?, readText?_textChars]
    rfl

/-- **Names stay inside.** A text that is written into an expression, and then a field accessor,
is read as what was written, and all that was written behind it is left; so different fields
have different accessors. -/
theorem names_stay_inside :
    (∀ (s : String) (rest : List Char), readText? ((text s).toList ++ rest) = some (s, rest)) ∧
      (∀ (field : String) (rest : List Char),
        (∀ c, rest.head? = some c → ¬ (c.isAlpha ∨ c.isDigit ∨ c = '_')) →
        readDatum? ((datum field).toList ++ rest) = some (field, rest)) ∧
      Function.Injective datum := by
  have accessor : ∀ (field : String) (rest : List Char), Ends isNameChar rest →
      readDatum? ((datum field).toList ++ rest) = some (field, rest) := by
    intro field rest ends
    rw [datum, String.toList_ofList, readDatum?_datumChars _ ends, String.ofList_toList]
  refine ⟨fun s rest => ?_, fun field rest stops => accessor field rest fun c first => ?_, ?_⟩
  · rw [text, String.toList_ofList, readText?_textChars, String.ofList_toList]
  · have other := stops c first
    simpa [isNameChar, Char.isAlphanum, and_assoc] using other
  · intro a b same
    have readA := accessor a [] ends_nil
    rw [same, accessor b [] ends_nil] at readA
    exact (Prod.mk.inj (Option.some.inj readA)).1.symm

/-- A name that closes its own brackets and a name that ends in a backslash, with a text behind
them that looks like more of the same. -/
theorem names_stay_inside_awkward :
    let behind := "'] || datum['x".toList
    (∀ c, behind.head? = some c → ¬ (c.isAlpha ∨ c.isDigit ∨ c = '_')) ∧
      readDatum? ((datum "a'] || true").toList ++ behind) = some ("a'] || true", behind) ∧
      readDatum? ((datum "o'brien\\").toList ++ behind) = some ("o'brien\\", behind) := by
  intro behind
  have stops : ∀ c, behind.head? = some c → ¬ (c.isAlpha ∨ c.isDigit ∨ c = '_') := by
    rintro c ⟨⟩
    decide
  exact ⟨stops, names_stay_inside.2.1 _ _ stops, names_stay_inside.2.1 _ _ stops⟩

end ChartCompiler.Expression

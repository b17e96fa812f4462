import Mathlib
import ChartCompiler.Proofs.Expression.Condition
import ChartCompiler.Proofs.Json.FlatRecord

/-!
The tokens of the parts that expressions are put together from: field accessors, JSON scalars
and arrays of scalars. `Spells cs ts` says that the characters `cs` give the tokens `ts` in
front of every text that cannot lengthen their last token. Parts that spell tokens spell them
next to each other (`Spells.append`, `Spells.intercalate`), so what a name or a text contains
never changes how the expression around it is cut.
-/

namespace ChartCompiler.Expression

open Text (Ends ends_nil ends_cons takeWhile_append dropWhile_append)

variable {cs rest : List Char} {ts : List Token}

/-! ## One token -/

/-- The text cannot lengthen a name or a numeral in front of it. -/
def Stops (rest : List Char) : Prop :=
  Ends (fun c => isNameChar c || isNumeralChar c) rest

theorem stops_nil : Stops [] :=
  ends_nil

theorem stops_cons {c : Char} (other : (isNameChar c || isNumeralChar c) = false) :
    Stops (c :: rest) :=
  ends_cons other

theorem Stops.name (stops : Stops rest) : Ends isNameChar rest :=
  fun c first => (Bool.or_eq_false_iff.mp (stops c first)).1

theorem Stops.numeral (stops : Stops rest) : Ends isNumeralChar rest :=
  fun c first => (Bool.or_eq_false_iff.mp (stops c first)).2

/-- The characters give the tokens, whatever text that they stop at stands behind them. -/
def Spells (cs : List Char) (ts : List Token) : Prop :=
  ∀ rest, Stops rest → tokens? (cs ++ rest) = (tokens? rest).map (ts ++ ·)

theorem tokens?_nil : tokens? [] = some [] := by
  rw [tokens?]
  rfl

theorem tokens?_blank (cs : List Char) : tokens? (' ' :: cs) = tokens? cs := by
  have skipped : Json.skipBlanks (' ' :: cs) = Json.skipBlanks cs := rfl
  rw [tokens?, tokens?, skipped]

/-- A token is cut off the text, and the rest is cut by itself. -/
theorem tokens?_append {c : Char} {w : List Char} {t : Token}
    (token : Json.isTokenBlank c = false) (read : readToken? (c :: w ++ rest) = some (t, rest)) :
    tokens? (c :: w ++ rest) = (tokens? rest).map (t :: ·) := by
  have shorter : rest.length < (c :: w ++ rest).length := by
    simp only [List.length_append, List.length_cons]
    omega
  have skipped : Json.skipBlanks (c :: w ++ rest) = c :: w ++ rest := Json.skipBlanks_cons token _
  rw [tokens?, skipped, if_neg (by simp), read]
  exact if_pos shorter

/-- The characters of a mark. -/
def Mark.chars : Mark → List Char
  | .leftParen => ['(']
  | .rightParen => [')']
  | .leftBracket => ['[']
  | .rightBracket => [']']
  | .comma => [',']
  | .point => ['.']
  | .same => ['=', '=', '=']
  | .atLeast => ['>', '=']
  | .both => ['&', '&']
  | .either => ['|', '|']

theorem tokens?_mark (m : Mark) (rest : List Char) :
    tokens? (m.chars ++ rest) = (tokens? rest).map (.mark m :: ·) := by
  cases m <;> exact tokens?_append rfl rfl

theorem ends_mark (m : Mark) (rest : List Char) : Ends isNameChar (m.chars ++ rest) := by
  cases m <;> exact ends_cons rfl

theorem stops_rightParen (rest : List Char) : Stops (Mark.rightParen.chars ++ rest) :=
  stops_cons rfl

theorem ne_of_class {p : Char → Bool} {c d : Char} (inside : p c = true) (outside : p d = false) :
    c ≠ d := by
  rintro rfl
  exact Bool.false_ne_true (outside.symm.trans inside)

theorem isTokenBlank_of_class {p : Char → Bool} {c : Char} (inside : p c = true)
    (outside : p ' ' = false ∧ p '\t' = false ∧ p '\n' = false ∧ p '\r' = false) :
    Json.isTokenBlank c = false := by
  obtain ⟨space, tab, lineFeed, carriageReturn⟩ := outside
  simp [Json.isTokenBlank, ne_of_class inside space, ne_of_class inside tab,
    ne_of_class inside lineFeed, ne_of_class inside carriageReturn]

/-- A name goes on to where it ends. -/
theorem tokens?_name {w : List Char} (identifier : isIdentifier w = true)
    (ends : Ends isNameChar rest) :
    tokens? (w ++ rest) = (tokens? rest).map (.name (String.ofList w) :: ·) := by
  have read := readName?_append identifier ends
  cases w with
  | nil => cases identifier
  | cons c w =>
    obtain ⟨notDigit, parts⟩ := Bool.and_eq_true_iff.mp identifier
    have isName : isNameChar c = true := by
      rw [← isIdentifierChar_eq]
      exact List.all_eq_true.mp parts c List.mem_cons_self
    have other : ∀ {d}, isNameChar d = false → c ≠ d := ne_of_class isName
    have notNumeral : startsNumeral c = false := by
      rw [startsNumeral, (Bool.not_eq_true' _).mp notDigit, beq_false_of_ne (other rfl)]
      rfl
    refine tokens?_append (isTokenBlank_of_class isName ⟨rfl, rfl, rfl, rfl⟩) ?_
    rw [List.cons_append, readToken?, if_neg (other rfl), if_neg (other rfl), notNumeral, if_neg Bool.false_ne_true,
      if_pos isName]
    exact congrArg (Option.map _) read

theorem tokens?_text (s rest : List Char) :
    tokens? (textChars s ++ rest) = (tokens? rest).map (.text (String.ofList s) :: ·) :=
  tokens?_append rfl (congrArg (Option.map _) (readText?_textChars s rest))

theorem tokens?_string (s : String) (rest : List Char) :
    tokens? (Json.stringChars s ++ rest) = (tokens? rest).map (.text s :: ·) := by
  have full : Json.ReadMode.document ≠ .skipped := nofun
  refine tokens?_append rfl ?_
  rw [List.cons_append, List.append_assoc]
  exact congrArg (Option.map _) (Json.readString_stringChars full s rest)

theorem tokens?_numeral (numeral : IsNumeral cs) (ends : Ends isNumeralChar rest) :
    tokens? (cs ++ rest) = (tokens? rest).map (.numeral cs :: ·) := by
  have all := numeral.isNumeralChar
  have read : some (Token.numeral ((cs ++ rest).takeWhile isNumeralChar),
      (cs ++ rest).dropWhile isNumeralChar) = some (.numeral cs, rest) := by
    rw [takeWhile_append all ends, dropWhile_append all ends]
  obtain ⟨starts, -⟩ := numeral
  rename_i c w
  have other : ∀ {d}, startsNumeral d = false → c ≠ d := ne_of_class starts
  refine tokens?_append (isTokenBlank_of_class starts ⟨rfl, rfl, rfl, rfl⟩) ?_
  rw [List.cons_append, readToken?, if_neg (other rfl), if_neg (other rfl), if_pos starts]
  exact read

/-! ## Parts next to each other -/

/-- A mark between blanks. -/
def Mark.spaced (m : Mark) : List Char :=
  ' ' :: (m.chars ++ [' '])

theorem tokens?_spaced (m : Mark) (rest : List Char) :
    tokens? (m.spaced ++ rest) = (tokens? rest).map (.mark m :: ·) := by
  have split : m.spaced ++ rest = ' ' :: (m.chars ++ ' ' :: rest) := by
    simp [Mark.spaced]
  rw [split, tokens?_blank, tokens?_mark, tokens?_blank]

theorem stops_spaced (m : Mark) (rest : List Char) : Stops (m.spaced ++ rest) :=
  stops_cons rfl

/-- Parts with a mark between any two of them. -/
theorem Spells.intercalate {ι : Type} {cs : ι → List Char} {ts : ι → List Token} {part : ι}
    {parts : List ι} (m : Mark) (spells : ∀ i ∈ part :: parts, Spells (cs i) (ts i)) :
    Spells (m.spaced.intercalate ((part :: parts).map cs))
      ([Token.mark m].intercalate ((part :: parts).map ts)) := by
  induction parts generalizing part with
  | nil => simpa using spells
  | cons next parts ih =>
    obtain ⟨first, others⟩ := List.forall_mem_cons.mp spells
    intro rest stops
    have further := ih others rest stops
    rw [List.map_cons] at further
    simp only [List.map_cons, List.intercalate_cons_cons, List.append_assoc]
    rw [first _ (stops_spaced m _), tokens?_spaced, further, Option.map_map, Option.map_map]
    rfl

/-! ## Accessors -/

/-- The tokens of a field accessor. -/
def datumTokens (field : List Char) : List Token :=
  if isIdentifier field then [.name "datum", .mark .point, .name (String.ofList field)]
  else [.name "datum", .mark .leftBracket, .text (String.ofList field), .mark .rightBracket]

theorem spells_datumChars (field : List Char) : Spells (datumChars field) (datumTokens field) := by
  intro rest stops
  have name : ∀ m rest, tokens? ("datum".toList ++ (Mark.chars m ++ rest)) =
      (tokens? rest).map fun ts => .name "datum" :: .mark m :: ts := by
    intro m rest
    rw [tokens?_name (w := "datum".toList) rfl (ends_mark m rest), tokens?_mark, Option.map_map]
    rfl
  unfold datumChars datumTokens
  split_ifs with identifier
  · have split : "datum.".toList ++ field ++ rest =
        "datum".toList ++ (Mark.point.chars ++ (field ++ rest)) := by
      simp [Mark.chars]
    rw [split, name, tokens?_name identifier stops.name, Option.map_map]
    rfl
  · have split : "datum[".toList ++ textChars field ++ [']'] ++ rest =
        "datum".toList ++ (Mark.leftBracket.chars ++
          (textChars field ++ (Mark.rightBracket.chars ++ rest))) := by
      simp [Mark.chars]
    rw [split, name, tokens?_text, tokens?_mark, Option.map_map,
      Option.map_map]
    rfl

/-! ## Scalars and arrays of them -/

/-- A value that is neither an array nor an object. -/
inductive IsScalar : Json → Prop
  | null : IsScalar .null
  | bool (b : Bool) : IsScalar (.bool b)
  | number (n : Json.Number) : IsScalar (.number n)
  | string (s : String) : IsScalar (.string s)

/-- The token of a scalar. -/
def scalarToken : Json → Token
  | .bool b => .name (if b then "true" else "false")
  | .number n => .numeral n.chars
  | .string s => .text s
  | _ => .name "null"

/-- The tokens of the items of an array after the first, up to the closing bracket. -/
def itemTokens : List Json → List Token
  | [] => [.mark .rightBracket]
  | item :: rest => .mark .comma :: scalarToken item :: itemTokens rest

/-- The tokens of an array of scalars. -/
def arrayTokens : List Json → List Token
  | [] => [.mark .leftBracket, .mark .rightBracket]
  | item :: rest => .mark .leftBracket :: scalarToken item :: itemTokens rest

theorem spells_scalar {v : Json} (scalar : IsScalar v) : Spells v.chars [scalarToken v] := by
  intro rest stops
  cases scalar with
  | null =>
    have read := tokens?_name (w := "null".toList) rfl stops.name
    simpa [Json.chars, scalarToken] using read
  | bool b =>
    cases b with
    | true =>
      have read := tokens?_name (w := "true".toList) rfl stops.name
      simpa [Json.chars, Json.boolChars, scalarToken] using read
    | false =>
      have read := tokens?_name (w := "false".toList) rfl stops.name
      simpa [Json.chars, Json.boolChars, scalarToken] using read
  | number n => exact tokens?_numeral n.isNumeral_chars stops.numeral
  | string s => exact tokens?_string s rest

theorem stops_itemsChars (items : List Json) (rest : List Char) :
    Stops (Json.itemsChars items ++ rest) := by
  cases items with
  | nil => exact stops_cons rfl
  | cons => exact stops_cons rfl

theorem tokens?_itemsChars {items : List Json} (scalars : ∀ item ∈ items, IsScalar item)
    (rest : List Char) :
    tokens? (Json.itemsChars items ++ rest) = (tokens? rest).map (itemTokens items ++ ·) := by
  induction items with
  | nil => exact tokens?_mark .rightBracket rest
  | cons item items ih =>
    obtain ⟨scalar, scalars⟩ := List.forall_mem_cons.mp scalars
    have split : Json.itemsChars (item :: items) ++ rest =
        Mark.comma.chars ++ (item.chars ++ (Json.itemsChars items ++ rest)) := by
      simp [Json.itemsChars, Mark.chars]
    rw [split, tokens?_mark, spells_scalar scalar _ (stops_itemsChars items rest), ih scalars,
      Option.map_map, Option.map_map]
    rfl

theorem tokens?_array {items : List Json} (scalars : ∀ item ∈ items, IsScalar item)
    (rest : List Char) :
    tokens? ((Json.array items).chars ++ rest) = (tokens? rest).map (arrayTokens items ++ ·) := by
  cases items with
  | nil =>
    have split : (Json.array []).chars ++ rest =
        Mark.leftBracket.chars ++ (Mark.rightBracket.chars ++ rest) := rfl
    rw [split, tokens?_mark, tokens?_mark, Option.map_map]
    rfl
  | cons item items =>
    obtain ⟨scalar, scalars⟩ := List.forall_mem_cons.mp scalars
    have split : (Json.array (item :: items)).chars ++ rest =
        Mark.leftBracket.chars ++ (item.chars ++ (Json.itemsChars items ++ rest)) := by
      simp [Json.chars, Mark.chars]
    rw [split, tokens?_mark, spells_scalar scalar _ (stops_itemsChars items rest),
      tokens?_itemsChars scalars, Option.map_map, Option.map_map]
    rfl

end ChartCompiler.Expression

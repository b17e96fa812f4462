import Mathlib
import ChartCompiler.Config.Json

/-!
Writing and reading back flat records, whose members hold texts and truth values. A
character is written in one of three ways (`escapedChar_cases`), and each of them is read
as that character. From there the readers of strings, of values and of members follow the
text that is written, and `readRecord?_chars` says that a record comes back whole.
-/

namespace ChartCompiler.Json

variable {mode : ReadMode}

/-! ## Strings -/

/-- The ways of writing a character: behind a backslash, by its code point, or as it is. -/
theorem escapedChar_cases (c : Char) :
    (∃ letter, letter ≠ 'u' ∧ escapedChar c = ['\\', letter] ∧ escapeLetter? letter = some c) ∨
      (c.toNat < 32 ∧ escapedChar c = '\\' :: 'u' :: '0' :: '0' :: controlDigits c) ∨
      (c ≠ '"' ∧ c ≠ '\\' ∧ 32 ≤ c.toNat ∧ escapedChar c = [c]) := by
  unfold escapedChar
  split_ifs with quote backslash backspace formFeed lineFeed carriageReturn tab control
  · exact .inl ⟨'"', by decide, rfl, by rw [quote]; decide⟩
  · exact .inl ⟨'\\', by decide, rfl, by rw [backslash]; decide⟩
  · exact .inl ⟨'b', by decide, rfl, by rw [backspace]; decide⟩
  · exact .inl ⟨'f', by decide, rfl, by rw [formFeed]; decide⟩
  · exact .inl ⟨'n', by decide, rfl, by rw [lineFeed]; decide⟩
  · exact .inl ⟨'r', by decide, rfl, by rw [carriageReturn]; decide⟩
  · exact .inl ⟨'t', by decide, rfl, by rw [tab]; decide⟩
  · exact .inr (.inl ⟨control, rfl⟩)
  · exact .inr (.inr ⟨quote, backslash, Nat.le_of_not_lt control, rfl⟩)

theorem hexUnit?_controlDigits {c : Char} (control : c.toNat < 32) :
    ∃ high low, controlDigits c = [high, low] ∧ hexUnit? '0' '0' high low = some c.toNat := by
  have digits : ∀ n < 32, hexUnit? '0' '0'
      (if n / 16 < 10 then Char.ofNat (48 + n / 16) else Char.ofNat (87 + n / 16))
      (if n % 16 < 10 then Char.ofNat (48 + n % 16) else Char.ofNat (87 + n % 16)) = some n := by
    decide
  exact ⟨_, _, rfl, digits c.toNat control⟩

theorem readString_escape {letter c : Char} (notUnit : letter ≠ 'u')
    (escape : escapeLetter? letter = some c) (done rest : List Char) :
    readString mode done ('\\' :: letter :: rest) = readString mode (c :: done) rest := by
  rw [readString.eq_4 _ _ _ _ fun _ _ _ _ _ isUnit _ => notUnit isUnit, escape]

theorem readString_unit {a b c d : Char} {unit : Nat} (full : mode ≠ .skipped)
    (digits : hexUnit? a b c d = some unit) (small : unit < 0xD800) (done rest : List Char) :
    readString mode done ('\\' :: 'u' :: a :: b :: c :: d :: rest) =
      readString mode (Char.ofNat unit :: done) rest := by
  have notTrail : isTrailUnit unit = false := by
    simp only [isTrailUnit, Bool.and_eq_false_iff, decide_eq_false_iff_not]
    omega
  have notLead : isLeadUnit unit = false := by
    simp only [isLeadUnit, Bool.and_eq_false_iff, decide_eq_false_iff_not]
    omega
  rw [readString.eq_3, digits]
  simp only [full, notTrail, notLead, if_false, Bool.false_eq_true]

theorem readString_plain {c : Char} (notQuote : c ≠ '"') (notBackslash : c ≠ '\\')
    (notControl : 32 ≤ c.toNat) (done rest : List Char) :
    readString mode done (c :: rest) = readString mode (c :: done) rest := by
  rw [readString.eq_5 _ _ _ _ notQuote (fun _ _ _ _ _ same => absurd same notBackslash)
    (fun _ _ same => absurd same notBackslash), if_neg]
  rintro (same | control)
  · exact notBackslash same
  · omega

theorem readString_escapedChar (full : mode ≠ .skipped) (c : Char) (done rest : List Char) :
    readString mode done (escapedChar c ++ rest) = readString mode (c :: done) rest := by
  rcases escapedChar_cases c with
    ⟨letter, notUnit, written, escape⟩ | ⟨control, written⟩ |
    ⟨notQuote, notBackslash, notControl, written⟩
  · rw [written]
    exact readString_escape notUnit escape done rest
  · obtain ⟨high, low, isPair, digits⟩ := hexUnit?_controlDigits control
    have read := readString_unit full digits (by omega) done rest
    rw [Char.ofNat_toNat] at read
    rw [written, isPair]
    exact read
  · rw [written]
    exact readString_plain notQuote notBackslash notControl done rest

theorem readString_chars (full : mode ≠ .skipped) (s done rest : List Char) :
    readString mode done (s.flatMap escapedChar ++ '"' :: rest) =
      some (String.ofList (done.reverse ++ s), rest) := by
  induction s generalizing done with
  | nil => simp [readString]
  | cons c s ih =>
    rw [List.flatMap_cons, List.append_assoc, readString_escapedChar full, ih]
    simp

/-! ## Texts and truth values -/

/-- A text or a truth value. -/
inductive IsFlat : Json → Prop
  | string (s : String) : IsFlat (.string s)
  | bool (b : Bool) : IsFlat (.bool b)

theorem stringChars_append (s : String) (rest : List Char) :
    stringChars s ++ rest = '"' :: (s.toList.flatMap escapedChar ++ '"' :: rest) := by
  simp [stringChars]

theorem readString_stringChars (full : mode ≠ .skipped) (s : String) (rest : List Char) :
    readString mode [] (s.toList.flatMap escapedChar ++ '"' :: rest) = some (s, rest) := by
  rw [readString_chars full, List.reverse_nil, List.nil_append, String.ofList_toList]

theorem skipBlanks_cons {c : Char} (token : isTokenBlank c = false) (rest : List Char) :
    skipBlanks (c :: rest) = c :: rest :=
  List.dropWhile_cons_of_neg (by simp [token])

theorem afterWord?_append (word rest : List Char) : afterWord? word (word ++ rest) = some rest := by
  simp [afterWord?]

theorem readValue_chars (full : mode ≠ .skipped) {v : Json} (flat : IsFlat v) (fuel depth : Nat)
    (rest : List Char) : readValue mode (fuel + 1) depth (v.chars ++ rest) = some (v, rest) := by
  cases flat with
  | string s =>
    rw [chars, stringChars_append, readValue, skipBlanks_cons rfl]
    simp only [readString_stringChars full, Option.map_some]
  | bool b =>
    cases b with
    | true =>
      have word : chars (.bool true) ++ rest = 't' :: (['r', 'u', 'e'] ++ rest) := by
        simp [chars, boolChars]
      rw [word, readValue, skipBlanks_cons rfl]
      simp only [afterWord?_append, Option.map_some]
    | false =>
      have word : chars (.bool false) ++ rest = 'f' :: (['a', 'l', 's', 'e'] ++ rest) := by
        simp [chars, boolChars]
      rw [word, readValue, skipBlanks_cons rfl]
      simp only [afterWord?_append, Option.map_some]

/-! ## Records -/

/-- The members are known and hold texts and truth values. -/
def IsFlatRecord (known : String → Bool) (members : List (String × Json)) : Prop :=
  ∀ member ∈ members, known member.1 = true ∧ IsFlat member.2

theorem length_lt_membersChars (members : List (String × Json)) :
    members.length < (membersChars members).length := by
  induction members with
  | nil => simp [membersChars]
  | cons member members ih =>
    obtain ⟨key, value⟩ := member
    simp only [membersChars, List.length_cons, List.length_append]
    omega

theorem readKnownMembers_last {known : String → Bool} {key : String} {value : Json}
    (isKnown : known key = true) (flat : IsFlat value) (fuel depth : Nat) (rest : List Char) :
    readKnownMembers known (fuel + 2) depth
        (stringChars key ++ ':' :: (value.chars ++ '\x7d' :: rest)) =
      some ([(key, value)], rest) := by
  have full : ReadMode.raw ≠ .skipped := nofun
  rw [stringChars_append, readKnownMembers, skipBlanks_cons rfl]
  simp only [readString_stringChars full, bind, Option.bind]
  rw [skipBlanks_cons rfl]
  simp only [isKnown, if_true, readValue_chars full flat]
  rw [skipBlanks_cons rfl]
  rfl

theorem readKnownMembers_comma {known : String → Bool} {key : String} {value : Json}
    (isKnown : known key = true) (flat : IsFlat value) {fuel depth : Nat} {text rest : List Char}
    {members : List (String × Json)}
    (others : readKnownMembers known (fuel + 1) depth text = some (members, rest)) :
    readKnownMembers known (fuel + 2) depth
        (stringChars key ++ ':' :: (value.chars ++ ',' :: text)) =
      some ((key, value) :: members, rest) := by
  have full : ReadMode.raw ≠ .skipped := nofun
  rw [stringChars_append, readKnownMembers, skipBlanks_cons rfl]
  simp only [readString_stringChars full, bind, Option.bind]
  rw [skipBlanks_cons rfl]
  simp only [isKnown, if_true, readValue_chars full flat]
  rw [skipBlanks_cons rfl]
  simp only [others]
  rfl

/-- Every member takes one step, and the last one a second step for its value. -/
theorem readKnownMembers_chars {known : String → Bool} {fuel : Nat} {key : String} {value : Json}
    {members : List (String × Json)} (flat : IsFlatRecord known ((key, value) :: members))
    (enough : members.length + 2 ≤ fuel) (depth : Nat) (rest : List Char) :
    readKnownMembers known fuel depth
        (stringChars key ++ ':' :: (value.chars ++ (membersChars members ++ rest))) =
      some ((key, value) :: members, rest) := by
  obtain ⟨fuel, rfl⟩ := Nat.exists_eq_add_of_le' (show 2 ≤ fuel by omega)
  obtain ⟨isKnown, isFlat⟩ := flat (key, value) List.mem_cons_self
  induction members generalizing fuel key value with
  | nil => exact readKnownMembers_last isKnown isFlat fuel depth rest
  | cons member members ih =>
    obtain ⟨nextKey, nextValue⟩ := member
    have flatNext : IsFlatRecord known ((nextKey, nextValue) :: members) := fun member inside =>
      flat member (List.mem_cons_of_mem _ inside)
    obtain ⟨nextKnown, nextFlat⟩ := flatNext (nextKey, nextValue) List.mem_cons_self
    rw [List.length_cons] at enough
    obtain ⟨fuel, rfl⟩ := Nat.exists_eq_add_of_le' (show 1 ≤ fuel by omega)
    have others := ih flatNext fuel (by omega) nextKnown nextFlat
    simp only [membersChars, List.cons_append, List.append_assoc]
    exact readKnownMembers_comma isKnown isFlat others

/-- A flat record comes back with its members in order. -/
theorem readRecord?_chars {known : String → Bool} {members : List (String × Json)}
    (flat : IsFlatRecord known members) (once : (members.map Prod.fst).Nodup) :
    readRecord? known (Json.object members).chars = some members := by
  cases members with
  | nil => rfl
  | cons member members =>
    obtain ⟨key, value⟩ := member
    have enough : members.length + 2 ≤ readFuel (Json.object ((key, value) :: members)).chars := by
      have shorter := length_lt_membersChars members
      simp only [readFuel, chars, List.length_cons, List.length_append]
      omega
    have read := readKnownMembers_chars flat enough (maxDepth - 1) []
    rw [List.append_nil] at read
    have opened : readRecord? known (Json.object ((key, value) :: members)).chars =
        (readKnownMembers known (readFuel (Json.object ((key, value) :: members)).chars)
          (maxDepth - 1) (stringChars key ++ ':' :: (value.chars ++ membersChars members))).bind
        fun read => if (skipBlanks read.2).isEmpty ∧ (read.1.map Prod.fst).Nodup then some read.1
          else none := rfl
    rw [opened, read]
    exact if_pos ⟨rfl, once⟩

end ChartCompiler.Json

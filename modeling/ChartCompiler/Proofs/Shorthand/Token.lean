import Mathlib
import ChartCompiler.Proofs.Shorthand.Grammar
import ChartCompiler.Proofs.Text.Runs

/-!
What the token functions of the shorthand read. Each one comes with two lemmas: on a
token of the grammar with a text behind it that cannot belong to the token the function
answers this token (`…_append`), and whatever it answers is a token of the grammar at
the start of the text (`…_ok`).
-/

namespace ChartCompiler.Shorthand

open Text (Ends ends_cons takeWhile_append dropWhile_append)

variable {text rest : List Char}

/-! ## Steps that succeed -/

theorem ok_of_bind {ε α β : Type} {m : Except ε α} {k : α → Except ε β} {b : β}
    (done : m >>= k = .ok b) : ∃ a, m = .ok a ∧ k a = .ok b := by
  cases m with
  | error e => cases done
  | ok a => exact ⟨a, rfl, done⟩

theorem ok_of_map {ε α β : Type} {m : Except ε α} {f : α → β} {b : β}
    (done : m.map f = .ok b) : ∃ a, m = .ok a ∧ f a = b := by
  cases m with
  | error e => cases done
  | ok a => exact ⟨a, rfl, Except.ok.inj done⟩

/-! ## White space -/

theorem isSpace_iff {c : Char} :
    isSpace c = true ↔ c = ' ' ∨ c = '\t' ∨ c = '\r' ∨ c = '\n' := by
  simp [isSpace, or_assoc]

theorem Space.nil : Space [] := by
  intro c inside
  cases inside

theorem Space.append {v w : List Char} (left : Space v) (right : Space w) : Space (v ++ w) := by
  intro c inside
  rcases List.mem_append.mp inside with inside | inside
  · exact left c inside
  · exact right c inside

/-- A run of other characters that white space follows has ended. -/
theorem Space.ends {p : Char → Bool} {w : List Char} (space : Space w) (other : p ' ' = false ∧
    p '\t' = false ∧ p '\r' = false ∧ p '\n' = false) (ends : Ends p rest) :
    Ends p (w ++ rest) := by
  cases w with
  | nil => exact ends
  | cons c w =>
    apply ends_cons
    rcases space c List.mem_cons_self with rfl | rfl | rfl | rfl
    · exact other.1
    · exact other.2.1
    · exact other.2.2.1
    · exact other.2.2.2

theorem skipSpace_append {w : List Char} (space : Space w) (rest : List Char) :
    skipSpace (w ++ rest) = skipSpace rest :=
  List.dropWhile_append_of_pos fun c inside => isSpace_iff.mpr (space c inside)

theorem skipSpace_of_ends (ends : Ends isSpace rest) : skipSpace rest = rest :=
  dropWhile_append (w := []) nofun ends

@[simp] theorem skipSpace_skipSpace (text : List Char) :
    skipSpace (skipSpace text) = skipSpace text :=
  List.dropWhile_idempotent isSpace text

theorem exists_space_append (text : List Char) : ∃ w, Space w ∧ text = w ++ skipSpace text := by
  refine ⟨text.takeWhile isSpace, fun c inside => ?_, List.takeWhile_append_dropWhile.symm⟩
  exact isSpace_iff.mp (List.mem_takeWhile_imp inside)

theorem spaced_ok {α : Type} {token : List Char → Parsed α} {x : α}
    (read : spaced token text = .ok (x, rest)) :
    ∃ a before behind d, Space a ∧ Space d ∧ text = a ++ before ∧ behind = d ++ rest ∧
      skipSpace rest = rest ∧ token before = .ok (x, behind) := by
  obtain ⟨⟨y, behind⟩, found, equal⟩ := ok_of_map read
  cases equal
  obtain ⟨a, spaceA, splitText⟩ := exists_space_append text
  obtain ⟨d, spaceD, splitBehind⟩ := exists_space_append behind
  exact ⟨a, skipSpace text, behind, d, spaceA, spaceD, splitText, splitBehind,
    skipSpace_skipSpace behind, found⟩

theorem spaced_append {α : Type} {token : List Char → Parsed α} {x : α} {a d before : List Char}
    (spaceA : Space a) (spaceD : Space d) (ends : Ends isSpace before)
    (found : token before = .ok (x, d ++ rest)) :
    spaced token (a ++ before) = .ok (x, skipSpace rest) := by
  unfold spaced
  rw [skipSpace_append spaceA, skipSpace_of_ends ends, found]
  simp only [Except.map, skipSpace_append spaceD]

/-- White space that has been skipped does not come back. -/
theorem eq_of_skipped {a : List Char} {c : Char} (skipped : skipSpace text = text)
    (space : Space a) (other : isSpace c = false) (split : text = a ++ c :: rest) :
    text = c :: rest := by
  rw [← skipped, split, skipSpace_append space, skipSpace_of_ends (ends_cons other)]

/-! ## Punctuation -/

theorem character_ok {c : Char} (read : character c text = .ok ((), rest)) : text = c :: rest := by
  cases text with
  | nil => cases read
  | cons d text =>
    simp only [character] at read
    split at read
    · next same =>
      cases read
      rw [same]
    · cases read

theorem character_cons (c : Char) (rest : List Char) : character c (c :: rest) = .ok ((), rest) :=
  if_pos rfl

/-! ## Names -/

theorem isNameStart_iff {c : Char} : isNameStart c = true ↔ isAsciiLetter c ∨ c = '_' := by
  simp [isNameStart]

theorem isNameChar_iff {c : Char} :
    isNameChar c = true ↔ isAsciiAlphanumeric c ∨ c = '_' ∨ c = '.' := by
  simp [isNameChar, or_assoc]

theorem name_append {w : List Char} (bare : BareName w) (ends : Ends isNameChar rest) :
    name (w ++ rest) = .ok (w, rest) := by
  cases bare with
  | @mk c w start others =>
    have inside : ∀ d ∈ w, isNameChar d = true := fun d member =>
      isNameChar_iff.mpr (others d member)
    unfold name
    simp only [List.cons_append]
    rw [if_pos (isNameStart_iff.mpr start), takeWhile_append inside ends,
      dropWhile_append inside ends]

theorem name_ok {w : List Char} (read : name text = .ok (w, rest)) :
    BareName w ∧ text = w ++ rest := by
  cases text with
  | nil => cases read
  | cons c text =>
    simp only [name] at read
    split at read
    · next start =>
      cases read
      refine ⟨.mk (isNameStart_iff.mp start) fun d inside => ?_, ?_⟩
      · exact isNameChar_iff.mp (List.mem_takeWhile_imp inside)
      · rw [List.cons_append, List.takeWhile_append_dropWhile]
    · cases read

/-- A name does not start with a character that is not part of names. -/
theorem BareName.ends {p : Char → Bool} {w : List Char} (bare : BareName w)
    (other : ∀ c, isNameStart c = true → p c = false) : Ends p (w ++ rest) := by
  cases bare with
  | mk start others => exact ends_cons (other _ (isNameStart_iff.mpr start))

theorem isSpace_of_isNameStart {c : Char} (start : isNameStart c = true) : isSpace c = false := by
  by_contra space
  rw [Bool.not_eq_false, isSpace_iff] at space
  rcases space with rfl | rfl | rfl | rfl <;> exact absurd start (by decide)

/-! ## Kinds -/

theorem kindName_append {c : Char} {w : List Char} (start : isAsciiLetter c = true)
    (inside : ∀ d ∈ w, isKindChar d = true) (ends : Ends isKindChar rest) :
    kindName (c :: w ++ rest) = .ok (c :: w, rest) := by
  simp only [List.cons_append, kindName]
  rw [if_pos start, takeWhile_append inside ends, dropWhile_append inside ends]

theorem kind_append (k : ChartKind) (ends : Ends isKindChar rest) :
    kind (k.name.toList ++ rest) = .ok (k, rest) := by
  have start : k.name.toList.head?.any isAsciiLetter = true := by
    cases k <;> decide
  have inside : k.name.toList.all isKindChar = true := by
    cases k <;> decide
  have token : kindName (k.name.toList ++ rest) = .ok (k.name.toList, rest) := by
    cases split : k.name.toList with
    | nil => simp [split] at start
    | cons c w =>
      rw [split] at start inside
      have others := fun d member => List.all_eq_true.mp inside d (List.mem_cons_of_mem c member)
      exact kindName_append start others ends
  unfold kind
  rw [token]
  simp only [bind, Except.bind, String.ofList_toList, ChartKind.ofName?_name]

/-- No kind's name starts with white space. -/
theorem ends_name (k : ChartKind) : Ends isSpace (k.name.toList ++ rest) := by
  have start : k.name.toList.head?.any isNameStart = true := by
    cases k <;> decide
  cases split : k.name.toList with
  | nil => simp [split] at start
  | cons c w =>
    rw [split] at start
    exact ends_cons (isSpace_of_isNameStart start)

theorem kindName_ok {w : List Char} (read : kindName text = .ok (w, rest)) : text = w ++ rest := by
  cases text with
  | nil => cases read
  | cons c text =>
    simp only [kindName] at read
    split at read
    · cases read
      rw [List.cons_append, List.takeWhile_append_dropWhile]
    · cases read

theorem kind_ok {k : ChartKind} (read : kind text = .ok (k, rest)) :
    text = k.name.toList ++ rest := by
  unfold kind at read
  obtain ⟨⟨w, behind⟩, token, read⟩ := ok_of_bind read
  simp only at read
  split at read
  · next found =>
    cases read
    rw [ChartKind.name_of_ofName? found, String.toList_ofList]
    exact kindName_ok token
  · cases read

/-! ## Quoted texts -/

theorem quotedRest_append {w t : List Char} (quoted : Quoted w t) (done rest : List Char) :
    quotedRest done (w ++ '"' :: rest) = .ok (done.reverse ++ t, rest) := by
  induction quoted generalizing done with
  | nil => simp [quotedRest]
  | @plain c w t notQuote notBackslash _ ih =>
    rw [List.cons_append, quotedRest.eq_5 done c _ (fun h => notQuote h)
      (fun h => absurd h notBackslash) (fun _ _ h => absurd h notBackslash), ih]
    simp
  | @escaped c w t special _ ih =>
    rw [List.cons_append, List.cons_append, quotedRest, if_pos (Or.symm special), ih]
    simp

theorem quotedRest_ok {done u : List Char} (read : quotedRest done text = .ok (u, rest)) :
    ∃ w t, Quoted w t ∧ text = w ++ '"' :: rest ∧ u = done.reverse ++ t := by
  fun_induction quotedRest done text with
  | case1 => cases read
  | case2 done rest =>
    cases read
    exact ⟨[], [], .nil, rfl, (List.append_nil _).symm⟩
  | case3 => cases read
  | case4 done c behind special ih =>
    obtain ⟨w, t, quoted, rfl, rfl⟩ := ih read
    exact ⟨'\\' :: c :: w, c :: t, .escaped (Or.symm special) quoted, rfl, by simp⟩
  | case5 => cases read
  | case6 done c behind notQuote notLast notEscape ih =>
    obtain ⟨w, t, quoted, rfl, rfl⟩ := ih read
    have notBackslash : c ≠ '\\' := by
      intro backslash
      cases w with
      | nil => exact notEscape '"' rest backslash rfl
      | cons d w => exact notEscape d _ backslash rfl
    exact ⟨c :: w, c :: t, .plain notQuote notBackslash quoted, rfl, by simp⟩

end ChartCompiler.Shorthand

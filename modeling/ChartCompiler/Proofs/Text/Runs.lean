import Mathlib
import ChartCompiler.Text.Blank

/-!
Runs of characters of one class. A run is cut off a text exactly when the text behind it does
not go on with the class (`takeWhile_append`, `dropWhile_append`). So a text without blanks at its
ends is trimmed to itself (`trimChars_eq_self`).
-/

namespace ChartCompiler.Text

variable {rest : List Char}

/-- The text does not go on with a character of the class. -/
def Ends (p : Char → Bool) (rest : List Char) : Prop :=
  ∀ c ∈ rest.head?, p c = false

theorem ends_nil {p : Char → Bool} : Ends p [] :=
  nofun

theorem ends_cons {p : Char → Bool} {c : Char} (other : p c = false) : Ends p (c :: rest) := by
  rintro d ⟨⟩
  exact other

theorem takeWhile_append {p : Char → Bool} {w : List Char} (all : ∀ c ∈ w, p c = true)
    (ends : Ends p rest) : (w ++ rest).takeWhile p = w := by
  rw [List.takeWhile_append_of_pos all]
  cases rest with
  | nil => simp
  | cons c rest => simp [ends c rfl]

theorem dropWhile_append {p : Char → Bool} {w : List Char} (all : ∀ c ∈ w, p c = true)
    (ends : Ends p rest) : (w ++ rest).dropWhile p = rest := by
  rw [List.dropWhile_append_of_pos all]
  cases rest with
  | nil => rfl
  | cons c rest => simp [ends c rfl]

/-- A run and what stands behind it can be told from the text of both. -/
theorem append_inj {p : Char → Bool} {w w' rest' : List Char} (all : ∀ c ∈ w, p c = true)
    (all' : ∀ c ∈ w', p c = true) (ends : Ends p rest) (ends' : Ends p rest')
    (same : w ++ rest = w' ++ rest') : w = w' ∧ rest = rest' := by
  have front := congrArg (List.takeWhile p) same
  rw [takeWhile_append all ends, takeWhile_append all' ends'] at front
  exact ⟨front, List.append_cancel_left (front ▸ same)⟩

theorem trimChars_eq_self {cs : List Char} (begins : Ends isBlank cs)
    (ends : Ends isBlank cs.reverse) : trimChars cs = cs := by
  have front : cs.dropWhile isBlank = cs := dropWhile_append (w := []) nofun begins
  have back : cs.reverse.dropWhile isBlank = cs.reverse := dropWhile_append (w := []) nofun ends
  rw [trimChars, front, back, List.reverse_reverse]

end ChartCompiler.Text

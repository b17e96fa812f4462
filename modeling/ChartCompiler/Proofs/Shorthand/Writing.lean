import Mathlib
import ChartCompiler.Proofs.Shorthand.Call

/-!
Writing settings as shorthand. Fields are always quoted, so that every text may be one;
flags and scales are bare names. What is written is a call of the grammar
(`callText_write`), and it is therefore read as the kind and the settings it was
written from.
-/

namespace ChartCompiler.Shorthand

/-- How a character is written between quotes. -/
def quotedChar (c : Char) : List Char :=
  if c = '"' ∨ c = '\\' then ['\\', c] else [c]

/-- A text between quotes. -/
def writeText (s : String) : String :=
  "\"" ++ String.ofList (s.toList.flatMap quotedChar) ++ "\""

/-- The value of a setting. -/
def writeValue : Setting → String
  | .field _ name => writeText name
  | .hideLegend b | .showTitle b => truthName b
  | .scaleX scale | .scaleY scale => scale.name

/-- A setting as an argument. -/
def writeSetting (s : Setting) : String :=
  memberKey s.member ++ ": " ++ writeValue s

/-- A kind with settings as a call. -/
def write (kind : ChartKind) (settings : List Setting) : String :=
  kind.name ++ "(" ++ ", ".intercalate (settings.map writeSetting) ++ ")"

theorem exists_toList_write (kind : ChartKind) (settings : List Setting) :
    ∃ rest, (write kind settings).toList = kind.name.toList ++ rest := by
  refine ⟨'(' :: (", ".intercalate (settings.map writeSetting) ++ ")").toList, ?_⟩
  simp [write]

/-! ## What is written is a call -/

theorem quoted_flatMap_quotedChar (t : List Char) : Quoted (t.flatMap quotedChar) t := by
  induction t with
  | nil => exact .nil
  | cons c t ih =>
    rw [List.flatMap_cons, quotedChar]
    split
    · next special => exact .escaped special ih
    · next plain =>
      rw [not_or] at plain
      exact .plain plain.1 plain.2 ih

theorem textValue_writeText (s : String) : TextValue s (writeText s).toList := by
  have written := TextValue.quoted (quoted_flatMap_quotedChar s.toList)
  rw [String.ofList_toList] at written
  simpa [writeText] using written

theorem textValue_scale (scale : ScaleType) : TextValue scale.name scale.name.toList := by
  have bare : BareName scale.name.toList := by
    cases scale <;> exact bareName_of_all (by decide) (by decide)
  have notTruth : ∀ b, scale.name ≠ truthName b := by
    cases scale <;> decide
  have written := TextValue.bare bare (by rw [String.ofList_toList]; exact notTruth)
  rw [String.ofList_toList] at written
  exact written

theorem valueText_writeValue (s : Setting) : ValueText s (writeValue s).toList := by
  cases s with
  | field channel name => exact textValue_writeText name
  | hideLegend b => rfl
  | showTitle b => rfl
  | scaleX scale => exact textValue_scale scale
  | scaleY scale => exact textValue_scale scale

theorem argumentText_writeSetting (s : Setting) : ArgumentText s (writeSetting s).toList := by
  have blank : Space [' '] := by simp [Space]
  have written := ArgumentText.mk .nil .nil blank (valueText_writeValue s) .nil
  simpa [writeSetting] using written

/-- The blank behind a comma belongs to the argument that follows. -/
theorem furtherText_flatMap (settings : List Setting) :
    FurtherText settings (settings.flatMap fun s => ',' :: ' ' :: (writeSetting s).toList) := by
  induction settings with
  | nil => exact .nil
  | cons s settings ih =>
    have blank : Space [' '] := by simp [Space]
    exact .cons (blank.append_argument (argumentText_writeSetting s)) ih

theorem toList_intercalate_cons (s : Setting) (settings : List Setting) :
    (", ".intercalate ((s :: settings).map writeSetting)).toList =
      (writeSetting s).toList ++
        settings.flatMap fun s => ',' :: ' ' :: (writeSetting s).toList := by
  induction settings generalizing s with
  | nil => simp
  | cons next settings ih =>
    have others := ih next
    rw [String.toList_intercalate] at others ⊢
    simp only [List.map_cons] at others ⊢
    rw [List.intercalate_cons_cons, others]
    simp

theorem callText_write (kind : ChartKind) (settings : List Setting) :
    CallText kind settings (write kind settings).toList := by
  have arguments : ArgumentsText settings
      (", ".intercalate (settings.map writeSetting)).toList := by
    cases settings with
    | nil => exact .none .nil
    | cons s settings =>
      rw [toList_intercalate_cons]
      exact .some (argumentText_writeSetting s) (furtherText_flatMap settings)
  have written := @CallText.mk kind settings _ _ _ _ .nil .nil arguments .nil
  simpa [write] using written

/-- What is written is read as what it was written from. -/
theorem parse_write (kind : ChartKind) (settings : List Setting) :
    parse (write kind settings) = .ok ((ChartConfig.ofKind kind).setAll settings) :=
  parse_of_callText (callText_write kind settings)

end ChartCompiler.Shorthand

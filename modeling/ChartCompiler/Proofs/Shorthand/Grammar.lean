import Mathlib
import ChartCompiler.Proofs.Config.Setting
import ChartCompiler.Shorthand.Config

/-!
The grammar of the shorthand, as relations between texts and what they stand for.
A call is the name of a kind with settings in parentheses between commas, and white
space may stand around every token:

    call     := kind "(" [argument ("," argument)*] ")"
    argument := key ":" value

Which values a key takes depends on what it sets. A channel takes a text, which is
written as a bare name or between double quotes; a flag takes a bare truth value, and
a scale the name of a scale type, bare or quoted.
-/

namespace ChartCompiler.Shorthand

/-- White space. -/
def Space (w : List Char) : Prop :=
  ∀ c ∈ w, c = ' ' ∨ c = '\t' ∨ c = '\r' ∨ c = '\n'

/-- A bare name: a letter or an underscore, then letters, digits, underscores and
points. -/
inductive BareName : List Char → Prop
  | mk {c : Char} {w : List Char} :
    isAsciiLetter c ∨ c = '_' →
    (∀ d ∈ w, isAsciiAlphanumeric d ∨ d = '_' ∨ d = '.') → BareName (c :: w)

/-- What stands between two quotes, and the characters it denotes: quotes and
backslashes stand behind a backslash, every other character for itself. -/
inductive Quoted : List Char → List Char → Prop
  | nil : Quoted [] []
  | plain {c : Char} {w t : List Char} :
    c ≠ '"' → c ≠ '\\' → Quoted w t → Quoted (c :: w) (c :: t)
  | escaped {c : Char} {w t : List Char} :
    c = '"' ∨ c = '\\' → Quoted w t → Quoted ('\\' :: c :: w) (c :: t)

/-- The name of a truth value. -/
def truthName (b : Bool) : String :=
  if b then "true" else "false"

/-- A text as a value. The names of the truth values have to be quoted. -/
inductive TextValue : String → List Char → Prop
  | bare {w : List Char} : BareName w → (∀ b, String.ofList w ≠ truthName b) →
    TextValue (String.ofList w) w
  | quoted {w t : List Char} : Quoted w t → TextValue (String.ofList t) ('"' :: (w ++ ['"']))

/-- The key under which a member is set. -/
def memberKey : ConfigMember → String
  | .channel channel => channelKey channel
  | .hideLegend => "hide_legend"
  | .showTitle => "show_title"
  | .scaleX => "scale_x"
  | .scaleY => "scale_y"

/-- The value of a setting. -/
def ValueText (s : Setting) (w : List Char) : Prop :=
  match s with
  | .field _ name => TextValue name w
  | .hideLegend b | .showTitle b => w = (truthName b).toList
  | .scaleX scale | .scaleY scale => TextValue scale.name w

/-- A setting as an argument. -/
inductive ArgumentText : Setting → List Char → Prop
  | mk {s : Setting} {a b c v d : List Char} :
    Space a → Space b → Space c → ValueText s v → Space d →
    ArgumentText s (a ++ ((memberKey s.member).toList ++ (b ++ ':' :: (c ++ (v ++ d)))))

/-- Arguments, each behind a comma. -/
inductive FurtherText : List Setting → List Char → Prop
  | nil : FurtherText [] []
  | cons {s : Setting} {settings : List Setting} {w v : List Char} :
    ArgumentText s w → FurtherText settings v → FurtherText (s :: settings) (',' :: (w ++ v))

/-- Arguments with commas between them, or none. -/
inductive ArgumentsText : List Setting → List Char → Prop
  | none {w : List Char} : Space w → ArgumentsText [] w
  | some {s : Setting} {settings : List Setting} {w v : List Char} :
    ArgumentText s w → FurtherText settings v → ArgumentsText (s :: settings) (w ++ v)

/-- A kind with settings as a call, which is the whole text. -/
inductive CallText : ChartKind → List Setting → List Char → Prop
  | mk {kind : ChartKind} {settings : List Setting} {a b w d : List Char} :
    Space a → Space b → ArgumentsText settings w → Space d →
    CallText kind settings (a ++ (kind.name.toList ++ (b ++ '(' :: (w ++ ')' :: d))))

end ChartCompiler.Shorthand

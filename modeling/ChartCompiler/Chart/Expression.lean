import ChartCompiler.Text.Ascii

/-!
Names and texts inside generated expressions. A text stands between single
quotes, with a backslash before quotes and backslashes; a field is reached by a
point when its name is a plain identifier, and by a quoted text otherwise.
-/

namespace ChartCompiler.Expression

/-- How a character is written inside single quotes. -/
def escapedChar (c : Char) : List Char :=
  if c = '\\' ∨ c = '\'' then ['\\', c] else [c]

/-- A text between single quotes. -/
def textChars (s : List Char) : List Char :=
  '\'' :: (s.flatMap escapedChar ++ ['\''])

/-- A text between single quotes. -/
def text (s : String) : String :=
  String.ofList (textChars s.toList)

/-- A character of an identifier. -/
def isIdentifierChar (c : Char) : Bool :=
  isAsciiAlphanumeric c || c == '_'

/-- The name is an identifier: ASCII letters, digits and underscores, and not a
digit in front. -/
def isIdentifier : List Char → Bool
  | [] => false
  | c :: rest => !isDecimalDigit c && (c :: rest).all isIdentifierChar

/-- The value of a field of the current row. -/
def datumChars (field : List Char) : List Char :=
  if isIdentifier field then "datum.".toList ++ field
  else "datum[".toList ++ textChars field ++ [']']

/-- The value of a field of the current row. -/
def datum (field : String) : String :=
  String.ofList (datumChars field.toList)

end ChartCompiler.Expression

import ChartCompiler.Text.Printable

/-!
Texts in messages. A quoted text stands between double quotes; quotes,
backslashes and the usual controls are escaped by a backslash, and a character
that would not show is written by its code point, as in `\u{200b}`.
-/

namespace ChartCompiler.Text

/-- How a character is written inside a quoted text. -/
def quotedChar (c : Char) : List Char :=
  if c = '\x00' then ['\\', '0']
  else if c = '\t' then ['\\', 't']
  else if c = '\r' then ['\\', 'r']
  else if c = '\n' then ['\\', 'n']
  else if c = '"' then ['\\', '"']
  else if c = '\\' then ['\\', '\\']
  else if isPrintable c then [c]
  else '\\' :: 'u' :: '\x7b' :: (Nat.toDigits 16 c.toNat ++ ['\x7d'])

/-- A text between double quotes, as messages show it. -/
def quoted (s : String) : String :=
  String.ofList ('"' :: (s.toList.flatMap quotedChar ++ ['"']))

end ChartCompiler.Text

import ChartCompiler.Text.Ascii

/-!
Tokens of the shorthand: names, kind names and quoted texts. A token function
either answers the token and the text after it, or where it failed and what it
was looking for there.
-/

namespace ChartCompiler.Shorthand

/-- What a token function was looking for. -/
inductive Wanted where
  /-- one particular character -/
  | character
  /-- one of the characters that may follow a backslash, or the underscore that
  a name may start with -/
  | word
  /-- a letter -/
  | letter
  /-- the end of the text -/
  | ending
  /-- the name of a kind of chart -/
  | kind
  /-- the rest of an escape -/
  | escape
deriving DecidableEq, Repr

/-- A failure: what was looked for, and the text from there on. -/
structure Failure where
  wanted : Wanted
  rest : List Char
deriving DecidableEq

/-- The answer of a token function. -/
abbrev Parsed (α : Type) := Except Failure (α × List Char)

/-- White space between tokens: space, tab, carriage return and line feed. -/
def isSpace (c : Char) : Bool :=
  c == ' ' || c == '\t' || c == '\r' || c == '\n'

/-- The text after its leading white space. -/
def skipSpace (text : List Char) : List Char :=
  text.dropWhile isSpace

/-- A token with white space around it. -/
def spaced {α : Type} (token : List Char → Parsed α) (text : List Char) : Parsed α :=
  (token (skipSpace text)).map fun (a, rest) => (a, skipSpace rest)

/-- A particular character. -/
def character (c : Char) (text : List Char) : Parsed Unit :=
  match text with
  | d :: rest => if d = c then .ok ((), rest) else .error ⟨.character, text⟩
  | [] => .error ⟨.character, []⟩

/-- A character that may start a name. -/
def isNameStart (c : Char) : Bool :=
  isAsciiLetter c || c == '_'

/-- A character that may continue a name. -/
def isNameChar (c : Char) : Bool :=
  isAsciiAlphanumeric c || c == '_' || c == '.'

/-- A name: letters, digits, underscores and points, starting with a letter or
an underscore. -/
def name (text : List Char) : Parsed (List Char) :=
  match text with
  | c :: rest =>
    if isNameStart c then .ok (c :: rest.takeWhile isNameChar, rest.dropWhile isNameChar)
    else .error ⟨.word, text⟩
  | [] => .error ⟨.word, []⟩

/-- A character that may continue a kind name. -/
def isKindChar (c : Char) : Bool :=
  isAsciiAlphanumeric c || c == '-' || c == '_'

/-- A kind name: it starts with a letter and may contain dashes. -/
def kindName (text : List Char) : Parsed (List Char) :=
  match text with
  | c :: rest =>
    if isAsciiLetter c then .ok (c :: rest.takeWhile isKindChar, rest.dropWhile isKindChar)
    else .error ⟨.letter, text⟩
  | [] => .error ⟨.letter, []⟩

/-- The rest of a quoted text after its opening quote. `done` holds the
characters before, last first. -/
def quotedRest (done : List Char) : List Char → Parsed (List Char)
  | [] => .error ⟨.character, []⟩
  | '"' :: rest => .ok (done.reverse, rest)
  | '\\' :: [] => .error ⟨.escape, ['\\']⟩
  | '\\' :: c :: rest =>
    if c = '\\' ∨ c = '"' then quotedRest (c :: done) rest else .error ⟨.word, c :: rest⟩
  | c :: rest => quotedRest (c :: done) rest

/-- A text between double quotes; a backslash stands before quotes and
backslashes and nothing else. -/
def quotedText (text : List Char) : Parsed (List Char) :=
  match text with
  | '"' :: rest => quotedRest [] rest
  | _ => .error ⟨.character, text⟩

end ChartCompiler.Shorthand

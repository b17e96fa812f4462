import ChartCompiler.Json.Basic
import ChartCompiler.Number.Scaled

/-!
Reading JSON text. `Json.read?` accepts one value with blanks around it: a
repeated member keeps its first place and its last value, a number without
point and exponent that fits sixty-four bits is an integer and every other one
a double (`ChartCompiler.Number.Scaled`), and at most 127 arrays and objects
stand inside one another.

A reader that looks for a few members only (`ChartCompiler.Json.Record`) needs
two more modes: `raw` keeps repeated members apart, and `skipped` checks the
grammar alone, as is done with members nobody asks for.
-/

namespace ChartCompiler.Json

/-- How much of a text the reader looks at. -/
inductive ReadMode where
  /-- values in full, repeated members merged -/
  | document
  /-- values in full, repeated members kept apart -/
  | raw
  /-- the grammar only: no bound on numbers or depth, surrogates unchecked -/
  | skipped
deriving DecidableEq

/-- Blanks between tokens: space, tab, line feed and carriage return. -/
def isTokenBlank (c : Char) : Bool :=
  c == ' ' || c == '\t' || c == '\n' || c == '\r'

/-- The text after its leading blanks. -/
def skipBlanks (cs : List Char) : List Char :=
  cs.dropWhile isTokenBlank

/-! ## Strings -/

/-- The value of a hexadecimal digit of either case. -/
def hexValue? (c : Char) : Option Nat :=
  if '0' ≤ c ∧ c ≤ '9' then some (c.toNat - 48)
  else if 'a' ≤ c ∧ c ≤ 'f' then some (c.toNat - 87)
  else if 'A' ≤ c ∧ c ≤ 'F' then some (c.toNat - 55)
  else none

/-- The unit written by four hexadecimal digits. -/
def hexUnit? (a b c d : Char) : Option Nat := do
  let a ← hexValue? a
  let b ← hexValue? b
  let c ← hexValue? c
  let d ← hexValue? d
  return a * 4096 + b * 256 + c * 16 + d

/-- The character of a one-letter escape. -/
def escapeLetter? (c : Char) : Option Char :=
  if c = '"' ∨ c = '\\' ∨ c = '/' then some c
  else if c = 'b' then some '\x08'
  else if c = 'f' then some '\x0c'
  else if c = 'n' then some '\n'
  else if c = 'r' then some '\r'
  else if c = 't' then some '\t'
  else none

/-- The unit starts a surrogate pair. -/
def isLeadUnit (unit : Nat) : Bool :=
  0xD800 ≤ unit && unit < 0xDC00

/-- The unit ends a surrogate pair. -/
def isTrailUnit (unit : Nat) : Bool :=
  0xDC00 ≤ unit && unit < 0xE000

/-- The rest of a string after its opening quote: its characters (gathered in
`done`, last first) and the text after the closing quote. A leading surrogate
has to be followed by a trailing one. -/
def readString (mode : ReadMode) (done : List Char) : List Char → Option (String × List Char)
  | [] => none
  | '"' :: rest => some (String.ofList done.reverse, rest)
  | '\\' :: 'u' :: a :: b :: c :: d :: rest =>
    match hexUnit? a b c d with
    | none => none
    | some unit =>
      if mode = .skipped then readString mode ('?' :: done) rest
      else if isTrailUnit unit then none
      else if isLeadUnit unit then
        match rest with
        | '\\' :: 'u' :: e :: f :: g :: h :: rest' =>
          match hexUnit? e f g h with
          | none => none
          | some trail =>
            if isTrailUnit trail then
              readString mode
                (Char.ofNat (0x10000 + (unit - 0xD800) * 0x400 + (trail - 0xDC00)) :: done) rest'
            else none
        | _ => none
      else readString mode (Char.ofNat unit :: done) rest
  | '\\' :: letter :: rest =>
    match escapeLetter? letter with
    | none => none
    | some c => readString mode (c :: done) rest
  | c :: rest =>
    if c = '\\' ∨ c.toNat < 32 then none else readString mode (c :: done) rest

/-! ## Numbers -/

/-- The digits after a point, if there is one: at least one has to follow. -/
def readFraction : List Char → Option (List Char × List Char)
  | '.' :: rest =>
    let (digits, rest) := takeDigits rest
    if digits.isEmpty then none else some (digits, rest)
  | rest => some ([], rest)

/-- The exponent, if there is one: at least one digit has to follow. -/
def readPower (text : List Char) : Option (Option Int × List Char) :=
  match text with
  | mark :: rest =>
    if mark = 'e' ∨ mark = 'E' then
      let (negative, rest) := match rest with
        | '+' :: r => (false, r)
        | '-' :: r => (true, r)
        | r => (false, r)
      let (digits, rest) := takeDigits rest
      if digits.isEmpty then none
      else some (some (if negative then -(digitsValue digits : Int) else digitsValue digits), rest)
    else some (none, text)
  | [] => some (none, [])

/-- The number that digits, fraction and exponent denote. An integer has to fit
sixty-four bits, signed or unsigned; negative zero is a double. A double has to
be finite. -/
def numberOf? (negative : Bool) (whole fraction : List Char) (power : Option Int) :
    Option Number :=
  let n := digitsValue whole
  let integral := fraction.isEmpty && power.isNone && n < bound64
  if integral && !negative then some (.integer n)
  else if integral && 0 < n && n ≤ bound63 then some (.integer (-n))
  else
    let x := (Decimal.ofDigits whole fraction (power.getD 0)).toFloat
    (Double.ofFloat? (if negative then -x else x)).map .double

/-- A number: no leading zeros, no bare point. -/
def readNumber (mode : ReadMode) (text : List Char) : Option (Json × List Char) := do
  let (negative, text) := match text with
    | '-' :: r => (true, r)
    | r => (false, r)
  let (whole, rest) := takeDigits text
  if whole.isEmpty || (whole.head? == some '0' && whole.length != 1) then none
  let (fraction, rest) ← readFraction rest
  let (power, rest) ← readPower rest
  if mode = .skipped then return (.null, rest)
  let n ← numberOf? negative whole fraction power
  return (.number n, rest)

/-! ## Values -/

/-- The text after a given word. -/
def afterWord? (word : List Char) (text : List Char) : Option (List Char) :=
  if word.isPrefixOf text then some (text.drop word.length) else none

/-- The object with the given members, as the mode keeps them. -/
def objectOf (mode : ReadMode) (members : List (String × Json)) : Json :=
  .object (if mode = .document then Entries.ofPairs members else members)

mutual

/-- A value at the start of the text. `depth` is the number of levels that may
still be opened, and `fuel` bounds the steps; the length of the text gives
enough of it. -/
def readValue (mode : ReadMode) : (fuel depth : Nat) → List Char → Option (Json × List Char)
  | 0, _, _ => none
  | fuel + 1, depth, text =>
    match skipBlanks text with
    | [] => none
    | '"' :: rest => (readString mode [] rest).map fun (s, rest) => (.string s, rest)
    | '[' :: rest =>
      if depth = 0 ∧ mode ≠ .skipped then none
      else
        match skipBlanks rest with
        | ']' :: rest => some (.array [], rest)
        | rest =>
          (readItems mode fuel (depth - 1) rest).map fun (items, rest) => (.array items, rest)
    | '\x7b' :: rest =>
      if depth = 0 ∧ mode ≠ .skipped then none
      else
        match skipBlanks rest with
        | '\x7d' :: rest => some (.object [], rest)
        | rest =>
          (readMembers mode fuel (depth - 1) rest).map fun (members, rest) =>
            (objectOf mode members, rest)
    | 't' :: rest => (afterWord? ['r', 'u', 'e'] rest).map fun rest => (.bool true, rest)
    | 'f' :: rest => (afterWord? ['a', 'l', 's', 'e'] rest).map fun rest => (.bool false, rest)
    | 'n' :: rest => (afterWord? ['u', 'l', 'l'] rest).map fun rest => (.null, rest)
    | text => readNumber mode text

/-- The items of an array up to and including the closing bracket. -/
def readItems (mode : ReadMode) : (fuel depth : Nat) → List Char →
    Option (List Json × List Char)
  | 0, _, _ => none
  | fuel + 1, depth, text => do
    let (item, rest) ← readValue mode fuel depth text
    match skipBlanks rest with
    | ',' :: rest =>
      let (items, rest) ← readItems mode fuel depth rest
      return (item :: items, rest)
    | ']' :: rest => return ([item], rest)
    | _ => none

/-- The members of an object up to and including the closing brace. -/
def readMembers (mode : ReadMode) : (fuel depth : Nat) → List Char →
    Option (List (String × Json) × List Char)
  | 0, _, _ => none
  | fuel + 1, depth, text =>
    match skipBlanks text with
    | '"' :: rest => do
      let (key, rest) ← readString mode [] rest
      match skipBlanks rest with
      | ':' :: rest =>
        let (value, rest) ← readValue mode fuel depth rest
        match skipBlanks rest with
        | ',' :: rest =>
          let (members, rest) ← readMembers mode fuel depth rest
          return ((key, value) :: members, rest)
        | '\x7d' :: rest => return ([(key, value)], rest)
        | _ => none
      | _ => none
    | _ => none

end

/-- Enough steps for any value in the text. -/
def readFuel (text : List Char) : Nat :=
  2 * text.length + 2

/-- Levels of arrays and objects that may be open at once. -/
def maxDepth : Nat := 127

/-- The one value a text holds, with blanks around it. -/
def readWith? (mode : ReadMode) (text : List Char) : Option Json := do
  let (value, rest) ← readValue mode (readFuel text) maxDepth text
  if (skipBlanks rest).isEmpty then some value else none

/-- The JSON value a text denotes. -/
def read? (text : String) : Option Json :=
  readWith? .document text.toList

end ChartCompiler.Json

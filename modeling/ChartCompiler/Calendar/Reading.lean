import ChartCompiler.Calendar.Date
import ChartCompiler.Number.Reading
import ChartCompiler.Text.Blank

/-!
Reading dates from text. Four forms are tried in turn: a timestamp with an
offset in fixed widths, a date and time joined by `T`, the same with a space,
and a date alone. In the last three, numbers may be shorter than their width,
may have blanks in front of them, and a signed year may be longer than four
digits. The time has to exist but only the date is kept.
-/

namespace ChartCompiler.Calendar

/-! ## Pieces -/

/-- At most `width` digits from the front, and the rest. -/
def takeUpTo : (width : Nat) → List Char → List Char × List Char
  | 0, cs => ([], cs)
  | _ + 1, [] => ([], [])
  | width + 1, c :: rest =>
    if isDecimalDigit c then
      let (digits, rest) := takeUpTo width rest
      (c :: digits, rest)
    else ([], c :: rest)

/-- A number of exactly `width` digits. -/
def fixedNumber (width : Nat) (cs : List Char) : Option (Nat × List Char) :=
  let (digits, rest) := takeUpTo width cs
  if digits.length = width then some (digitsValue digits, rest) else none

/-- A number of one to `width` digits with blanks in front. -/
def looseNumber (width : Nat) (cs : List Char) : Option (Nat × List Char) :=
  let (digits, rest) := takeUpTo width (cs.dropWhile Text.isBlank)
  if digits.isEmpty then none else some (digitsValue digits, rest)

/-- A year with blanks in front: up to four digits, or a sign and any number of
digits. -/
def looseYear (cs : List Char) : Option (Int × List Char) :=
  let signed (negative : Bool) (cs : List Char) : Option (Int × List Char) :=
    let (digits, rest) := takeDigits cs
    if digits.isEmpty then none
    else
      let n : Int := digitsValue digits
      some (if negative then -n else n, rest)
  match cs.dropWhile Text.isBlank with
  | '-' :: rest => signed true rest
  | '+' :: rest => signed false rest
  | cs => (looseNumber 4 cs).map fun (n, rest) => ((n : Int), rest)

/-- The text after a given character. -/
def after (c : Char) : List Char → Option (List Char)
  | d :: rest => if d = c then some rest else none
  | [] => none

/-- The text after an optional fraction of a second; a point needs digits. -/
def skipFraction : List Char → Option (List Char)
  | '.' :: rest =>
    let (digits, rest) := takeDigits rest
    if digits.isEmpty then none else some rest
  | cs => some cs

/-- The time of day exists; a minute may have a sixty-first second. -/
def isTime (hour minute second : Nat) : Bool :=
  hour ≤ 23 && minute ≤ 59 && second ≤ 60

/-! ## The four forms -/

/-- The offset of a timestamp, which has to end the text: `Z`, or a sign and
hours and minutes of less than a day. -/
def isOffset : List Char → Bool
  | ['Z'] | ['z'] => true
  | sign :: cs =>
    (sign == '+' || sign == '-' || sign == '\u2212') &&
      match fixedNumber 2 cs with
      | some (hours, ':' :: rest) =>
        match fixedNumber 2 rest with
        | some (minutes, []) => hours ≤ 23 && minutes ≤ 59
        | _ => false
      | _ => false
  | [] => false

/-- A timestamp with an offset; the date is the one written. -/
def readTimestamp? (cs : List Char) : Option Date := do
  let (year, cs) ← fixedNumber 4 cs
  let cs ← after '-' cs
  let (month, cs) ← fixedNumber 2 cs
  let cs ← after '-' cs
  let (day, cs) ← fixedNumber 2 cs
  let cs ← match cs with
    | c :: rest => if c = 'T' ∨ c = 't' ∨ c = ' ' then some rest else none
    | [] => none
  let (hour, cs) ← fixedNumber 2 cs
  let cs ← after ':' cs
  let (minute, cs) ← fixedNumber 2 cs
  let cs ← after ':' cs
  let (second, cs) ← fixedNumber 2 cs
  let cs ← skipFraction cs
  if isTime hour minute second && isOffset cs then Date.of? year month day else none

/-- The year, month and day at the front of a text. -/
def looseDate (cs : List Char) : Option ((Int × Nat × Nat) × List Char) := do
  let (year, cs) ← looseYear cs
  let cs ← after '-' cs
  let (month, cs) ← looseNumber 2 cs
  let cs ← after '-' cs
  let (day, cs) ← looseNumber 2 cs
  return ((year, month, day), cs)

/-- The text is a time of day, with nothing after it. -/
def isLooseTime (cs : List Char) : Bool :=
  let parts := do
    let (hour, cs) ← looseNumber 2 cs
    let cs ← after ':' cs
    let (minute, cs) ← looseNumber 2 cs
    let cs ← after ':' cs
    let (second, cs) ← looseNumber 2 cs
    let cs ← skipFraction cs
    return isTime hour minute second && cs.isEmpty
  parts.getD false

/-- A date and a time of day with `T` between them. -/
def readJoined? (cs : List Char) : Option Date := do
  let ((year, month, day), cs) ← looseDate cs
  let cs ← after 'T' cs
  if isLooseTime cs then Date.of? year month day else none

/-- A date and a time of day with any blanks, or none, between them. -/
def readSpaced? (cs : List Char) : Option Date := do
  let ((year, month, day), cs) ← looseDate cs
  if isLooseTime (cs.dropWhile Text.isBlank) then Date.of? year month day else none

/-- A date alone. -/
def readPlain? (cs : List Char) : Option Date := do
  let ((year, month, day), cs) ← looseDate cs
  if cs.isEmpty then Date.of? year month day else none

/-- The date a text denotes in one of the four forms, blanks around it aside. -/
def readDate? (text : List Char) : Option Date :=
  let cs := Text.trimChars text
  (readTimestamp? cs).or <| (readJoined? cs).or <| (readSpaced? cs).or (readPlain? cs)

end ChartCompiler.Calendar

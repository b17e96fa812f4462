import ChartCompiler.Number.Double
import ChartCompiler.Number.Word
import ChartCompiler.Text.Ascii

/-!
Reading numbers from text. `readDouble` accepts an optional sign and then
digits with an optional point and an optional exponent, or the words `inf`,
`infinity` and `nan` in any case; `readInteger?` accepts a signed sixty-four
bit integer. Neither skips blanks or accepts separators.
-/

namespace ChartCompiler

/-- The number written by a run of decimal digits. -/
def digitsValue (digits : List Char) : Nat :=
  digits.foldl (fun n c => 10 * n + (c.toNat - '0'.toNat)) 0

/-- The run of digits that a text starts with, and the rest. -/
def takeDigits (text : List Char) : List Char × List Char :=
  (text.takeWhile isDecimalDigit, text.dropWhile isDecimalDigit)

/-- The float nearest to `digits * 10 ^ exponent`, infinite when it is too
large. Exponents far outside the range of binary64 are answered without
computing the power. -/
def floatOfDecimal (digits : Nat) (exponent : Int) : Float :=
  let size : Int := (Nat.toDigits 10 digits).length + exponent
  if digits = 0 then 0.0
  else if 400 < size then 1.0 / 0.0
  else if size < -400 then 0.0
  else Float.ofScientific digits (decide (exponent < 0)) exponent.natAbs

/-- The optional exponent of a number text: `e` or `E`, an optional sign and at
least one digit, up to the end. -/
def readExponent? : List Char → Option Int
  | [] => some 0
  | mark :: rest =>
    if mark = 'e' ∨ mark = 'E' then
      let (negative, digits) := match rest with
        | '-' :: r => (true, r)
        | '+' :: r => (false, r)
        | r => (false, r)
      if digits.isEmpty ∨ ¬ digits.all isDecimalDigit then none
      else some (if negative then -(digitsValue digits : Int) else digitsValue digits)
    else none

/-- An unsigned number text: digits around an optional point, with at least one
digit in all, then an optional exponent. -/
def readUnsigned? (text : List Char) : Option Float :=
  let (whole, afterWhole) := takeDigits text
  let (fraction, rest) := match afterWhole with
    | '.' :: r => takeDigits r
    | r => ([], r)
  if whole.isEmpty ∧ fraction.isEmpty then none
  else (readExponent? rest).map fun e =>
    floatOfDecimal (digitsValue (whole ++ fraction)) (e - fraction.length)

/-- A float as a text of digits, or as one of the words for the values that are
not finite. -/
def readFloat? (text : List Char) : Option Float :=
  let (negative, body) := match text with
    | '-' :: r => (true, r)
    | '+' :: r => (false, r)
    | r => (false, r)
  let word := String.ofList (body.map asciiLower)
  let magnitude? :=
    if word = "inf" ∨ word = "infinity" then some (1.0 / 0.0)
    else if word = "nan" then some (0.0 / 0.0)
    else readUnsigned? body
  magnitude?.map fun x => if negative then -x else x

/-- The finite double a text denotes. -/
def readDouble? (text : List Char) : Option Double :=
  (readFloat? text).bind Double.ofFloat?

/-- A signed integer of sixty-four bits: an optional sign and digits. -/
def readInteger? (text : List Char) : Option Int :=
  let (negative, digits) := match text with
    | '-' :: r => (true, r)
    | '+' :: r => (false, r)
    | r => (false, r)
  if digits.isEmpty ∨ ¬ digits.all isDecimalDigit then none
  else
    let n : Int := if negative then -(digitsValue digits : Int) else digitsValue digits
    if -(bound63 : Int) ≤ n ∧ n < bound63 then some n else none

end ChartCompiler

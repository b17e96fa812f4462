import ChartCompiler.Number.Shortest

/-!
Number text. A double is written with its shortest digits; how they are laid
out is a `NumberStyle`. `NumberStyle.json` is the style of numbers in JSON
text, `NumberStyle.display` that of numbers inside generated expressions and
file names.
-/

namespace ChartCompiler

/-- The decisions that turn digits into text. With `k` the position of the
decimal point (the value is `0.d₁d₂…dₙ · 10 ^ k`), the number is written
positionally when `lowest ≤ k ≤ highest`, or always when no window is given. -/
structure NumberStyle where
  /-- the window of point positions that are written without an exponent -/
  window : Option (Int × Int)
  /-- whole numbers end in `.0` -/
  wholePoint : Bool
  tie : Tie

/-- The decimal digits of a natural number, most significant first. -/
def decimalDigits (n : Nat) : List Char :=
  Nat.toDigits 10 n

/-- An integer in decimal. -/
def decimalInteger : Int → List Char
  | .ofNat n => decimalDigits n
  | .negSucc n => '-' :: decimalDigits (n + 1)

namespace NumberStyle

/-- JSON numbers: positional from `0.00001` up to sixteen digits before the
point, always recognisable as a double, a tie going to the even digit. -/
def json : NumberStyle where
  window := some (-4, 16)
  wholePoint := true
  tie := .even

/-- Numbers inside texts: never an exponent, whole numbers without a point, a
tie going up. -/
def display : NumberStyle where
  window := none
  wholePoint := false
  tie := .up

/-- Digits laid out around a decimal point at position `k`. -/
def positional (style : NumberStyle) (digits : List Char) (k : Int) : List Char :=
  if k ≤ 0 then '0' :: '.' :: (List.replicate (-k).toNat '0' ++ digits)
  else if k.toNat < digits.length then
    digits.take k.toNat ++ '.' :: digits.drop k.toNat
  else
    digits ++ List.replicate (k.toNat - digits.length) '0' ++
      (if style.wholePoint then ['.', '0'] else [])

/-- Digits laid out with one digit before the point and a signed exponent. -/
def scientific (digits : List Char) (k : Int) : List Char :=
  let mantissa := match digits with
    | [] => []
    | [d] => [d]
    | d :: rest => d :: '.' :: rest
  let exponent := k - 1
  mantissa ++ 'e' :: (if 0 ≤ exponent then '+' :: decimalDigits exponent.toNat
    else '-' :: decimalDigits (-exponent).toNat)

/-- The text of a decimal in the style. -/
def layout (style : NumberStyle) (d : Decimal) : List Char :=
  let digits := decimalDigits d.digits
  let k : Int := digits.length + d.exponent
  match style.window with
  | none => style.positional digits k
  | some (lowest, highest) =>
    if lowest ≤ k ∧ k ≤ highest then style.positional digits k else scientific digits k

/-- The text of a double in the style. Zero keeps its sign. -/
def write (style : NumberStyle) (x : Double) : List Char :=
  let sign := if x.negative then ['-'] else []
  let m := x.magnitude
  if m.significand = 0 then
    sign ++ '0' :: (if style.wholePoint then ['.', '0'] else [])
  else sign ++ style.layout (m.shortest style.tie)

end NumberStyle

/-- The text of a number inside an expression or a file name. -/
def Double.display (x : Double) : String :=
  String.ofList (NumberStyle.display.write x)

end ChartCompiler

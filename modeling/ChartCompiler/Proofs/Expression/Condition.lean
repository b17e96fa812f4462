import Mathlib
import ChartCompiler.Json.Reader
import ChartCompiler.Proofs.Expression.Accessor
import ChartCompiler.Proofs.Number.Text

/-!
Conditions on a row, in the notation of generated expressions: comparisons of fields with
constants by `===`, membership as `indexof([…], x) >= 0`, `&&`, which binds tighter than `||`,
and parentheses. A text is cut into tokens, the tokens are read as a condition by recursive
descent, and the condition is evaluated on a row. Field accessors and texts between single
quotes are read by `ChartCompiler.Expression.readText?`, texts between double quotes as JSON
strings. What a numeral denotes is up to the engine that evaluates the expression, and is a
parameter of the evaluation.
-/

namespace ChartCompiler.Expression

/-! ## Tokens -/

/-- The punctuation of conditions. -/
inductive Mark where
  | leftParen | rightParen | leftBracket | rightBracket | comma | point
  /-- `===` -/
  | same
  /-- `>=` -/
  | atLeast
  /-- `&&` -/
  | both
  /-- `||` -/
  | either
deriving DecidableEq

/-- A token of a condition. -/
inductive Token where
  | name (s : String)
  | text (s : String)
  | numeral (cs : List Char)
  | mark (m : Mark)
deriving DecidableEq

/-- The punctuation at the start of a text. -/
def readMark? : List Char → Option (Mark × List Char)
  | '(' :: rest => some (.leftParen, rest)
  | ')' :: rest => some (.rightParen, rest)
  | '[' :: rest => some (.leftBracket, rest)
  | ']' :: rest => some (.rightBracket, rest)
  | ',' :: rest => some (.comma, rest)
  | '.' :: rest => some (.point, rest)
  | '=' :: '=' :: '=' :: rest => some (.same, rest)
  | '>' :: '=' :: rest => some (.atLeast, rest)
  | '&' :: '&' :: rest => some (.both, rest)
  | '|' :: '|' :: rest => some (.either, rest)
  | _ => none

/-- The token at the start of a text: what follows from its first character. -/
def readToken? : List Char → Option (Token × List Char)
  | [] => none
  | c :: rest =>
    if c = '\'' then (readText? (c :: rest)).map fun (s, rest) => (.text s, rest)
    else if c = '"' then
      (Json.readString .document [] rest).map fun (s, rest) => (.text s, rest)
    else if startsNumeral c then
      some (.numeral ((c :: rest).takeWhile isNumeralChar), (c :: rest).dropWhile isNumeralChar)
    else if isNameChar c then (readName? (c :: rest)).map fun (s, rest) => (.name s, rest)
    else (readMark? (c :: rest)).map fun (m, rest) => (.mark m, rest)

/-- The tokens of a text, blanks between them aside. -/
def tokens? (cs : List Char) : Option (List Token) :=
  if Json.skipBlanks cs = [] then some []
  else
    match readToken? (Json.skipBlanks cs) with
    | none => none
    | some (t, rest) =>
      if rest.length < (Json.skipBlanks cs).length then (tokens? rest).map (t :: ·) else none
termination_by cs.length
decreasing_by
  have shorter : (Json.skipBlanks cs).length ≤ cs.length := (List.dropWhile_sublist _).length_le
  omega

/-! ## Conditions -/

/-- A constant in a condition. A number is the numeral that was written. -/
inductive Constant where
  | null
  | bool (b : Bool)
  | number (numeral : List Char)
  | text (s : String)
deriving DecidableEq

/-- One side of a comparison. -/
inductive Operand where
  | constant (c : Constant)
  | field (name : String)
deriving DecidableEq

/-- A condition on a row. -/
inductive Condition where
  | truth (b : Bool)
  | same (a b : Operand)
  /-- `indexof(items, x) >= 0` -/
  | found (items : List Constant) (x : Operand)
  | both (a b : Condition)
  | either (a b : Condition)
deriving DecidableEq

/-- The constant of a token. -/
def constant? : Token → Option Constant
  | .name "null" => some .null
  | .name "true" => some (.bool true)
  | .name "false" => some (.bool false)
  | .numeral cs => some (.number cs)
  | .text s => some (.text s)
  | _ => none

/-- An operand at the start of the tokens. -/
def operand? : List Token → Option (Operand × List Token)
  | .name "datum" :: .mark .point :: .name field :: rest => some (.field field, rest)
  | .name "datum" :: .mark .leftBracket :: .text field :: .mark .rightBracket :: rest =>
    some (.field field, rest)
  | t :: rest => (constant? t).map fun c => (.constant c, rest)
  | [] => none

/-- The constants of an array after the first, and what follows the closing bracket. -/
def furtherConstants? : List Token → Option (List Constant × List Token)
  | .mark .rightBracket :: rest => some ([], rest)
  | .mark .comma :: t :: rest => do
    let c ← constant? t
    let (cs, rest) ← furtherConstants? rest
    return (c :: cs, rest)
  | _ => none

/-- The constants of an array behind its opening bracket, and what follows it. -/
def constants? : List Token → Option (List Constant × List Token)
  | .mark .rightBracket :: rest => some ([], rest)
  | t :: rest => do
    let c ← constant? t
    let (cs, rest) ← furtherConstants? rest
    return (c :: cs, rest)
  | [] => none

/-- A comparison, a membership or a truth value at the start of the tokens. -/
def comparison? : List Token → Option (Condition × List Token)
  | .name "indexof" :: .mark .leftParen :: .mark .leftBracket :: rest => do
    let (items, rest) ← constants? rest
    match rest with
    | .mark .comma :: rest =>
      let (x, rest) ← operand? rest
      match rest with
      | .mark .rightParen :: .mark .atLeast :: .numeral ['0'] :: rest =>
        return (.found items x, rest)
      | _ => none
    | _ => none
  | ts => do
    let (a, rest) ← operand? ts
    match rest with
    | .mark .same :: rest =>
      let (b, rest) ← operand? rest
      return (.same a b, rest)
    | rest =>
      match a with
      | .constant (.bool b) => return (.truth b, rest)
      | _ => none

mutual

/-- Conditions with `||` between them. `fuel` bounds the depth of the descent. -/
def disjunction? : (fuel : Nat) → List Token → Option (Condition × List Token)
  | 0, _ => none
  | fuel + 1, ts => do
    let (a, rest) ← conjunction? fuel ts
    match rest with
    | .mark .either :: rest =>
      let (b, rest) ← disjunction? fuel rest
      return (.either a b, rest)
    | rest => return (a, rest)

/-- Conditions with `&&` between them. -/
def conjunction? : (fuel : Nat) → List Token → Option (Condition × List Token)
  | 0, _ => none
  | fuel + 1, ts => do
    let (a, rest) ← primary? fuel ts
    match rest with
    | .mark .both :: rest =>
      let (b, rest) ← conjunction? fuel rest
      return (.both a b, rest)
    | rest => return (a, rest)

/-- A comparison, or a condition in parentheses. -/
def primary? : (fuel : Nat) → List Token → Option (Condition × List Token)
  | 0, _ => none
  | fuel + 1, .mark .leftParen :: ts => do
    let (a, rest) ← disjunction? fuel ts
    match rest with
    | .mark .rightParen :: rest => return (a, rest)
    | _ => none
  | _ + 1, ts => comparison? ts

end

/-- The condition that a text spells, as a whole. Every token takes at most three steps down. -/
def condition? (cs : List Char) : Option Condition := do
  let ts ← tokens? cs
  match ← disjunction? (3 * ts.length) ts with
  | (c, []) => return c
  | _ => none

/-! ## Values -/

/-- What an operand evaluates to. Arrays and objects are the same as nothing else, so they are
not told apart. -/
inductive Value where
  | undefined
  | null
  | bool (b : Bool)
  | number (x : Float)
  | text (s : String)
  | compound

/-- Strict equality. -/
def Value.same : Value → Value → Bool
  | .undefined, .undefined => true
  | .null, .null => true
  | .bool a, .bool b => a == b
  | .number x, .number y => x == y
  | .text s, .text t => s == t
  | _, _ => false

/-- The value of a constant, given what numerals denote. -/
def Constant.value (numeral : List Char → Float) : Constant → Value
  | .null => .null
  | .bool b => .bool b
  | .number cs => .number (numeral cs)
  | .text s => .text s

/-- The value of a data value. -/
def Value.ofJson : Json → Value
  | .null => .null
  | .bool b => .bool b
  | .number n => .number n.toFloat
  | .string s => .text s
  | .array _ | .object _ => .compound

/-- The value of an operand on a row; a field that the row does not have is undefined. -/
def Operand.value (numeral : List Char → Float) (row : Row) : Operand → Value
  | .constant c => c.value numeral
  | .field name => ((Entries.get? row name).map Value.ofJson).getD .undefined

/-- The place of the first item that is strictly equal to a value, and -1 without one. -/
def indexOf (items : List Value) (x : Value) : Int :=
  match items.findIdx? x.same with
  | some i => i
  | none => -1

/-- The condition holds on the row. -/
def Condition.holds (numeral : List Char → Float) (row : Row) : Condition → Bool
  | .truth b => b
  | .same a b => (a.value numeral row).same (b.value numeral row)
  | .found items x => 0 ≤ indexOf (items.map (Constant.value numeral)) (x.value numeral row)
  | .both a b => a.holds numeral row && b.holds numeral row
  | .either a b => a.holds numeral row || b.holds numeral row

/-- The value of a condition in text form on a row. -/
def evaluate? (numeral : List Char → Float) (row : Row) (expression : String) : Option Bool :=
  (condition? expression.toList).map (Condition.holds numeral row)

end ChartCompiler.Expression

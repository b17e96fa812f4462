import ChartCompiler.Entries
import ChartCompiler.Number.Double

/-!
JSON values. An object is the list of its members in order, an integer is kept
apart from a double, and a double is always finite. Equality of values is
equality of ordered trees and is decidable.
-/

namespace ChartCompiler

/-- A JSON number: an integer, or a double. `2` and `2.0` are different. -/
inductive Json.Number where
  | integer (value : Int)
  | double (value : Double)
deriving DecidableEq

/-- A JSON value with ordered object members. -/
inductive Json where
  | null
  | bool (value : Bool)
  | number (value : Json.Number)
  | string (value : String)
  | array (items : List Json)
  | object (members : List (String × Json))

/-- A row of a table: its members by field name. -/
abbrev Row := List (String × Json)

namespace Json

instance : Inhabited Json := ⟨.null⟩

/-! ## Deciding equality -/

mutual

/-- Equality of values is decided along the first tree. -/
def decideEq : (a b : Json) → Decidable (a = b)
  | .null, b => match b with
    | .null => isTrue rfl
    | .bool _ | .number _ | .string _ | .array _ | .object _ => isFalse (by simp)
  | .bool x, b => match b with
    | .bool y => if h : x = y then isTrue (h ▸ rfl) else isFalse (by simp [h])
    | .null | .number _ | .string _ | .array _ | .object _ => isFalse (by simp)
  | .number x, b => match b with
    | .number y => if h : x = y then isTrue (h ▸ rfl) else isFalse (by simp [h])
    | .null | .bool _ | .string _ | .array _ | .object _ => isFalse (by simp)
  | .string x, b => match b with
    | .string y => if h : x = y then isTrue (h ▸ rfl) else isFalse (by simp [h])
    | .null | .bool _ | .number _ | .array _ | .object _ => isFalse (by simp)
  | .array xs, b => match b with
    | .array ys => match decideEqItems xs ys with
      | isTrue h => isTrue (h ▸ rfl)
      | isFalse h => isFalse (by simp [h])
    | .null | .bool _ | .number _ | .string _ | .object _ => isFalse (by simp)
  | .object xs, b => match b with
    | .object ys => match decideEqMembers xs ys with
      | isTrue h => isTrue (h ▸ rfl)
      | isFalse h => isFalse (by simp [h])
    | .null | .bool _ | .number _ | .string _ | .array _ => isFalse (by simp)

/-- Equality of item lists. -/
def decideEqItems : (xs ys : List Json) → Decidable (xs = ys)
  | [], [] => isTrue rfl
  | [], _ :: _ => isFalse (by simp)
  | _ :: _, [] => isFalse (by simp)
  | x :: xs, y :: ys => match decideEq x y, decideEqItems xs ys with
    | isTrue h, isTrue h' => isTrue (h ▸ h' ▸ rfl)
    | isFalse h, _ => isFalse (by simp [h])
    | _, isFalse h => isFalse (by simp [h])

/-- Equality of member lists. -/
def decideEqMembers : (xs ys : List (String × Json)) → Decidable (xs = ys)
  | [], [] => isTrue rfl
  | [], _ :: _ => isFalse (by simp)
  | _ :: _, [] => isFalse (by simp)
  | (k, x) :: xs, (l, y) :: ys =>
    if hk : k = l then
      match decideEq x y, decideEqMembers xs ys with
      | isTrue h, isTrue h' => isTrue (hk ▸ h ▸ h' ▸ rfl)
      | isFalse h, _ => isFalse (by simp [h])
      | _, isFalse h => isFalse (by simp [h])
    else isFalse (by simp [hk])

end

instance : DecidableEq Json := decideEq

/-! ## Building values -/

instance : Coe Bool Json := ⟨.bool⟩

instance : Coe String Json := ⟨.string⟩

/-- An integer. -/
def int (n : Int) : Json :=
  .number (.integer n)

instance (n : Nat) : OfNat Json n := ⟨.int n⟩

/-- A machine float; one that is not finite has no JSON number and is `null`. -/
def ofFloat (x : Float) : Json :=
  match Double.ofFloat? x with
  | some d => .number (.double d)
  | none => .null

instance : OfScientific Json :=
  ⟨fun mantissa negative exponent => ofFloat (OfScientific.ofScientific mantissa negative exponent)⟩

/-- An array of texts. -/
def strings (items : List String) : Json :=
  .array (items.map .string)

/-! ## Looking inside -/

/-- The text of a string. -/
def asString? : Json → Option String
  | .string s => some s
  | _ => none

/-- The items of an array. -/
def asArray? : Json → Option (List Json)
  | .array items => some items
  | _ => none

/-- The members of an object. -/
def asObject? : Json → Option (List (String × Json))
  | .object members => some members
  | _ => none

/-- The member of an object under a key. -/
def member? (value : Json) (key : String) : Option Json :=
  value.asObject?.bind (Entries.get? · key)

/-- The value is `null`. -/
def isNull : Json → Bool
  | .null => true
  | _ => false

/-- A number as a float: an integer is rounded to the nearest double. -/
def Number.toFloat : Number → Float
  | .integer n =>
    let x := Float.ofScientific n.natAbs false 0
    if n < 0 then -x else x
  | .double x => x.toFloat

end Json

end ChartCompiler

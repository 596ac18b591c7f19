import TwoVenues.Double.Integral

/-!
# JSON values

The values that a JSON text denotes and that records are written to. Integers are kept apart from
other numbers, because a count or a time must be written without a point or an exponent. The fields
of an object are listed in the order in which they stand in the text, repetitions included.

`unreadable` stands for a part of a text that is well formed and yet denotes no value: a number
beyond the doubles, a string with half of a surrogate pair, an object with such a key. It may be
passed over, but it cannot be read as anything.
-/

namespace TwoVenues

/-- A JSON value. -/
inductive Json where
  | null
  | bool (b : Bool)
  | int (n : Int)
  | float (x : Float)
  | string (s : String)
  | array (items : List Json)
  | object (fields : List (String × Json))
  | unreadable

namespace Json

/-- A double as a JSON value: `null` unless it is finite. -/
def ofFloat (x : Float) : Json := if x.isFinite then .float x else .null

def ofNat (n : Nat) : Json := .int n

def ofOption {α : Type} (encode : α → Json) : Option α → Json
  | some x => encode x
  | none => .null

def ofList {α : Type} (encode : α → Json) (xs : List α) : Json := .array (xs.map encode)

/-- A number; integers are numbers too. -/
def toFloat? : Json → Option Float
  | .int n => some (Float.ofInt n)
  | .float x => some x
  | _ => none

/-- An integer within the signed 64-bit range. -/
def toInt64? : Json → Option Int
  | .int n => if Double.int64Min ≤ n ∧ n ≤ Double.int64Max then some n else none
  | _ => none

/-- A count within the unsigned 64-bit range. -/
def toCount? : Json → Option Nat
  | .int n => if 0 ≤ n ∧ n < UInt64.size then some n.toNat else none
  | _ => none

def toBool? : Json → Option Bool
  | .bool b => some b
  | _ => none

def toText? : Json → Option String
  | .string s => some s
  | _ => none

/-- A list whose items are all readable. -/
def toList? {α : Type} (decode : Json → Option α) : Json → Option (List α)
  | .array items => items.mapM decode
  | _ => none

/-- A value, or `null` for a missing one. -/
def toOption? {α : Type} (decode : Json → Option α) : Json → Option (Option α)
  | .null => some none
  | j => (decode j).map some

/-- A pair, written as an array of exactly two items. -/
def toPair? {α β : Type} (first : Json → Option α) (second : Json → Option β) :
    Json → Option (α × β)
  | .array [x, y] => do return (← first x, ← second y)
  | _ => none

end Json

end TwoVenues

import TwoVenues.Double.Order
import TwoVenues.Json.Basic
import TwoVenues.Text.Numeral

/-!
# JSON numbers

A JSON number has no sign but a minus, no needless leading zero and a digit on both sides of its
point (`ofWord?`). Written without point and exponent it is an integer if it fits 64 bits, `-0`
excepted. All others are doubles: the significand keeps as many leading digits as fit 64 bits and is
scaled once by a power of ten, which is exact for up to fifteen digits and exponents up to 22.
-/

namespace TwoVenues.Json.Number

open TwoVenues.Text (Numeral digitValue)

/-- Whether a numeral is a JSON number without its sign. -/
def wellFormed (n : Numeral) : Bool :=
  (match n.whole with
    | [] => false
    | ['0'] => true
    | d :: _ => d != '0') &&
  n.fraction != some []

/-- The significand after as many digits as keep it within 64 bits, and the digits left over. -/
def gather (significand : Nat) : List Char → Nat × List Char
  | [] => (significand, [])
  | d :: ds =>
    let next := 10 * significand + digitValue d
    if next < UInt64.size then gather next ds else (significand, d :: ds)

def powerOfTen (k : Nat) : Float := Float.ofScientific 1 false k

/-- `x · 10 ^ e` for a significand `x`, if that is finite. A scale below the least power of ten
that a double can hold is applied in two steps, which are enough to reach zero. -/
def scale? (x : Float) : Int → Option Float
  | .ofNat k =>
    if k ≤ 308 then
      let y := x * powerOfTen k
      if y.isFinite then some y else none
    else if x == 0.0 then some x else none
  | .negSucc k =>
    let k := k + 1
    if k ≤ 308 then some (x / powerOfTen k)
    else some (x / powerOfTen 308 / powerOfTen (min (k - 308) 308))

/-- The value of a well-formed numeral with a sign. -/
def value (negative : Bool) (n : Numeral) : Json :=
  let (whole, beyond) := gather 0 n.whole
  if n.fraction.isNone && n.exponent.isNone && beyond.isEmpty then
    if !negative then .int whole
    else if 0 < whole ∧ Double.int64Min ≤ -(whole : Int) then .int (-(whole : Int))
    else .float (-Float.ofNat whole)
  else
    let (significand, dropped) := gather whole n.fractionDigits
    let shift : Int := beyond.length - (n.fractionDigits.length - dropped.length : Nat)
    match scale? (Float.ofNat significand) (n.exponentValue + shift) with
    | some x => .float (if negative then -x else x)
    | none => .unreadable

/-- The value of a word that is a JSON number. -/
def ofWord? (word : List Char) : Option Json := do
  let (negative, body) := match word with
    | '-' :: rest => (true, rest)
    | _ => (false, word)
  let n ← Numeral.scan? body
  if wellFormed n then some (value negative n) else none

end TwoVenues.Json.Number

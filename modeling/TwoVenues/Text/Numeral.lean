import TwoVenues.Text.Digits

/-!
# Numerals

The shape shared by all written numbers: a run of digits, an optional point with a further run, and
an optional exponent. `Numeral.scan?` takes a text apart and fails unless all of it is used; each
format then says which numerals it accepts.
-/

namespace TwoVenues.Text

/-- A written number without its sign. -/
structure Numeral where
  whole : List Char
  fraction : Option (List Char)
  /-- Whether the exponent is negative, and its digits, if there is an exponent. -/
  exponent : Option (Bool × List Char)

/-- An optional sign, and what follows it. -/
def splitSign : List Char → Bool × List Char
  | '-' :: rest => (true, rest)
  | '+' :: rest => (false, rest)
  | rest => (false, rest)

namespace Numeral

/-- The end of a numeral: nothing, or a mark, an optional sign and at least one digit. -/
def scanExponent? : List Char → Option (Option (Bool × List Char))
  | [] => some none
  | mark :: rest =>
    if mark = 'e' ∨ mark = 'E' then
      let (negative, digits) := splitSign rest
      if !digits.isEmpty && digits.all Char.isDigit then some (some (negative, digits)) else none
    else none

/-- The parts of an unsigned numeral. -/
def scan? (cs : List Char) : Option Numeral :=
  let whole := cs.takeWhile Char.isDigit
  match cs.dropWhile Char.isDigit with
  | '.' :: rest =>
    (scanExponent? (rest.dropWhile Char.isDigit)).map
      (⟨whole, some (rest.takeWhile Char.isDigit), ·⟩)
  | rest => (scanExponent? rest).map (⟨whole, none, ·⟩)

def fractionDigits (n : Numeral) : List Char := n.fraction.getD []

def exponentValue (n : Numeral) : Int :=
  match n.exponent with
  | none => 0
  | some (negative, digits) =>
    let e : Int := digitsValue digits
    if negative then -e else e

end Numeral

end TwoVenues.Text

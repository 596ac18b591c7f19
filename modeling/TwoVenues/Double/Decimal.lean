import TwoVenues.Double.Signed
import TwoVenues.Text.Numeral

/-!
# Decimal text

The double nearest to a written decimal number. `ofText?` accepts an optional sign and then a
numeral with a digit on at least one side of the point, or one of the words `inf`, `infinity` and
`nan` in any case; blanks, separators and other bases are no decimal text. A minus sign counts
before `nan` too.
-/

namespace TwoVenues.Double

/-- The double nearest to `m · 10 ^ e`. Beyond the range of doubles it is infinite, and far below
the least one it is zero; between them the quotient is rounded once. -/
def ofDecimal (m : Nat) (e : Int) : Float :=
  let magnitude : Int := (Text.decimal m).length + e
  if m = 0 then 0.0
  else if 309 < magnitude then infinity
  else if magnitude < -330 then 0.0
  else Float.ofScientific m (decide (e < 0)) e.natAbs

/-- The value of the words for the values that are not finite, whatever their case. -/
def word? (cs : List Char) : Option Float :=
  let word := String.ofList (cs.map Char.toLower)
  if word = "inf" ∨ word = "infinity" then some infinity
  else if word = "nan" then some nan
  else none

/-- The value of a numeral that has a digit somewhere around its point. -/
def ofNumeral? (n : Text.Numeral) : Option Float :=
  let digits := n.whole ++ n.fractionDigits
  if digits.isEmpty then none
  else some (ofDecimal (Text.digitsValue digits) (n.exponentValue - n.fractionDigits.length))

/-- The double nearest to a decimal text. -/
def ofText? (text : String) : Option Signed :=
  let (negative, body) := Text.splitSign text.toList
  let magnitude := (word? body).or ((Text.Numeral.scan? body).bind ofNumeral?)
  magnitude.map fun x => if negative then (Signed.ofFloat x).neg else .ofFloat x

end TwoVenues.Double

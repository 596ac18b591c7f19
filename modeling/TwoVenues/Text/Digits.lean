/-!
# Decimal digits

The value of a run of digits, and numbers written in decimal, with leading zeros up to a width.
Only the ten ASCII digits count as digits (`Char.isDigit`).
-/

namespace TwoVenues.Text

def digitValue (c : Char) : Nat := c.toNat - '0'.toNat

/-- The value of a run of digits, most significant first. -/
def digitsValue (digits : List Char) : Nat :=
  digits.foldl (fun n c => 10 * n + digitValue c) 0

/-- A number in decimal, without leading zeros. -/
def decimal (n : Nat) : List Char := Nat.toDigits 10 n

/-- A number in decimal with leading zeros up to `width` digits. -/
def padded (width n : Nat) : List Char := (decimal n).leftpad width '0'

end TwoVenues.Text

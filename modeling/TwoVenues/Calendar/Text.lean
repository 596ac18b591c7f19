import TwoVenues.Calendar.Date
import TwoVenues.Text.Blank
import TwoVenues.Text.Digits
import TwoVenues.Text.Numeral

/-!
# Dates as text

The parts of written dates: a year is four digits, with a sign and at least four digits outside 0
to 9999; months have three-letter codes. `Date.toIsoText` joins year, month and day by hyphens,
and `Date.ofIsoText?` reads such a text back with blanks allowed around its parts.
-/

namespace TwoVenues

/-- The three-letter code of a month. -/
def monthCode : Nat → List Char
  | 1 => ['J', 'A', 'N']
  | 2 => ['F', 'E', 'B']
  | 3 => ['M', 'A', 'R']
  | 4 => ['A', 'P', 'R']
  | 5 => ['M', 'A', 'Y']
  | 6 => ['J', 'U', 'N']
  | 7 => ['J', 'U', 'L']
  | 8 => ['A', 'U', 'G']
  | 9 => ['S', 'E', 'P']
  | 10 => ['O', 'C', 'T']
  | 11 => ['N', 'O', 'V']
  | 12 => ['D', 'E', 'C']
  | _ => []

def monthOfCode? (code : List Char) : Option Nat :=
  [1, 2, 3, 4, 5, 6, 7, 8, 9, 10, 11, 12].find? fun month => monthCode month == code

/-- A year: four digits, or a sign and at least four digits outside 0 to 9999. -/
def yearText (year : Int) : List Char :=
  if 0 ≤ year ∧ year ≤ 9999 then Text.padded 4 year.toNat
  else (if year < 0 then '-' else '+') :: Text.padded 4 year.natAbs

/-- The digits at the front of a text, at most `width` of them and at least one, and the rest. -/
def leadingNumber? (width : Nat) (cs : List Char) : Option (Nat × List Char) :=
  let digits := (cs.take width).takeWhile Char.isDigit
  if digits.isEmpty then none else some (Text.digitsValue digits, cs.drop digits.length)

/-- A year at the front of a text: up to four digits, or a sign and any number of them. -/
def leadingYear? : List Char → Option (Int × List Char)
  | '-' :: cs => (leadingNumber? cs.length cs).map fun (n, rest) => (-(n : Int), rest)
  | '+' :: cs => (leadingNumber? cs.length cs).map fun (n, rest) => ((n : Int), rest)
  | cs => (leadingNumber? 4 cs).map fun (n, rest) => ((n : Int), rest)

/-- What follows a hyphen with blanks before and after it. -/
def skipHyphen? (cs : List Char) : Option (List Char) :=
  match Text.skipBlanks cs with
  | '-' :: rest => some (Text.skipBlanks rest)
  | _ => none

namespace Date

/-- Year, month and day, joined by hyphens. -/
def toIsoText (d : Date) : String :=
  String.ofList (yearText d.year ++ '-' :: Text.padded 2 d.month ++ '-' :: Text.padded 2 d.day)

def ofIsoText? (text : String) : Option Date := do
  let (year, rest) ← leadingYear? (Text.skipBlanks text.toList)
  let (month, rest) ← leadingNumber? 2 (← skipHyphen? rest)
  let (day, rest) ← leadingNumber? 2 (← skipHyphen? rest)
  if (Text.skipBlanks rest).isEmpty then ofParts? year month day else none

end Date

end TwoVenues

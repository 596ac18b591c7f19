import TwoVenues.Calendar.Text
import TwoVenues.Contract.Basic
import TwoVenues.Fault
import TwoVenues.Text.Fields

/-!
# Names of contracts

A name has four parts between hyphens: the symbol in capital letters, the expiry date in one of two
forms, the strike in digits and the letter of the right. `Contract.render` writes a name and
`Contract.read?` reads one in either naming; a name in neither naming, with an unknown month or with
an impossible date is no contract.

* `Contract.key` : what quotes from both venues are joined on, the ISO-date name of a contract or,
  for any other name, the name itself;
* `Contract.rename` : the name of the same contract at a given venue.
-/

namespace TwoVenues.Contract

/-- Whether a text is a symbol: capital letters, at least one. -/
def isSymbol (cs : List Char) : Bool := !cs.isEmpty && cs.all Char.isUpper

/-- Whether a text is a number: digits, at least one. -/
def isNumber (cs : List Char) : Bool := !cs.isEmpty && cs.all Char.isDigit

/-- The expiry date as a naming writes it: year, month and day in digits, or the day without a
leading zero, the code of the month and the last two digits of the year. -/
def dateText (d : Date) : Naming → List Char
  | .isoDate => yearText d.year ++ Text.padded 2 d.month ++ Text.padded 2 d.day
  | .dayMonthYear =>
    Text.decimal d.day ++ monthCode d.month ++ Text.padded 2 (d.year % 100).toNat

def render (c : Contract) (naming : Naming) : String :=
  String.ofList (Text.joinFields '-' c.underlying.toList
    [dateText c.expiry naming, c.strike.toList, c.right.code.toList])

/-- The date written as eight digits. -/
def isoDate? (cs : List Char) : Option Date :=
  if cs.length = 8 ∧ cs.all Char.isDigit then
    Date.ofParts? (Text.digitsValue (cs.take 4)) (Text.digitsValue ((cs.drop 4).take 2))
      (Text.digitsValue (cs.drop 6))
  else none

/-- The date written as one or two digits, the code of a month and two digits; the year lies in the
twenty-first century, counted from 2000. -/
def dayMonthYear? (cs : List Char) : Option Date := do
  let day := cs.takeWhile Char.isDigit
  let rest := cs.dropWhile Char.isDigit
  let year := rest.drop 3
  if (day.length = 1 ∨ day.length = 2) ∧ year.length = 2 ∧ year.all Char.isDigit then
    let month ← monthOfCode? (rest.take 3)
    Date.ofParts? (2000 + Text.digitsValue year) month (Text.digitsValue day)
  else none

/-- The date in either form, and the naming that writes it so. -/
def date? (cs : List Char) : Option (Date × Naming) :=
  ((isoDate? cs).map (·, .isoDate)).or ((dayMonthYear? cs).map (·, .dayMonthYear))

/-- The contract that a name stands for, and the naming it is written in. -/
def read? (name : String) : Option (Contract × Naming) :=
  match Text.fields '-' name.toList with
  | (symbol, [date, strike, right]) => do
    if isSymbol symbol && isNumber strike then
      let right ← Right.ofCode? (String.ofList right)
      let (expiry, naming) ← date? date
      return (⟨String.ofList symbol, expiry, String.ofList strike, right⟩, naming)
    else none
  | _ => none

def read (name : String) : Except Fault Contract :=
  match read? name with
  | some (c, _) => .ok c
  | none => .error (.notAContract name)

def naming? (name : String) : Option Naming := (read? name).map Prod.snd

/-- The name of the same contract in a naming. -/
def renderAs? (naming : Naming) (name : String) : Option String :=
  (read? name).map fun (c, _) => c.render naming

/-- The canonical name of a contract, which is its ISO-date name. -/
def canonical? (name : String) : Option String := renderAs? .isoDate name

/-- What quotes are joined on: the canonical name of a contract, and any other name unchanged. -/
def key (name : String) : String := (canonical? name).getD name

/-- The name of the same contract at a venue; any other name is left unchanged. -/
def rename (venue : Venue) (name : String) : String :=
  (renderAs? (.ofVenue venue) name).getD name

end TwoVenues.Contract

import Mathlib.Tactic.IntervalCases
import TwoVenues.Contract.Name
import TwoVenues.Proofs.Checked.Operations

/-!
# Names, with checked cuts

Reading a name cuts the eight digits of a date at bytes, and writing one looks up the code of a
month. Cuts are made after the digits are recognised, and a date has a month of the table.

* `isoDate_eq`, `read_eq` : the date and the contract that a name stands for;
* `dateText_eq`, `render_eq` : the name of a contract;
* `key_eq`, `rename_eq` : the name that quotes are joined on, and the name at a venue.
-/

namespace TwoVenues.Checked

/-! ## Reading -/

def isoDate (cs : List Char) : Option (Option Date) :=
  if cs.length = 8 ∧ cs.all Char.isDigit then do
    let year ← byteSlice? cs 0 4
    let month ← byteSlice? cs 4 6
    let day ← byteSlice? cs 6 8
    return Date.ofParts? (Text.digitsValue year) (Text.digitsValue month) (Text.digitsValue day)
  else some none

def date (cs : List Char) : Option (Option (Date × Naming)) := do
  match ← isoDate cs with
  | some d => return some (d, .isoDate)
  | none => return (Contract.dayMonthYear? cs).map (·, .dayMonthYear)

def read (name : String) : Option (Option (Contract × Naming)) :=
  match Text.fields '-' name.toList with
  | (symbol, [dateField, strike, right]) =>
    if Contract.isSymbol symbol && Contract.isNumber strike then
      match Right.ofCode? (String.ofList right) with
      | none => some none
      | some right => do
        let expiry ← date dateField
        return expiry.map fun (d, naming) =>
          (⟨String.ofList symbol, d, String.ofList strike, right⟩, naming)
    else some none
  | _ => some none

theorem isoDate_eq (cs : List Char) : isoDate cs = some (Contract.isoDate? cs) := by
  unfold isoDate Contract.isoDate?
  by_cases h : cs.length = 8 ∧ cs.all Char.isDigit
  · obtain ⟨hlength, hall⟩ := h
    have hdigits : ∀ c ∈ cs, c.isDigit := List.all_eq_true.1 hall
    have hlast : (cs.drop 6).take 2 = cs.drop 6 := List.take_of_length_le (by simp [hlength])
    rw [if_pos ⟨hlength, hall⟩, if_pos ⟨hlength, hall⟩,
      byteSlice?_of_isDigit hdigits (by decide) (by omega),
      byteSlice?_of_isDigit hdigits (by decide) (by omega),
      byteSlice?_of_isDigit hdigits (by decide) (by omega)]
    simp only [Option.bind_eq_bind, Option.bind_some, List.drop_zero, hlast]
    rfl
  · rw [if_neg h, if_neg h]

theorem date_eq (cs : List Char) : date cs = some (Contract.date? cs) := by
  unfold date Contract.date?
  rw [isoDate_eq, Option.bind_eq_bind, Option.bind_some]
  cases Contract.isoDate? cs <;> rfl

theorem read_eq (name : String) : read name = some (Contract.read? name) := by
  unfold read Contract.read?
  rcases Text.fields '-' name.toList with ⟨symbol, others⟩
  match others with
  | [] | [_] | [_, _] | _ :: _ :: _ :: _ :: _ => rfl
  | [dateField, strike, right] =>
    by_cases h : Contract.isSymbol symbol && Contract.isNumber strike
    · simp only [if_pos h]
      cases Right.ofCode? (String.ofList right) with
      | none => rfl
      | some right =>
        simp only [date_eq, Option.bind_eq_bind, Option.bind_some]
        cases Contract.date? dateField <;> rfl
    · simp only [if_neg h]

/-! ## Writing -/

def monthCodes : List (List Char) :=
  ["JAN", "FEB", "MAR", "APR", "MAY", "JUN", "JUL", "AUG", "SEP", "OCT", "NOV", "DEC"].map
    String.toList

/-- The expiry date as a naming writes it; months are counted from zero in the table. -/
def dateText (d : Date) : Naming → Option (List Char)
  | .isoDate => some (Contract.dateText d .isoDate)
  | .dayMonthYear => do
    let month ← sub? d.month 1
    let code ← monthCodes[month]?
    return Text.decimal d.day ++ code ++ Text.padded 2 (d.year % 100).toNat

def render (c : Contract) (naming : Naming) : Option String := do
  let expiry ← dateText c.expiry naming
  return String.ofList (Text.joinFields '-' c.underlying.toList
    [expiry, c.strike.toList, c.right.code.toList])

theorem getElem?_monthCodes {month : Nat} (h1 : 1 ≤ month) (h12 : month ≤ 12) :
    monthCodes[month - 1]? = some (monthCode month) := by
  interval_cases month <;> decide

theorem dateText_eq (d : Date) (naming : Naming) :
    dateText d naming = some (Contract.dateText d naming) := by
  obtain ⟨h1, h12⟩ := month_bounds d.exists_day
  cases naming with
  | isoDate => rfl
  | dayMonthYear =>
    rw [dateText, sub?_of_le h1, Option.bind_eq_bind, Option.bind_some, getElem?_monthCodes h1 h12]
    rfl

theorem render_eq (c : Contract) (naming : Naming) : render c naming = some (c.render naming) := by
  rw [render, dateText_eq]
  rfl

/-! ## Names that are joined on -/

/-- The name of the same contract in a naming, or the name itself if it is that of no contract. -/
def renderAs (naming : Naming) (name : String) : Option String := do
  match ← read name with
  | some (c, _) => render c naming
  | none => return name

def key (name : String) : Option String := renderAs .isoDate name

def rename (venue : Venue) (name : String) : Option String := renderAs (.ofVenue venue) name

theorem renderAs_eq (naming : Naming) (name : String) :
    renderAs naming name = some ((Contract.renderAs? naming name).getD name) := by
  unfold renderAs Contract.renderAs?
  rw [read_eq, Option.bind_eq_bind, Option.bind_some]
  cases Contract.read? name with
  | none => rfl
  | some result => exact render_eq result.1 naming

theorem key_eq (name : String) : key name = some (Contract.key name) := renderAs_eq .isoDate name

theorem rename_eq (venue : Venue) (name : String) :
    rename venue name = some (Contract.rename venue name) := renderAs_eq (.ofVenue venue) name

end TwoVenues.Checked

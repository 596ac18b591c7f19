import TwoVenues.Calendar.Date
import TwoVenues.Venue

/-!
# Option contracts

A contract is the right to buy or sell an underlying at a strike on a date, whatever a venue calls
it. Strikes stay as they are written, so `0100` and `100` are different strikes.
-/

namespace TwoVenues

/-- What the holder of an option may do: buy (a call) or sell (a put). -/
inductive Right where
  | call
  | put
deriving DecidableEq

namespace Right

/-- The letter that ends the name of a contract. -/
def code : Right → String
  | call => "C"
  | put => "P"

def ofCode? (code : String) : Option Right :=
  if code = "C" then some call
  else if code = "P" then some put
  else none

theorem ofCode?_eq_some_iff {code : String} {r : Right} :
    ofCode? code = some r ↔ code = r.code := by
  unfold ofCode?
  constructor
  · intro h
    split at h
    · obtain rfl := Option.some.inj h
      assumption
    · split at h
      · obtain rfl := Option.some.inj h
        assumption
      · simp at h
  · rintro rfl
    cases r <;> rfl

end Right

/-- An option contract. -/
structure Contract where
  underlying : String
  expiry : Date
  /-- The strike, as written. -/
  strike : String
  right : Right
deriving DecidableEq

/-- The two ways of writing the name of a contract. -/
inductive Naming where
  /-- `SYMBOL-YYYYMMDD-STRIKE-R`. -/
  | isoDate
  /-- `SYMBOL-DMONYY-STRIKE-R`. -/
  | dayMonthYear
deriving DecidableEq

def Naming.ofVenue : Venue → Naming
  | .a => isoDate
  | .b => dayMonthYear

end TwoVenues

import TwoVenues.Quote
import TwoVenues.Sorting

/-!
# Paired observations

An observation is a pair of values, one from each venue, for one contract at one time.
-/

namespace TwoVenues

/-- The values of both venues for one contract at one time. -/
structure Observation where
  time : Time
  /-- The canonical name of the contract. -/
  instrument : String
  valueA : Float
  /-- The value of venue B, converted if a reference price was used. -/
  valueB : Float
  nameA : String
  nameB : String
  referencePrice : Option Float := none
  /-- The value of venue B before conversion, if a reference was given. -/
  nativeB : Option Float := none
deriving DecidableEq

def Observation.byTime (rows : List Observation) : List Observation :=
  sortBy (fun x y => decide (x.time ≤ y.time)) rows

end TwoVenues

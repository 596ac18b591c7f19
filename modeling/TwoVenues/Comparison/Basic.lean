import TwoVenues.Quote

/-!
# Comparing one instrument

The numbers that describe how the two venues quote one instrument, and the lead that can be read
from them: the venue that moves first, if the best lag is significant.
-/

namespace TwoVenues

/-- How the values of the two venues for one instrument relate. Where a number is undefined it is
not a number. -/
structure Comparison where
  instrument : String
  n : Nat
  correlation : Float
  pValue : Float
  meanDiff : Float
  stdDiff : Float
  /-- The mean of the differences in percent of venue B. -/
  meanPctDiff : Float
  /-- The lag of largest absolute correlation; positive if venue B moves first. -/
  bestLag : Int
  bestLagCorrelation : Float
  bestLagPValue : Float
  meanA : Float
  meanB : Float
  stdA : Float
  stdB : Float
deriving DecidableEq

/-- Which venue moves first, and by how many steps. -/
inductive Lead where
  | venueA (steps : Nat)
  | venueB (steps : Nat)
  | synchronous
  | notSignificant
deriving DecidableEq

namespace Comparison

def isSignificant (c : Comparison) (level : Float) : Bool := c.bestLagPValue < level

/-- The lead that the best lag shows at a level of significance. -/
def lead (c : Comparison) (level : Float) : Lead :=
  if !c.isSignificant level then .notSignificant
  else if c.bestLag = 0 then .synchronous
  else if c.bestLag > 0 then .venueB c.bestLag.natAbs
  else .venueA c.bestLag.natAbs

end Comparison

def Lead.swap : Lead → Lead
  | venueA k => venueB k
  | venueB k => venueA k
  | synchronous => synchronous
  | notSignificant => notSignificant

end TwoVenues

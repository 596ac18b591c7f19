import TwoVenues.Double.Order

/-!
# Mean and deviation

Sums of doubles run from left to right, so their rounding is determined by the order of the values.
-/

namespace TwoVenues.Statistics

/-- The sum, added up from left to right; the sum of no values is negative zero, which changes no
value that is added to it. -/
def sum (xs : List Float) : Float := xs.foldl (· + ·) (-0.0)

/-- The arithmetic mean; not a number for no values. -/
def mean (xs : List Float) : Float :=
  if xs.isEmpty then Double.nan else sum xs / Float.ofNat xs.length

/-- The standard deviation of a whole population; not a number for no values. -/
def deviation (xs : List Float) : Float :=
  if xs.isEmpty then Double.nan
  else
    let m := mean xs
    (sum (xs.map fun x => (x - m) * (x - m)) / Float.ofNat xs.length).sqrt

end TwoVenues.Statistics

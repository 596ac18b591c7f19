import TwoVenues.Comparison.Basic
import TwoVenues.Sorting
import TwoVenues.Statistics.Descriptive

/-!
# Ranking and summary

Comparisons are ranked by correlation, the highest first and undefined ones last; those of equal
rank stay as they stand. A `Summary` counts and averages a batch, leaving out what is undefined.
-/

namespace TwoVenues

namespace Comparison

/-- Whether one comparison may stand before another in the ranking. -/
def ranksBefore (c d : Comparison) : Bool :=
  if c.correlation.isNaN then d.correlation.isNaN
  else d.correlation.isNaN || Double.totalLe d.correlation c.correlation

def rank (rows : List Comparison) : List Comparison := sortBy ranksBefore rows

end Comparison

/-- Counts and averages of a batch of comparisons; the correlations above 0.9 and those above 0.95
are counted. -/
structure Summary where
  instruments : Nat
  avgCorrelation : Float
  above90 : Nat
  above95 : Nat
  avgAbsMeanDiff : Float
  avgAbsPctDiff : Float
deriving DecidableEq

namespace Summary

def defined (xs : List Float) : List Float := xs.filter fun x => !x.isNaN

def ofComparisons (rows : List Comparison) : Summary :=
  let correlations := defined (rows.map (·.correlation))
  { instruments := rows.length
    avgCorrelation := Statistics.mean correlations
    above90 := correlations.countP (· > 0.9)
    above95 := correlations.countP (· > 0.95)
    avgAbsMeanDiff := Statistics.mean (defined (rows.map (·.meanDiff.abs)))
    avgAbsPctDiff := Statistics.mean (defined (rows.map (·.meanPctDiff.abs))) }

end Summary

end TwoVenues

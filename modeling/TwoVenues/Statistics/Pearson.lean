import TwoVenues.Statistics.Descriptive
import TwoVenues.Statistics.Significance

/-!
# Correlation

Pearson's correlation of two series with its p-value. It is undefined, both being not a number, for
series of different lengths, of fewer than two points, with a value that is not finite, or without
variation. `rolling` gives the correlation over the window that ends at each point.
-/

namespace TwoVenues.Statistics

/-- A correlation coefficient and its p-value. -/
structure Pearson where
  r : Float
  p : Float
deriving DecidableEq

namespace Pearson

/-- The correlation where there is none. -/
def undefined : Pearson := ⟨Double.nan, Double.nan⟩

def isDefined (c : Pearson) : Bool := !c.r.isNaN

end Pearson

/-- Sums of products of deviations from the mean. -/
structure Moments where
  covariance : Float
  varianceX : Float
  varianceY : Float

/-- The moments of two series about their given means, added up from the first pair to the last. -/
def moments (meanX meanY : Float) (pairs : List (Float × Float)) : Moments :=
  pairs.foldl (fun m (x, y) =>
    let dx := x - meanX
    let dy := y - meanY
    ⟨m.covariance + dx * dy, m.varianceX + dx * dx, m.varianceY + dy * dy⟩) ⟨0.0, 0.0, 0.0⟩

/-- The coefficient that moments amount to. -/
def Moments.coefficient (m : Moments) : Float :=
  clamp (-1.0) 1.0 (m.covariance / (m.varianceX.sqrt * m.varianceY.sqrt))

/-- Pearson's correlation of two series, with its p-value under a distribution function. -/
def pearsonUnder (cdf : Float → Float → Float) (xs ys : List Float) : Pearson :=
  if xs.length ≠ ys.length ∨ xs.length < 2 then .undefined
  else if (xs ++ ys).any fun v => !v.isFinite then .undefined
  else
    let m := moments (mean xs) (mean ys) (xs.zip ys)
    if m.varianceX == 0.0 || m.varianceY == 0.0 then .undefined
    else ⟨m.coefficient, pValueUnder cdf m.coefficient xs.length⟩

def pearson (xs ys : List Float) : Pearson := pearsonUnder studentCdf xs ys

/-- The `width` values that end with the one at place `last`. -/
def window (width last : Nat) (xs : List Float) : List Float :=
  (xs.drop (last + 1 - width)).take width

/-- The correlation over the window of the given width that ends at each point; not a number where
the window would begin before the first point. -/
def rolling (xs ys : List Float) (width : Nat) : List Float :=
  (List.range (min xs.length ys.length)).map fun last =>
    if width = 0 ∨ last + 1 < width then Double.nan
    else (pearson (window width last xs) (window width last ys)).r

end TwoVenues.Statistics

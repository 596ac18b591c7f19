import TwoVenues.Double.Order
import TwoVenues.Statistics.Beta

/-!
# Significance of a correlation

If two series of length `n` have nothing to do with each other, `t = r · √((n - 2) / (1 - r²))` of
their correlation `r` follows Student's distribution with `n - 2` degrees of freedom. The p-value
of `r` is the probability of a value at least as far from zero, on both sides. Any distribution
function can take the place of `studentCdf` (`pValueUnder`).
-/

namespace TwoVenues.Statistics

/-- Holds a number within bounds; not-a-number stays. -/
def clamp (lo hi x : Float) : Float := if x < lo then lo else if x > hi then hi else x

/-- Student's distribution function: the probability that a variable with so many degrees of freedom
is at most `t`. -/
def studentCdf (freedom t : Float) : Float :=
  let tail := 0.5 * regularizedBeta (freedom / 2.0) 0.5 (freedom / (freedom + t * t))
  if t ≤ 0.0 then tail else 1.0 - tail

/-- The p-value of a correlation of two series of length `n`, under a distribution function. Two
points always lie on a line, so they are no evidence; more points on a line leave no doubt. -/
def pValueUnder (cdf : Float → Float → Float) (r : Float) (n : Nat) : Float :=
  if r.isNaN || n < 2 then Double.nan
  else if n = 2 then 1.0
  else
    let unexplained := 1.0 - r * r
    if unexplained ≤ 0.0 then 0.0
    else
      let freedom := Float.ofNat (n - 2)
      let t := r * (freedom / unexplained).sqrt
      clamp 0.0 1.0 (2.0 * cdf freedom (-t.abs))

/-- The p-value of a correlation of two series of length `n`. -/
def pValue (r : Float) (n : Nat) : Float := pValueUnder studentCdf r n

end TwoVenues.Statistics

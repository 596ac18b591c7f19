/-!
# The incomplete beta function

`regularizedBeta a b x` is the regularized incomplete beta function for `a, b ≥ 1/2` and `x` from
zero to one, the probability that a beta variable is at most `x`. It is a front factor, from the
logarithm of the gamma function (`logGamma`, Lanczos's series), times a continued fraction
(`betaFraction`, by Lentz's method). For large `x` the fraction is evaluated at `1 - x`, where it
converges faster. The front factor is zero when `x` is at most one unit of roundoff, and when it is
as near to one.
-/

namespace TwoVenues.Statistics

/-- The spacing of doubles above one. -/
def epsilon : Float := 2.220446049250313e-16

/-- Half the spacing of doubles above one, at which the continued fraction has converged. -/
def precision : Float := 1.1102230246251565e-16

def leastNormal : Float := 2.2250738585072014e-308

def lanczosShift : Float := 10.900511

def lanczosConstant : Float := 2.48574089138753565546e-5

/-- The coefficients of Lanczos's series after the constant term. -/
def lanczosCoefficients : List Float := [
  1.05142378581721974210,
  -3.45687097222016235469,
  4.51227709466894823700,
  -2.98285225323576655721,
  1.05639711577126713077,
  -1.95428773191645869583e-1,
  1.70970543404441224307e-2,
  -5.71926117404305781283e-4,
  4.63399473359905636708e-6,
  -2.71994908488607703910e-9]

/-- The logarithm of `2 · √(e / π)`. -/
def logTwoSqrtEOverPi : Float := 0.6207822376352452

def eulerNumber : Float := 2.718281828459045

/-- The logarithm of the gamma function, for arguments of at least one half. -/
def logGamma (x : Float) : Float :=
  let series := lanczosCoefficients.zipIdx.foldl
    (fun s (c, i) => s + c / (x + Float.ofNat (i + 1) - 1.0)) lanczosConstant
  series.log + logTwoSqrtEOverPi + (x - 0.5) * ((x - 0.5 + lanczosShift) / eulerNumber).log

/-- The running values of Lentz's method: two ratios of successive numerators and denominators, and
the fraction so far. -/
structure LentzState where
  c : Float
  d : Float
  h : Float

/-- Keeps a divisor away from zero. -/
def awayFromZero (x : Float) : Float :=
  let least := leastNormal / precision
  if x.abs < least then least else x

/-- One step of Lentz's method with the given coefficient. -/
def LentzState.advance (s : LentzState) (coefficient : Float) : LentzState :=
  let d := 1.0 / awayFromZero (1.0 + coefficient * s.d)
  let c := awayFromZero (1.0 + coefficient / s.c)
  ⟨c, d, s.h * (d * c)⟩

/-- The continued fraction from its `m`-th pair of coefficients on, for at most `steps` pairs; it
stops as soon as the last factor is one up to precision. -/
def betaFractionFrom (a b x : Float) (steps m : Nat) (s : LentzState) : Float :=
  match steps with
  | 0 => s.h
  | steps + 1 =>
    let k := Float.ofNat m
    let twice := k * 2.0
    let even := k * (b - k) * x / ((a - 1.0 + twice) * (a + twice))
    let s := s.advance even
    let odd := -(a + k) * (a + b + k) * x / ((a + twice) * (a + 1.0 + twice))
    let s := s.advance odd
    if (s.d * s.c - 1.0).abs ≤ precision then s.h
    else betaFractionFrom a b x steps (m + 1) s

def betaFraction (a b x : Float) : Float :=
  let d := 1.0 / awayFromZero (1.0 - (a + b) * x / (a + 1.0))
  betaFractionFrom a b x 140 1 ⟨1.0, d, d⟩

/-- Whether a number of `[0, 1]` is one up to the spacing of doubles there. -/
def isNearOne (x : Float) : Bool :=
  (x - 1.0).abs ≤ epsilon || 0x3FF0000000000000 - x.toBits.toNat ≤ 4

def betaFront (a b x : Float) : Float :=
  if x ≤ epsilon || isNearOne x then 0.0
  else (logGamma (a + b) - logGamma a - logGamma b + a * x.log + b * (1.0 - x).log).exp

def regularizedBeta (a b x : Float) : Float :=
  let front := betaFront a b x
  if x ≥ (a + 1.0) / (a + b + 2.0) then 1.0 - front * betaFraction b a (1.0 - x) / b
  else front * betaFraction a b x / a

end TwoVenues.Statistics

import TwoVenues.Double.Order

/-!
# Doubles with a sign of their own

`Float` has a single not-a-number, but the IEEE total order has one at either end: below every
number if its sign bit is set, and above every number if not. `Signed` is a double that keeps this
sign, for values that are put into the total order as they were given.

* `toFloat` : the value to compute with;
* `totalKey` : the place in the total order, which determines the double (`totalKey_injective`);
* `valueKey` : the place in the numeric order, where the sign of not-a-number plays no part.
-/

namespace TwoVenues.Double

/-- A double whose sign counts even if it is not a number. -/
inductive Signed where
  /-- A number, or not-a-number with a clear sign bit. -/
  | ofFloat (x : Float)
  /-- Not-a-number with the sign bit set. -/
  | negativeNan
deriving DecidableEq

namespace Signed

/-- The double without the sign of not-a-number. -/
def toFloat : Signed → Float
  | ofFloat x => x
  | negativeNan => nan

def neg : Signed → Signed
  | ofFloat x => if x.isNaN then negativeNan else ofFloat (-x)
  | negativeNan => ofFloat nan

def totalKey : Signed → Int
  | ofFloat x => Double.totalKey x
  | negativeNan => -0x8000000000000001

def valueKey (x : Signed) : Int := Double.valueKey x.toFloat

def totalLe (x y : Signed) : Bool := decide (totalKey x ≤ totalKey y)

theorem totalKey_negativeNan_lt (x : Float) : totalKey negativeNan < totalKey (ofFloat x) := by
  have h := x.toBits.toNat_lt
  simp only [totalKey, Double.totalKey]
  split <;> omega

theorem totalKey_injective {x y : Signed} (h : totalKey x = totalKey y) : x = y := by
  cases x with
  | ofFloat a =>
    cases y with
    | ofFloat b => exact congrArg ofFloat (Double.totalKey_injective h)
    | negativeNan => exact absurd h.symm (Int.ne_of_lt (totalKey_negativeNan_lt a))
  | negativeNan =>
    cases y with
    | ofFloat b => exact absurd h (Int.ne_of_lt (totalKey_negativeNan_lt b))
    | negativeNan => rfl

theorem totalLe_trans {x y z : Signed} (hxy : totalLe x y) (hyz : totalLe y z) : totalLe x z := by
  simp only [totalLe, decide_eq_true_eq] at *
  exact Int.le_trans hxy hyz

theorem totalLe_total (x y : Signed) : totalLe x y ∨ totalLe y x := by
  simp only [totalLe, decide_eq_true_eq]
  exact Int.le_total _ _

end Signed

end TwoVenues.Double

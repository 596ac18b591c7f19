import TwoVenues.Proofs.Double.Rounding

/-!
# Finite results come from finite operands

Infinity and not-a-number are never computed away: a difference, product or quotient that is finite
has finite operands, except that it may have been infinity that was divided by.
-/

namespace TwoVenues.Double
open Float.Model (UnpackedFloat)
open Float.Model.UnpackedFloat

/-! ## Unpacked doubles -/

section Unpacked
variable {u v : UnpackedFloat}

theorem isFinite_of_settle (h : (settle u).isFinite) : u.isFinite := by
  cases u with
  | notANumber =>
    rw [settle_notANumber] at h
    cases h
  | infinity s =>
    rw [settle_infinity] at h
    cases h
  | zero s => rfl
  | finite s m e hm => rfl

theorem isFinite_of_mul_unpacked (h : (mul .binary64 u v).isFinite) : u.isFinite ∧ v.isFinite := by
  cases u <;> cases v <;> first | exact ⟨rfl, rfl⟩ | cases h

theorem isFinite_of_div_unpacked (h : (div .binary64 u v).isFinite) : u.isFinite := by
  cases u <;> cases v <;> first | rfl | cases h

theorem isFinite_of_sub_unpacked (h : (sub .binary64 u v).isFinite) : u.isFinite ∧ v.isFinite := by
  cases u with
  | infinity s => cases v with
    | infinity t => cases s <;> cases t <;> cases h
    | _ => cases h
  | _ => cases v <;> first | exact ⟨rfl, rfl⟩ | cases h

end Unpacked

/-! ## Doubles -/

variable {x y : Float}

theorem isFinite_of_mul (h : (x * y).isFinite) : x.isFinite ∧ y.isFinite :=
  isFinite_of_mul_unpacked (isFinite_of_settle h)

theorem isFinite_of_div (h : (x / y).isFinite) : x.isFinite :=
  isFinite_of_div_unpacked (isFinite_of_settle h)

theorem isFinite_of_sub (h : (x - y).isFinite) : x.isFinite ∧ y.isFinite :=
  isFinite_of_sub_unpacked (isFinite_of_settle h)

end TwoVenues.Double

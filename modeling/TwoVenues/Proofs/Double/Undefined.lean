import TwoVenues.Proofs.Double.NumericOrder

/-!
# Not-a-number is passed on

A difference with not-a-number on either side is not a number, and neither is not-a-number divided
or multiplied by anything.
-/

namespace TwoVenues.Double
open Float.Model (UnpackedFloat)
open Float.Model.UnpackedFloat

/-! ## Unpacked doubles -/

section Unpacked
variable {u v : UnpackedFloat}

theorem isNaN_sub_unpacked (h : u.isNaN ∨ v.isNaN) : (sub .binary64 u v).isNaN := by
  rcases h with h | h
  · cases u <;> cases v <;> first | rfl | cases h
  · cases u <;> cases v <;> first | rfl | cases h

theorem isNaN_div_unpacked (h : u.isNaN) : (div .binary64 u v).isNaN := by
  cases u <;> cases v <;> first | rfl | cases h

theorem isNaN_mul_unpacked (h : u.isNaN) : (mul .binary64 u v).isNaN := by
  cases u <;> cases v <;> first | rfl | cases h

end Unpacked

/-! ## Doubles -/

variable {x y : Float}

theorem isNaN_sub (h : x.isNaN ∨ y.isNaN) : (x - y).isNaN :=
  (isNaN_unpack_pack _).trans (isNaN_sub_unpacked h)

theorem isNaN_div (h : x.isNaN) : (x / y).isNaN :=
  (isNaN_unpack_pack _).trans (isNaN_div_unpacked h)

theorem isNaN_mul (h : x.isNaN) : (x * y).isNaN :=
  (isNaN_unpack_pack _).trans (isNaN_mul_unpacked h)

end TwoVenues.Double

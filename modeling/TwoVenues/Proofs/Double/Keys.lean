import TwoVenues.Proofs.Double.NumericOrder

/-!
# The numeric order in terms of comparisons

`valueKey` puts doubles in the order of `<`, with `-0` and `+0` as one number and not-a-number above
all numbers.

* `IsSame x y`, `IsBelow x y` : equality and order of doubles, not-a-number included;
* `eq_nan` : there is one value that is not a number;
* `valueKey_eq_iff`, `valueKey_lt_iff` : both in terms of keys.
-/

namespace TwoVenues.Double
open Float.Model (UnpackedFloat Format)
open Float.Model.UnpackedFloat

/-- Both are one number, or neither is a number. -/
def IsSame (x y : Float) : Prop := x == y ∨ x.isNaN = true ∧ y.isNaN = true

/-- The first is the smaller number, or only the second one is not a number. -/
def IsBelow (x y : Float) : Prop := x < y ∨ x.isNaN = false ∧ y.isNaN = true

variable {x y : Float}

theorem eq_nan (h : x.isNaN = true) : x = nan := by
  obtain ⟨hexponent, hmantissa⟩ := (isNaN_unpack_iff x.toBits.toBitVec).1 h
  have hbits : x.toBits.toBitVec = packedNaN .binary64 :=
    x.toModel.valid.eq_packedNaN hexponent hmantissa
  apply eq_of_toBits_eq
  apply UInt64.toBitVec_inj.1
  rw [hbits]
  rfl

theorem beq_iff : (x == y) = true ↔
    x.isNaN = false ∧ y.isNaN = false ∧ valueKey x = valueKey y := by
  change (x.toModel.unpack.compare y.toModel.unpack == some .eq) = true ↔ _
  rw [beq_iff_eq]
  cases hx : x.isNaN
  · cases hy : y.isNaN
    · rw [compare_unpack hx hy, Option.some.injEq, compare_eq_iff_eq]
      exact ⟨fun h => ⟨rfl, rfl, h⟩, fun h => h.2.2⟩
    · simp [compare_unpack_eq_none (Or.inr hy)]
  · simp [compare_unpack_eq_none (Or.inl hx)]

/-- Numbers stand up to infinity. -/
theorem valueKey_le_infinity (h : x.isNaN = false) : valueKey x ≤ valueKey infinity := by
  rw [valueKey_eq_place h, valueKey_eq_place (by decide)]
  have hinfinity : infinity.toModel.unpack = .infinity .positive := rfl
  have hcanonical : IsCanonical x.toModel.unpack := (unpack_spec x.toBits.toBitVec).1
  have hbounds := infinity_bounds
  rw [hinfinity]
  cases hu : x.toModel.unpack with
  | notANumber =>
    exact Int.le_of_lt hbounds.2
  | infinity s =>
    cases s
    · exact Int.le_of_lt (hbounds.1.trans hbounds.2)
    · exact Int.le_refl _
  | zero s => exact Int.le_of_lt hbounds.2
  | finite s m e hm =>
    rw [hu] at hcanonical
    have hfinite := finite_bounds hcanonical
    cases s
    · exact Int.le_of_lt (hfinite.2.trans hbounds.2)
    · exact Int.le_of_lt hfinite.2

theorem valueKey_lt_of_isNaN (hx : x.isNaN = false) (hy : y.isNaN = true) :
    valueKey x < valueKey y := by
  rw [eq_nan hy]
  exact Int.lt_of_le_of_lt (valueKey_le_infinity hx) (by decide)

theorem valueKey_eq_iff : valueKey x = valueKey y ↔ IsSame x y := by
  unfold IsSame
  rw [beq_iff]
  cases hx : x.isNaN <;> cases hy : y.isNaN
  · simp
  · simp [Int.ne_of_lt (valueKey_lt_of_isNaN hx hy)]
  · simp [(Int.ne_of_lt (valueKey_lt_of_isNaN hy hx)).symm]
  · simp [eq_nan hx, eq_nan hy]

theorem valueKey_lt_iff : valueKey x < valueKey y ↔ IsBelow x y := by
  unfold IsBelow
  rw [lt_iff]
  cases hx : x.isNaN <;> cases hy : y.isNaN
  · simp
  · simp [valueKey_lt_of_isNaN hx hy]
  · simp [Int.le_of_lt (valueKey_lt_of_isNaN hy hx)]
  · simp [eq_nan hx, eq_nan hy]

end TwoVenues.Double

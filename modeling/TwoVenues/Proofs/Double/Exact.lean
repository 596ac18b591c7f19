import TwoVenues.Proofs.Double.Faithful

/-!
# Exact operations

A result that fits a double is not rounded.

* `Denotes.add`, `Denotes.sub`, `Denotes.mul`, `Denotes.div` : an operation whose result fits;
* `denotes_zero`, `denotes_one`, `denotes_ofNat` : natural numbers of at most 53 digits;
* `Denotes.beq` : equal doubles stand for one number.
-/

namespace TwoVenues.Double
open Float.Model (UnpackedFloat Format)
open Float.Model.UnpackedFloat

theorem IsRounding.isValue {u : UnpackedFloat} {q : ℚ} (h : IsRounding u q) (hq : Fits q) :
    IsValue (settle u) q := by
  obtain ⟨r, hr, hfaithful⟩ := h
  rwa [hfaithful.eq hq] at hr

theorem isValue_compare {u v : UnpackedFloat} {q : ℚ} (hu : IsValue u q) (h : u.compare v = some .eq) : IsValue v q := by
  cases u with
  | notANumber => cases hu
  | infinity s => cases hu
  | zero s =>
    cases v with
    | notANumber => cases h
    | infinity t => cases t <;> cases h
    | zero t => exact hu
    | finite t n f hn => cases t <;> cases h
  | finite s m e hm =>
    cases v with
    | notANumber => cases s <;> cases h
    | infinity t => cases s <;> cases t <;> cases h
    | zero t => cases s <;> cases h
    | finite t n f hn =>
      have hthen : s = t ∧ (compare e f).then (compare m n) = .eq := by
        cases s <;> cases t
        · exact ⟨rfl, Ordering.swap_inj.1 (Option.some.inj h)⟩
        · cases h
        · cases h
        · exact ⟨rfl, Option.some.inj h⟩
      obtain ⟨rfl, horder⟩ := hthen
      rw [Ordering.then_eq_eq, compare_eq_iff_eq, compare_eq_iff_eq] at horder
      obtain ⟨rfl, rfl⟩ := horder
      exact hu

/-! ## Operations on `Float` -/

section Operations
variable {x y : Float} {p q : ℚ}

theorem Denotes.add (hx : Denotes x p) (hy : Denotes y q) (h : Fits (p + q)) :
    Denotes (x + y) (p + q) := by
  obtain ⟨r, hr, hfaithful⟩ := hx.add_faithful hy h.inRange
  rwa [hfaithful.eq h] at hr

theorem Denotes.sub (hx : Denotes x p) (hy : Denotes y q) (h : Fits (p - q)) :
    Denotes (x - y) (p - q) := by
  obtain ⟨r, hr, hfaithful⟩ := hx.sub_faithful hy h.inRange
  rwa [hfaithful.eq h] at hr

theorem Denotes.mul (hx : Denotes x p) (hy : Denotes y q) (h : Fits (p * q)) :
    Denotes (x * y) (p * q) := by
  obtain ⟨r, hr, hfaithful⟩ := hx.mul_faithful hy h.inRange
  rwa [hfaithful.eq h] at hr

theorem Denotes.div (hx : Denotes x p) (hy : Denotes y q) (hq : q ≠ 0) (h : Fits (p / q)) :
    Denotes (x / y) (p / q) := by
  obtain ⟨r, hr, hfaithful⟩ := hx.div_faithful hy hq h.inRange
  rwa [hfaithful.eq h] at hr

theorem Denotes.beq (hx : Denotes x q) (h : x == y) : Denotes y q := by
  have hcompare : (x.toModel.unpack.compare y.toModel.unpack == some .eq) = true := h
  exact isValue_compare hx (beq_iff_eq.1 hcompare)

theorem denotes_zero : Denotes 0.0 0 := rfl

theorem denotes_one : Denotes 1.0 1 := by
  show (1 : ℚ) = ((2 ^ 52 : Nat) : Int) * 2 ^ (-52 : Int)
  norm_num

theorem denotes_ofNat {n : Nat} (h : n < 2 ^ 53) : Denotes (Float.ofNat n) n := by
  have hone : Denotes (Float.ofBits 0x3FF0000000000000) 1 := by
    show (1 : ℚ) = ((2 ^ 52 : Nat) : Int) * 2 ^ (-52 : Int)
    norm_num
  have hcast : Denotes n.toUInt64.toFloat n := by
    have hfits := fits_natCast h
    have hrounding := @isRounding_normalize 0 n .positive
    rw [zpow_zero, mul_one] at hrounding
    have htoNat : n.toUInt64.toNat = n := UInt64.toNat_ofNat_of_lt' (Nat.lt_trans h (by decide))
    show IsValue (settle (UnpackedFloat.normalize .binary64 (n.toUInt64.toNat : Int) 0 .positive)) n
    rw [htoNat]
    exact (hrounding hfits.inRange).isValue hfits
  have hofNat : Float.ofNat n = n.toUInt64.toFloat * Float.ofBits 0x3FF0000000000000 := by
    show Float.ofScientific n false 0 = _
    rw [Float.ofScientific, dif_pos ⟨h, by decide⟩]
    rfl
  rw [hofNat]
  have := hcast.mul hone
  rw [mul_one] at this
  exact this (fits_natCast h)

end Operations

end TwoVenues.Double

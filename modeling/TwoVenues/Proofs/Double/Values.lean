import Mathlib.Algebra.Order.Field.Basic
import Mathlib.Algebra.Order.Field.Power
import Mathlib.Algebra.Order.Field.Rat
import Mathlib.Tactic.FieldSimp
import Mathlib.Tactic.GCongr
import Mathlib.Tactic.NormNum
import Mathlib.Tactic.Ring
import TwoVenues.Proofs.Double.Rounding

/-!
# The numbers that doubles stand for

* `Denotes x q` : the double `x` stands for the number `q`;
* `Fits q` : the number `q` is that of a double;
* `Fits.multiple_or_lt` : a number that fits, seen from a larger exponent;
* `InRange q` : the number `q` is between two doubles.
-/

namespace TwoVenues.Double
open Float.Model (UnpackedFloat Format)
open Float.Model.UnpackedFloat

/-- The number that an unpacked double stands for. -/
def IsValue : UnpackedFloat → ℚ → Prop
  | .zero _, q => q = 0
  | .finite s m e _, q => q = s.apply m * 2 ^ e
  | _, _ => False

def Denotes (x : Float) (q : ℚ) : Prop := IsValue x.toModel.unpack q

/-- The number `q` has a mantissa of at most 53 digits and an exponent in the range of doubles. -/
def Fits (q : ℚ) : Prop := ∃ k f : Int, q = k * 2 ^ f ∧ k.natAbs < 2 ^ 53 ∧ -1074 ≤ f ∧ f ≤ 971

/-- The number `q` is not beyond all doubles. -/
def InRange (q : ℚ) : Prop := ∃ b, Fits b ∧ |q| ≤ b

theorem Denotes.eq {x : Float} {p q : ℚ} (hp : Denotes x p) (hq : Denotes x q) : p = q := by
  change IsValue x.toModel.unpack p at hp
  change IsValue x.toModel.unpack q at hq
  cases hu : x.toModel.unpack <;> rw [hu] at hp hq
  case zero s => exact Eq.trans hp (Eq.symm hq)
  case finite s m e hm => exact Eq.trans hp (Eq.symm hq)
  all_goals cases hp

/-! ## Mantissas and exponents -/

theorem cast_mul_two_pow (m k : Nat) (e : Int) :
    ((m * 2 ^ k : Nat) : ℚ) * 2 ^ (e - k) = m * 2 ^ e := by
  rw [Nat.cast_mul, Nat.cast_pow, Nat.cast_ofNat, mul_assoc, ← zpow_natCast,
    ← zpow_add₀ two_ne_zero]
  congr 2
  omega

theorem two_zpow_eq {e t : Int} (h : e ≤ t) : (2 : ℚ) ^ t = (2 ^ (t - e).toNat : Nat) * 2 ^ e := by
  rw [Nat.cast_pow, Nat.cast_ofNat, ← zpow_natCast, ← zpow_add₀ two_ne_zero]
  congr 1
  omega

theorem cast_apply (s : Sign) (m : Nat) : ((s.apply m : Int) : ℚ) = (s.apply 1 : Int) * m := by
  cases s <;> simp [Sign.apply]

/-- The same number, written with a smaller exponent. -/
theorem cast_apply_mul_two_pow (s : Sign) (m k : Nat) (e : Int) :
    ((s.apply (m * 2 ^ k : Nat) : Int) : ℚ) * 2 ^ (e - k) = s.apply m * 2 ^ e := by
  rw [cast_apply, mul_assoc, cast_mul_two_pow, ← mul_assoc, ← cast_apply]

theorem cast_apply_shiftLeft (s : Sign) (m : Nat) {e t : Int} (h : t ≤ e) :
    ((s.apply (m <<< (e - t).toNat : Nat) : Int) : ℚ) * 2 ^ t = s.apply m * 2 ^ e := by
  have hvalue := cast_apply_mul_two_pow s m (e - t).toNat e
  rwa [show e - ((e - t).toNat : Int) = t by omega, ← Nat.shiftLeft_eq] at hvalue

theorem cast_apply_mul (s t : Sign) (m n : Nat) :
    (((s * t).apply (m * n : Nat) : Int) : ℚ) = (s.apply m : Int) * (t.apply n : Int) := by
  rw [← Int.cast_mul]
  congr 1
  cases s <;> cases t
  · show ((m * n : Nat) : Int) = -(m : Int) * -(n : Int)
    simp
  · show -((m * n : Nat) : Int) = -(m : Int) * (n : Int)
    simp
  · show -((m * n : Nat) : Int) = (m : Int) * -(n : Int)
    simp
  · show ((m * n : Nat) : Int) = (m : Int) * (n : Int)
    simp

theorem cast_apply_div (s t : Sign) (p q : ℚ) :
    ((s.apply 1 : Int) : ℚ) * p / ((t.apply 1 : Int) * q) = ((s / t).apply 1 : Int) * (p / q) := by
  cases s <;> cases t
  · show ((-1 : Int) : ℚ) * p / ((-1 : Int) * q) = (1 : Int) * (p / q)
    simp
  · show ((-1 : Int) : ℚ) * p / ((1 : Int) * q) = (-1 : Int) * (p / q)
    simp [neg_div]
  · show ((1 : Int) : ℚ) * p / ((-1 : Int) * q) = (-1 : Int) * (p / q)
    simp [div_neg]
  · show ((1 : Int) : ℚ) * p / ((1 : Int) * q) = (1 : Int) * (p / q)
    simp

theorem abs_apply_mul (s : Sign) (m : Nat) (e : Int) :
    |((s.apply m : Int) : ℚ) * 2 ^ e| = m * 2 ^ e := by
  have hpos : (0 : ℚ) ≤ m * 2 ^ e := mul_nonneg (Nat.cast_nonneg m) (zpow_nonneg zero_le_two e)
  cases s
  · show |((-(m : Int) : Int) : ℚ) * 2 ^ e| = _
    rw [Int.cast_neg, neg_mul, abs_neg]
    exact abs_of_nonneg hpos
  · exact abs_of_nonneg hpos

/-! ## Numbers that fit -/

section Fits
variable {q : ℚ}

theorem fits_zero : Fits 0 := ⟨0, 0, by simp, by decide, by decide, by decide⟩

theorem fits_natCast {n : Nat} (h : n < 2 ^ 53) : Fits n :=
  ⟨n, 0, by simp, h, by decide, by decide⟩

theorem fits_one : Fits 1 := ⟨1, 0, by simp, by decide, by decide, by decide⟩

theorem Fits.neg (h : Fits q) : Fits (-q) := by
  obtain ⟨k, f, rfl, hk, hf⟩ := h
  exact ⟨-k, f, by push_cast; ring, by rwa [Int.natAbs_neg], hf⟩

theorem Fits.abs (h : Fits q) : Fits |q| := by
  rcases abs_choice q with heq | heq
  · rwa [heq]
  · rw [heq]
    exact h.neg

theorem Fits.inRange (h : Fits q) : InRange q := ⟨|q|, h.abs, le_rfl⟩

theorem abs_intCast_mul (k f : Int) : |(k : ℚ) * 2 ^ f| = (k.natAbs : ℚ) * 2 ^ f := by
  rw [abs_mul, abs_of_pos (zpow_pos (a := (2 : ℚ)) two_pos f), Nat.cast_natAbs, Int.cast_abs]

theorem Fits.abs_lt (h : Fits q) : |q| < 2 ^ 53 * 2 ^ (971 : Int) := by
  obtain ⟨k, f, rfl, hk, -, hf⟩ := h
  have hk : (k.natAbs : ℚ) < 2 ^ 53 := by exact_mod_cast hk
  rw [abs_intCast_mul]
  calc (k.natAbs : ℚ) * 2 ^ f < 2 ^ 53 * 2 ^ f := by gcongr
    _ ≤ 2 ^ 53 * 2 ^ (971 : Int) := by
      gcongr
      exact one_le_two

theorem fits_of_isValue {u : UnpackedFloat} (hu : IsCanonical u) (h : IsValue u q) : Fits q := by
  cases u with
  | notANumber => cases h
  | infinity s => cases h
  | zero s =>
    cases h
    exact fits_zero
  | finite s m e hm =>
    obtain ⟨hlow, hhigh, hlt, -⟩ := hu
    refine ⟨s.apply m, e, h, ?_, hlow, hhigh⟩
    cases s
    · show (-(m : Int)).natAbs < 2 ^ 53
      rwa [Int.natAbs_neg]
    · exact hlt

/-- A number that fits is a multiple of `2 ^ t`, or has too few digits to be that large. -/
theorem Fits.multiple_or_lt (h : Fits q) (t : Int) :
    (∃ k : Int, q = k * 2 ^ t) ∨ -1074 < t ∧ |q| < 2 ^ 52 * 2 ^ t := by
  obtain ⟨k, f, rfl, hk, hf, -⟩ := h
  rcases le_or_gt t f with hle | hlt
  · refine Or.inl ⟨k * (2 ^ (f - t).toNat : Nat), ?_⟩
    rw [two_zpow_eq hle]
    push_cast
    ring
  · have hk : (k.natAbs : ℚ) < 2 ^ 53 := by exact_mod_cast hk
    refine Or.inr ⟨by omega, ?_⟩
    rw [abs_intCast_mul]
    calc (k.natAbs : ℚ) * 2 ^ f < 2 ^ 53 * 2 ^ f := by gcongr
      _ ≤ 2 ^ 53 * 2 ^ (t - 1) := by
        gcongr
        · exact one_le_two
        · omega
      _ = 2 ^ 52 * 2 ^ t := by
        rw [zpow_sub_one₀ two_ne_zero]
        ring

end Fits

end TwoVenues.Double

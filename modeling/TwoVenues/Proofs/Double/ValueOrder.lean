import TwoVenues.Proofs.Double.Bounds
import TwoVenues.Proofs.Double.Exact
import TwoVenues.Proofs.Double.Keys

/-!
# The order of doubles is that of their numbers

* `Denotes.lt_iff`, `Denotes.le_iff` : comparisons of doubles that stand for numbers;
* `exists_denotes_between` : a double between two finite ones is finite;
* `exists_denotes_ofNat` : the double of a natural number of any size in range;
* `isNaN_neg`, `isNaN_mul_eq_false` : operations whose result is a number.
-/

namespace TwoVenues.Double
open Float.Model (UnpackedFloat Format)
open Float.Model.UnpackedFloat

/-! ## Unpacked doubles -/

section Unpacked
variable {u v : UnpackedFloat} {p q : ℚ}

/-- At the larger exponent the mantissa is normal, so that it has the larger number. -/
theorem lt_of_magnitude_lt {m n : Nat} {e f : Int} (hm : m < 2 ^ 53) (hn : n < 2 ^ 53)
    (he : -1074 ≤ e) (hf : -1074 ≤ f) (hme : 2 ^ 52 ≤ m ∨ e = -1074) (hnf : 2 ^ 52 ≤ n ∨ f = -1074)
    (h : (e + 1074) * 2 ^ 52 + (m : Int) < (f + 1074) * 2 ^ 52 + (n : Int)) :
    (m : ℚ) * 2 ^ e < n * 2 ^ f := by
  rcases lt_trichotomy e f with hlt | rfl | hgt
  · have hm : (m : ℚ) < 2 ^ 53 := by exact_mod_cast hm
    have hn : (2 : ℚ) ^ 52 ≤ n := by exact_mod_cast (show 2 ^ 52 ≤ n by omega)
    calc (m : ℚ) * 2 ^ e < 2 ^ 53 * 2 ^ e := by gcongr
      _ = 2 ^ 52 * 2 ^ (e + 1) := by
        rw [zpow_add_one₀ two_ne_zero]
        ring
      _ ≤ n * 2 ^ f := by
        gcongr
        · exact one_le_two
        · omega
  · have hmn : (m : ℚ) < n := by exact_mod_cast (show m < n by omega)
    gcongr
  · omega

theorem value_positive {m : Nat} {e : Int} {hm : 0 < m} (h : IsValue (.finite .positive m e hm) q) :
    q = m * 2 ^ e ∧ 0 < q := by
  have hpos : (0 : ℚ) < m := by exact_mod_cast hm
  have hq : q = m * 2 ^ e := by
    rw [show q = ((m : Int) : ℚ) * 2 ^ e from h, Int.cast_natCast]
  exact ⟨hq, by rw [hq]; positivity⟩

theorem value_negative {m : Nat} {e : Int} {hm : 0 < m} (h : IsValue (.finite .negative m e hm) q) :
    q = -(m * 2 ^ e) ∧ q < 0 := by
  have hpos : (0 : ℚ) < m := by exact_mod_cast hm
  have hq : q = -(m * 2 ^ e) := by
    rw [show q = ((-(m : Int) : Int) : ℚ) * 2 ^ e from h, Int.cast_neg, Int.cast_natCast, neg_mul]
  exact ⟨hq, by rw [hq]; exact neg_neg_of_pos (by positivity)⟩

theorem lt_of_place_lt (hu : IsCanonical u) (hv : IsCanonical v) (hp : IsValue u p)
    (hq : IsValue v q) (h : place u < place v) : p < q := by
  cases u with
  | notANumber => cases hp
  | infinity s => cases hp
  | zero s =>
    obtain rfl : p = 0 := hp
    cases v with
    | notANumber => cases hq
    | infinity t => cases hq
    | zero t => exact absurd h (Int.lt_irrefl 0)
    | finite t n f hn =>
      cases t <;> obtain ⟨hlow, hhigh⟩ := finite_bounds hv
      · exact absurd (h.trans hhigh) (Int.lt_irrefl 0)
      · exact (value_positive hq).2
  | finite s m e hm =>
    cases v with
    | notANumber => cases hq
    | infinity t => cases hq
    | zero t =>
      obtain rfl : q = 0 := hq
      cases s <;> obtain ⟨hlow, hhigh⟩ := finite_bounds hu
      · exact (value_negative hp).2
      · exact absurd (hlow.trans h) (Int.lt_irrefl 0)
    | finite t n f hn =>
      obtain ⟨hue, -, hum, hun⟩ := hu
      obtain ⟨hve, -, hvm, hvn⟩ := hv
      cases s <;> cases t
      · obtain ⟨rfl, -⟩ := value_negative hp
        obtain ⟨rfl, -⟩ := value_negative hq
        change -1 - ((e + 1074) * 2 ^ 52 + (m : Int)) < -1 - ((f + 1074) * 2 ^ 52 + (n : Int)) at h
        exact neg_lt_neg (lt_of_magnitude_lt hvm hum hve hue hvn hun (by omega))
      · exact (value_negative hp).2.trans (value_positive hq).2
      · change (e + 1074) * 2 ^ 52 + (m : Int) < -1 - ((f + 1074) * 2 ^ 52 + (n : Int)) at h
        omega
      · obtain ⟨rfl, -⟩ := value_positive hp
        obtain ⟨rfl, -⟩ := value_positive hq
        exact lt_of_magnitude_lt hum hvm hue hve hun hvn h

/-- Finite numbers stand between the infinities. -/
theorem place_bounds (hu : IsCanonical u) (hp : IsValue u p) :
    place (.infinity .negative) < place u ∧ place u < place (.infinity .positive) := by
  obtain ⟨hneg, hpos⟩ := infinity_bounds
  cases u with
  | notANumber => cases hp
  | infinity s => cases hp
  | zero s => exact ⟨hneg, hpos⟩
  | finite s m e hm =>
    have hbounds := finite_bounds hu
    cases s
    · exact ⟨hbounds.1, hbounds.2.trans hpos⟩
    · exact ⟨hneg.trans hbounds.1, hbounds.2⟩

end Unpacked

/-! ## Comparisons -/

section Comparisons
variable {x y z : Float} {p q : ℚ}

theorem Denotes.isNaN (hx : Denotes x p) : x.isNaN = false := by
  change x.toModel.unpack.isNaN = false
  change IsValue x.toModel.unpack p at hx
  cases hu : x.toModel.unpack with
  | notANumber =>
    rw [hu] at hx
    cases hx
  | _ => rfl

theorem Denotes.lt_of_valueKey_lt (hx : Denotes x p) (hy : Denotes y q)
    (h : valueKey x < valueKey y) : p < q := by
  rw [valueKey_eq_place hx.isNaN, valueKey_eq_place hy.isNaN] at h
  exact lt_of_place_lt (isCanonical_unpack x) (isCanonical_unpack y) hx hy h

theorem Denotes.lt_iff (hx : Denotes x p) (hy : Denotes y q) : x < y ↔ p < q := by
  rw [Double.lt_iff]
  refine ⟨fun h => hx.lt_of_valueKey_lt hy h.2.2, fun hlt => ⟨hx.isNaN, hy.isNaN, ?_⟩⟩
  rcases lt_trichotomy (valueKey x) (valueKey y) with h | h | h
  · exact h
  · have hsame : Denotes y p := hx.beq (beq_iff.2 ⟨hx.isNaN, hy.isNaN, h⟩)
    exact absurd (hsame.eq hy) hlt.ne
  · exact absurd (hy.lt_of_valueKey_lt hx h) hlt.not_gt

theorem Denotes.le_iff (hx : Denotes x p) (hy : Denotes y q) : x ≤ y ↔ p ≤ q := by
  rw [← not_lt, ← hy.lt_iff hx]
  exact ⟨not_lt_of_le, fun h => by_contra fun hle => h (lt_of_not_le hx.isNaN hy.isNaN hle)⟩

theorem exists_denotes_between (hx : Denotes x p) (hz : Denotes z q) (hxy : x ≤ y) (hyz : y ≤ z) :
    ∃ r, Denotes y r ∧ p ≤ r ∧ r ≤ q := by
  obtain ⟨-, hnan, hlow⟩ := Double.le_iff.1 hxy
  have hhigh := (Double.le_iff.1 hyz).2.2
  rw [valueKey_eq_place hx.isNaN, valueKey_eq_place hnan] at hlow
  rw [valueKey_eq_place hnan, valueKey_eq_place hz.isNaN] at hhigh
  have hx' := place_bounds (isCanonical_unpack x) hx
  have hz' := place_bounds (isCanonical_unpack z) hz
  obtain ⟨r, hr⟩ : ∃ r, Denotes y r := by
    change ∃ r, IsValue y.toModel.unpack r
    cases hu : y.toModel.unpack with
    | notANumber =>
      change y.toModel.unpack.isNaN = false at hnan
      rw [hu] at hnan
      cases hnan
    | infinity s =>
      rw [hu] at hlow hhigh
      cases s
      · exact absurd (hx'.1.trans_le hlow) (lt_irrefl _)
      · exact absurd (hz'.2.trans_le hhigh) (lt_irrefl _)
    | zero s => exact ⟨0, rfl⟩
    | finite s m e hm => exact ⟨_, rfl⟩
  exact ⟨r, hr, (hx.le_iff hr).1 hxy, (hr.le_iff hz).1 hyz⟩

end Comparisons

/-! ## Natural numbers -/

/-- Above the numbers that are doubles, natural numbers are rounded. -/
theorem exists_denotes_ofNat {n : Nat} (h : InRange n) :
    ∃ d, Denotes (Float.ofNat n) d ∧ IsFaithful n d := by
  by_cases hsmall : n < 2 ^ 53
  · exact ⟨n, denotes_ofNat hsmall, .refl _⟩
  · have hn : 0 < n := by omega
    have hnot : ¬(n < 2 ^ 53 ∧ 0 ≤ 22) := fun h => hsmall h.1
    have hshift : n <<< 53 * 1 = n * 2 ^ 53 := by rw [Nat.mul_one, Nat.shiftLeft_eq]
    have hvalue : Sign.positive.apply (n <<< 53 * 1 : Nat) * (2 : ℚ) ^ (-53 + 0 : Int) = n := by
      rw [hshift]
      have hdigits := cast_apply_mul_two_pow .positive n 53 0
      rwa [zpow_zero, mul_one] at hdigits
    have htarget : (-53 + 0 : Int) ≤ target (n <<< 53 * 1) (-53 + 0) := by
      have hsame : target (n * 2 ^ 53) (-53 + 0) = target n 0 := target_mul_two_pow hn 53 0
      rw [hshift, hsame]
      unfold target
      omega
    have hrounding := isRounding_exact .positive htarget
    rw [hvalue] at hrounding
    obtain ⟨d, hd, hfaithful⟩ := hrounding h
    refine ⟨d, ?_, hfaithful⟩
    have hofNat : Float.ofNat n = ⟨Float.Model.ofScientific n 0⟩ := by
      show Float.ofScientific n false 0 = _
      rw [Float.ofScientific, dif_neg hnot]
      rfl
    rw [hofNat]
    have hlog : ¬(0 : Int) < -(2 ^ Format.binary64.exponentBits + n.log2) := by
      have hbits : (0 : Int) ≤ 2 ^ Format.binary64.exponentBits := by decide
      omega
    change IsValue (settle (ofScientific .binary64 n 0)) d
    unfold ofScientific
    rw [dif_neg hn.ne', if_neg (by decide), if_neg hlog, if_pos (by decide)]
    exact hd

/-! ## Results that are numbers -/

theorem isNaN_neg (x : Float) : (-x).isNaN = x.isNaN := by
  change (unpack .binary64 (UnpackedFloat.pack .binary64 x.toModel.unpack.neg)).isNaN =
    x.toModel.unpack.isNaN
  rw [isNaN_unpack_pack]
  cases x.toModel.unpack <;> rfl

/-- A product with a finite number other than zero may overflow, but it is a number. -/
theorem isNaN_mul_eq_false {x y : Float} {p : ℚ} (hx : Denotes x p) (hp : p ≠ 0)
    (hy : y.isNaN = false) : (x * y).isNaN = false := by
  have hunpacked : (mul .binary64 x.toModel.unpack y.toModel.unpack).isNaN = false := by
    have hcx := isCanonical_unpack x
    have hcy := isCanonical_unpack y
    change IsValue x.toModel.unpack p at hx
    change y.toModel.unpack.isNaN = false at hy
    cases hu : x.toModel.unpack with
    | notANumber => rw [hu] at hx; cases hx
    | infinity s => rw [hu] at hx; cases hx
    | zero s =>
      rw [hu] at hx
      exact absurd hx hp
    | finite s m e hm =>
      rw [hu] at hcx
      cases hv : y.toModel.unpack with
      | notANumber => rw [hv] at hy; cases hy
      | infinity t => rfl
      | zero t => rfl
      | finite t n f hn =>
        rw [hv] at hcy
        exact isNaN_roundWithAccuracy (s * t) (le_target_mul hcx hcy) .exact
  exact (isNaN_unpack_pack _).trans hunpacked

end TwoVenues.Double

import Mathlib.Algebra.Order.Ring.Int
import TwoVenues.Double.Order

/-!
# Comparisons of doubles

`≤` and `<` on `Float` are the order of `valueKey`, as long as neither side is not-a-number.

* `place` : where an unpacked double stands among the bit patterns;
* `IsCanonical` : the range of mantissa and exponent that a bit pattern unpacks to;
* `compare_eq_some` : canonical numbers compare as their places do;
* `le_iff`, `lt_iff` : the comparisons of `Float` in terms of `valueKey`;
* `valueKey_le_of_totalLe` : between numbers, the total order refines the numeric one;
* `lt_of_not_le`, `lt_of_le_of_lt`, `lt_of_lt_of_totalLe` : chains of comparisons between numbers;
* `isNaN_abs` : the absolute value of a number is a number.
-/

namespace TwoVenues.Double
open Float.Model (UnpackedFloat Format)
open Float.Model.UnpackedFloat

/-! ## Unpacked doubles -/

/-- The place of a magnitude with a sign: reflected below zero for the negative sign. -/
def signedPlace : Sign → Int → Int
  | .positive, magnitude => magnitude
  | .negative, magnitude => -1 - magnitude

/-- The place of an unpacked double among the bit patterns, the two zeros being one. -/
def place : UnpackedFloat → Int
  | .notANumber => 0
  | .zero _ => 0
  | .infinity s => signedPlace s (2047 * 2 ^ 52)
  | .finite s m e _ => signedPlace s ((e + 1074) * 2 ^ 52 + m)

/-- The mantissa has at most 53 digits, and fewer only at the least exponent. -/
def IsCanonical : UnpackedFloat → Prop
  | .finite _ m e _ => -1074 ≤ e ∧ e ≤ 971 ∧ m < 2 ^ 53 ∧ (2 ^ 52 ≤ m ∨ e = -1074)
  | _ => True

theorem compare_magnitude {m₁ m₂ : Nat} {e₁ e₂ : Int} (h₁ : m₁ < 2 ^ 53) (h₂ : m₂ < 2 ^ 53)
    (hn₁ : 2 ^ 52 ≤ m₁ ∨ e₁ = -1074) (hn₂ : 2 ^ 52 ≤ m₂ ∨ e₂ = -1074) (he₁ : -1074 ≤ e₁)
    (he₂ : -1074 ≤ e₂) :
    (compare e₁ e₂).then (compare m₁ m₂) =
      compare ((e₁ + 1074) * 2 ^ 52 + (m₁ : Int)) ((e₂ + 1074) * 2 ^ 52 + (m₂ : Int)) := by
  -- at the larger exponent the mantissa is normal, which makes up for a smaller mantissa
  rcases lt_trichotomy e₁ e₂ with he | rfl | he
  · have hlt : (e₁ + 1074) * 2 ^ 52 + (m₁ : Int) < (e₂ + 1074) * 2 ^ 52 + (m₂ : Int) := by omega
    rw [compare_lt_iff_lt.2 he, compare_lt_iff_lt.2 hlt]
    rfl
  · rw [compare_eq_iff_eq.2 rfl]
    rcases lt_trichotomy m₁ m₂ with hm | rfl | hm
    · rw [compare_lt_iff_lt.2 hm, compare_lt_iff_lt.2 (by omega)]
      rfl
    · rw [compare_eq_iff_eq.2 rfl, compare_eq_iff_eq.2 rfl]
      rfl
    · rw [compare_gt_iff_gt.2 hm, compare_gt_iff_gt.2 (by omega)]
      rfl
  · have hgt : (e₂ + 1074) * 2 ^ 52 + (m₂ : Int) < (e₁ + 1074) * 2 ^ 52 + (m₁ : Int) := by omega
    rw [compare_gt_iff_gt.2 he, compare_gt_iff_gt.2 hgt]
    rfl

theorem compare_signedPlace_negative (a b : Int) :
    compare (signedPlace .negative a) (signedPlace .negative b) = (compare a b).swap := by
  change compare (-1 - a) (-1 - b) = _
  rcases lt_trichotomy a b with h | rfl | h
  · rw [compare_lt_iff_lt.2 h, compare_gt_iff_gt.2 (by omega)]
    rfl
  · rw [compare_eq_iff_eq.2 rfl, compare_eq_iff_eq.2 rfl]
    rfl
  · rw [compare_gt_iff_gt.2 h, compare_lt_iff_lt.2 (by omega)]
    rfl

theorem infinity_bounds :
    place (.infinity .negative) < 0 ∧ 0 < place (.infinity .positive) := by
  decide

/-- A finite number stands between zero and the infinity of its sign. -/
theorem finite_bounds {s : Sign} {m : Nat} {e : Int} {hm : 0 < m}
    (h : IsCanonical (.finite s m e hm)) :
    match s with
    | .negative => place (.infinity .negative) < place (.finite s m e hm) ∧
        place (.finite s m e hm) < 0
    | .positive => 0 < place (.finite s m e hm) ∧
        place (.finite s m e hm) < place (.infinity .positive) := by
  obtain ⟨h1, h2, h3, -⟩ := h
  cases s
  · change -1 - 2047 * 2 ^ 52 < -1 - ((e + 1074) * 2 ^ 52 + (m : Int)) ∧
      -1 - ((e + 1074) * 2 ^ 52 + (m : Int)) < 0
    omega
  · change 0 < (e + 1074) * 2 ^ 52 + (m : Int) ∧ (e + 1074) * 2 ^ 52 + (m : Int) < 2047 * 2 ^ 52
    omega

theorem compare_eq_some {u v : UnpackedFloat} (hu : IsCanonical u) (hv : IsCanonical v)
    (hun : u.isNaN = false) (hvn : v.isNaN = false) :
    u.compare v = some (compare (place u) (place v)) := by
  have hlt {a b : Int} (h : a < b) : some Ordering.lt = some (compare a b) := by
    rw [compare_lt_iff_lt.2 h]
  have hgt {a b : Int} (h : b < a) : some Ordering.gt = some (compare a b) := by
    rw [compare_gt_iff_gt.2 h]
  obtain ⟨hneg, hpos⟩ := infinity_bounds
  cases u with
  | notANumber => cases hun
  | infinity s =>
    cases v with
    | notANumber => cases hvn
    | infinity t => cases s <;> cases t <;> rfl
    | zero t => cases s <;> rfl
    | finite t m e hm =>
      cases t <;> obtain ⟨hlow, hhigh⟩ := finite_bounds hv <;> cases s
      · exact hlt hlow
      · exact hgt (hhigh.trans hpos)
      · exact hlt (hneg.trans hlow)
      · exact hgt hhigh
  | zero s =>
    cases v with
    | notANumber => cases hvn
    | infinity t => cases t <;> rfl
    | zero t => rfl
    | finite t m e hm =>
      cases t <;> obtain ⟨hlow, hhigh⟩ := finite_bounds hv
      · exact hgt hhigh
      · exact hlt hlow
  | finite s m e hm =>
    cases v with
    | notANumber => cases hvn
    | infinity t =>
      cases s <;> obtain ⟨hlow, hhigh⟩ := finite_bounds hu <;> cases t
      · exact hgt hlow
      · exact hlt (hhigh.trans hpos)
      · exact hgt (hneg.trans hlow)
      · exact hlt hhigh
    | zero t =>
      cases s <;> obtain ⟨hlow, hhigh⟩ := finite_bounds hu
      · exact hlt hhigh
      · exact hgt hlow
    | finite t m' e' hm' =>
      have hmag := compare_magnitude hu.2.2.1 hv.2.2.1 hu.2.2.2 hv.2.2.2 hu.1 hv.1
      cases s <;> cases t
      · change some ((compare e e').then (compare m m')).swap = some (compare
          (signedPlace .negative ((e + 1074) * 2 ^ 52 + m))
          (signedPlace .negative ((e' + 1074) * 2 ^ 52 + m')))
        rw [compare_signedPlace_negative, hmag]
      · exact hlt ((finite_bounds hu).2.trans (finite_bounds hv).1)
      · exact hgt ((finite_bounds hv).2.trans (finite_bounds hu).1)
      · change some ((compare e e').then (compare m m')) = _
        rw [hmag]
        rfl

/-! ## Bit patterns -/

section Fields
variable (b : BitVec 64)

theorem toNat_unpackExponent :
    (@unpackExponent Format.binary64 b).toNat = b.toNat / 2 ^ 52 % 2 ^ 11 := by
  simp [unpackExponent, BitVec.extractLsb, BitVec.extractLsb'_toNat, Nat.shiftRight_eq_div_pow]

theorem toNat_unpackMantissa :
    (@unpackMantissa Format.binary64 b).toNat = b.toNat % 2 ^ 52 := by
  simp [unpackMantissa, BitVec.extractLsb, BitVec.extractLsb'_toNat]

theorem ofBitVec_unpackSign : Sign.ofBitVec (@unpackSign Format.binary64 b) =
    if b.toNat < 2 ^ 63 then .positive else .negative := by
  have hsign : (@unpackSign Format.binary64 b).toNat = b.toNat / 2 ^ 63 % 2 := by
    change (b.extractLsb 63 63).toNat = _
    simp [BitVec.extractLsb, BitVec.extractLsb'_toNat, Nat.shiftRight_eq_div_pow]
  have hb := b.isLt
  unfold Sign.ofBitVec
  by_cases h : b.toNat < 2 ^ 63
  · rw [if_pos h, if_pos (BitVec.eq_of_toNat_eq (by rw [hsign, BitVec.toNat_ofNat]; omega))]
  · rw [if_neg h, if_neg]
    intro h0
    rw [h0, BitVec.toNat_ofNat] at hsign
    omega

theorem toNat_normalMantissa (mantissa : BitVec 52) :
    (1#1 ++ mantissa).toNat = 2 ^ 52 + mantissa.toNat := by
  rw [BitVec.toNat_append, ← Nat.shiftLeft_add_eq_or_of_lt mantissa.isLt, Nat.shiftLeft_eq]
  rfl

/-- The place that a bit pattern stands for. -/
def bitsPlace (bits : Nat) : Int :=
  if bits % 2 ^ 63 = 0 then 0 else if bits < 2 ^ 63 then bits else 2 ^ 63 - 1 - bits

theorem signedPlace_unpackSign (h : 0 < b.toNat % 2 ^ 63) :
    signedPlace (Sign.ofBitVec (@unpackSign Format.binary64 b)) (b.toNat % 2 ^ 63 : Nat) =
      bitsPlace b.toNat := by
  have hb := b.isLt
  rw [ofBitVec_unpackSign, bitsPlace, if_neg (Nat.ne_of_gt h)]
  by_cases hs : b.toNat < 2 ^ 63
  · rw [if_pos hs, if_pos hs, Nat.mod_eq_of_lt hs]
    rfl
  · rw [if_neg hs, if_neg hs]
    change -1 - _ = _
    omega

theorem unpack_spec : IsCanonical (unpack .binary64 b) ∧
    ((unpack .binary64 b).isNaN = false → place (unpack .binary64 b) = bitsPlace b.toNat) := by
  have hE := toNat_unpackExponent b
  have hM := toNat_unpackMantissa b
  have hb := b.isLt
  have hbias : (Format.binary64.exponentBias : Int) = 1023 := rfl
  have hwidth : (Format.binary64.mantissaBitsWithoutImplicit : Int) = 52 := rfl
  unfold unpack
  by_cases hmax : @unpackExponent Format.binary64 b = -1#_
  · rw [if_pos hmax]
    have hE' : (@unpackExponent Format.binary64 b).toNat = 2047 := by rw [hmax]; rfl
    by_cases hm : @unpackMantissa Format.binary64 b = 0#_
    · rw [if_pos hm]
      have hM' : (@unpackMantissa Format.binary64 b).toNat = 0 := by rw [hm]; rfl
      refine ⟨trivial, fun _ => ?_⟩
      rw [← signedPlace_unpackSign b (by omega)]
      change signedPlace _ _ = signedPlace _ _
      congr 1
      omega
    · rw [if_neg hm]
      exact ⟨trivial, fun h => by cases h⟩
  · rw [if_neg hmax]
    have hEmax : (@unpackExponent Format.binary64 b).toNat ≠ 2047 := fun h =>
      hmax (BitVec.eq_of_toNat_eq h)
    by_cases hzero : @unpackExponent Format.binary64 b = 0#_
    · rw [if_pos hzero]
      have hE' : (@unpackExponent Format.binary64 b).toNat = 0 := by rw [hzero]; rfl
      by_cases hm : @unpackMantissa Format.binary64 b = 0#_
      · rw [dif_pos hm]
        have hM' : (@unpackMantissa Format.binary64 b).toNat = 0 := by rw [hm]; rfl
        refine ⟨trivial, fun _ => ?_⟩
        rw [bitsPlace, if_pos (by omega)]
        rfl
      · rw [dif_neg hm]
        have hM' : (@unpackMantissa Format.binary64 b).toNat ≠ 0 := fun h =>
          hm (BitVec.eq_of_toNat_eq h)
        refine ⟨⟨by omega, by omega, by omega, by omega⟩, fun _ => ?_⟩
        rw [← signedPlace_unpackSign b (by omega)]
        change signedPlace _ _ = signedPlace _ _
        congr 1
        omega
    · rw [if_neg hzero]
      have hE' : (@unpackExponent Format.binary64 b).toNat ≠ 0 := fun h =>
        hzero (BitVec.eq_of_toNat_eq h)
      have hnormal := toNat_normalMantissa (@unpackMantissa Format.binary64 b)
      refine ⟨⟨by omega, by omega, by omega, by omega⟩, fun _ => ?_⟩
      rw [← signedPlace_unpackSign b (by omega)]
      change signedPlace _ _ = signedPlace _ _
      congr 1
      omega

end Fields

/-! ## Comparisons of `Float` -/

theorem beq_zero_iff {x : Float} (h : x.isNaN = false) :
    (x == 0.0) = true ↔ bitsPlace x.toBits.toNat = 0 := by
  obtain ⟨hcanonical, hplace⟩ := unpack_spec x.toBits.toBitVec
  have hzero : (0.0 : Float).toModel.unpack = .zero .positive := rfl
  have hcompare := compare_eq_some (v := .zero .positive) hcanonical trivial h rfl
  change (x.toModel.unpack.compare (0.0 : Float).toModel.unpack == some .eq) = true ↔ _
  rw [hzero, show x.toModel.unpack = unpack .binary64 x.toBits.toBitVec from rfl, hcompare,
    hplace h, beq_iff_eq, Option.some.injEq, compare_eq_iff_eq]
  rfl

theorem valueKey_eq_place {x : Float} (h : x.isNaN = false) :
    valueKey x = place x.toModel.unpack := by
  have hplace : place x.toModel.unpack = bitsPlace x.toBits.toNat :=
    (unpack_spec x.toBits.toBitVec).2 h
  rw [hplace, valueKey]
  by_cases hzero : x == 0.0
  · rw [if_pos hzero, (beq_zero_iff h).1 hzero]
  · have hbits : ¬x.toBits.toNat % 2 ^ 63 = 0 := fun h0 =>
      hzero ((beq_zero_iff h).2 (if_pos h0))
    rw [if_neg hzero, bitsPlace, if_neg hbits]
    rfl

theorem compare_unpack {x y : Float} (hx : x.isNaN = false) (hy : y.isNaN = false) :
    x.toModel.unpack.compare y.toModel.unpack = some (compare (valueKey x) (valueKey y)) := by
  rw [valueKey_eq_place hx, valueKey_eq_place hy]
  exact compare_eq_some (unpack_spec x.toBits.toBitVec).1 (unpack_spec y.toBits.toBitVec).1 hx hy

theorem compare_unpack_eq_none {x y : Float} (h : x.isNaN = true ∨ y.isNaN = true) :
    x.toModel.unpack.compare y.toModel.unpack = none := by
  change x.toModel.unpack.isNaN = true ∨ y.toModel.unpack.isNaN = true at h
  cases hx : x.toModel.unpack <;> cases hy : y.toModel.unpack
  all_goals first | rfl | (rw [hx, hy] at h; rcases h with h | h <;> cases h)

theorem le_iff {x y : Float} :
    x ≤ y ↔ x.isNaN = false ∧ y.isNaN = false ∧ valueKey x ≤ valueKey y := by
  change decide (Option.any (·.isLE) (x.toModel.unpack.compare y.toModel.unpack) = true) = true ↔ _
  rw [decide_eq_true_iff]
  cases hx : x.isNaN
  · cases hy : y.isNaN
    · rw [compare_unpack hx hy, Option.any_some, Std.isLE_compare]
      exact ⟨fun h => ⟨rfl, rfl, h⟩, fun h => h.2.2⟩
    · simp [compare_unpack_eq_none (Or.inr hy)]
  · simp [compare_unpack_eq_none (Or.inl hx)]

theorem lt_iff {x y : Float} :
    x < y ↔ x.isNaN = false ∧ y.isNaN = false ∧ valueKey x < valueKey y := by
  change decide ((x.toModel.unpack.compare y.toModel.unpack == some .lt) = true) = true ↔ _
  rw [decide_eq_true_iff, beq_iff_eq]
  cases hx : x.isNaN
  · cases hy : y.isNaN
    · rw [compare_unpack hx hy, Option.some.injEq, compare_lt_iff_lt]
      exact ⟨fun h => ⟨rfl, rfl, h⟩, fun h => h.2.2⟩
    · simp [compare_unpack_eq_none (Or.inr hy)]
  · simp [compare_unpack_eq_none (Or.inl hx)]

/-! ## Comparisons in the total order -/

theorem beq_zero_iff_totalKey {x : Float} (h : x.isNaN = false) :
    (x == 0.0) = true ↔ totalKey x = 0 ∨ totalKey x = -1 := by
  have hbits := x.toBits.toNat_lt
  rw [beq_zero_iff h]
  unfold bitsPlace totalKey
  dsimp only
  split <;> split <;> omega

/-- The numeric order only joins the two zeros, which are neighbours in the total order. -/
theorem valueKey_le_of_totalLe {x y : Float} (hx : x.isNaN = false) (hy : y.isNaN = false)
    (h : totalLe x y) : valueKey x ≤ valueKey y := by
  have hx0 := beq_zero_iff_totalKey hx
  have hy0 := beq_zero_iff_totalKey hy
  have hle : totalKey x ≤ totalKey y := of_decide_eq_true h
  unfold valueKey
  split
  · next hzero =>
    rw [hx0] at hzero
    split
    · omega
    · next hpositive =>
      rw [hy0] at hpositive
      omega
  · split
    · next hzero =>
      rw [hy0] at hzero
      omega
    · exact hle

section Chains
variable {x y z : Float}

theorem le_of_lt (h : x < y) : x ≤ y := by
  rw [lt_iff] at h
  exact le_iff.2 ⟨h.1, h.2.1, Int.le_of_lt h.2.2⟩

theorem lt_of_not_le (hx : x.isNaN = false) (hy : y.isNaN = false) (h : ¬x ≤ y) : y < x := by
  rw [le_iff] at h
  exact lt_iff.2 ⟨hy, hx, Int.not_le.1 fun hle => h ⟨hx, hy, hle⟩⟩

theorem lt_of_le_of_lt (hxy : x ≤ y) (hyz : y < z) : x < z := by
  rw [le_iff] at hxy
  rw [lt_iff] at hyz
  exact lt_iff.2 ⟨hxy.1, hyz.2.1, Int.lt_of_le_of_lt hxy.2.2 hyz.2.2⟩

theorem lt_of_lt_of_totalLe (hz : z.isNaN = false) (hxy : x < y) (hyz : totalLe y z) :
    x < z := by
  rw [lt_iff] at hxy
  have hle := valueKey_le_of_totalLe hxy.2.1 hz hyz
  exact lt_iff.2 ⟨hxy.1, hz, Int.lt_of_lt_of_le hxy.2.2 hle⟩

theorem not_lt_of_le (h : y ≤ x) : ¬x < y := by
  rw [lt_iff]
  rintro ⟨-, -, hlt⟩
  exact absurd (le_iff.1 h).2.2 (Int.not_le.2 hlt)

end Chains

/-! ## Absolute values -/

theorem isNaN_unpack_iff (b : BitVec 64) : (unpack .binary64 b).isNaN = true ↔
    @unpackExponent Format.binary64 b = -1#_ ∧
      @unpackMantissa Format.binary64 b ≠ 0#_ := by
  unfold unpack
  by_cases hmax : @unpackExponent Format.binary64 b = -1#_
  · rw [if_pos hmax]
    by_cases hm : @unpackMantissa Format.binary64 b = 0#_
    · rw [if_pos hm]
      exact ⟨fun h => (by cases h), fun h => absurd hm h.2⟩
    · rw [if_neg hm]
      exact ⟨fun _ => ⟨hmax, hm⟩, fun _ => rfl⟩
  · rw [if_neg hmax]
    refine ⟨fun h => ?_, fun h => absurd h.1 hmax⟩
    by_cases hzero : @unpackExponent Format.binary64 b = 0#_
    · rw [if_pos hzero] at h
      by_cases hm : @unpackMantissa Format.binary64 b = 0#_
      · rw [dif_pos hm] at h
        cases h
      · rw [dif_neg hm] at h
        cases h
    · rw [if_neg hzero] at h
      cases h

theorem isNaN_unpack_packComponents (s : Sign) (e : BitVec 11) (m : BitVec 52) :
    (unpack .binary64 (packComponents .binary64 s e m)).isNaN = true ↔ e = -1#_ ∧ m ≠ 0#_ := by
  rw [isNaN_unpack_iff, unpackExponent_packComponents, unpackMantissa_packComponents]

/-- Packing keeps numbers numbers. -/
theorem isNaN_unpack_pack (u : UnpackedFloat) :
    (unpack .binary64 (UnpackedFloat.pack .binary64 u)).isNaN = u.isNaN := by
  cases u with
  | notANumber => exact (isNaN_unpack_packComponents ..).2 ⟨rfl, by decide⟩
  | infinity s => exact Bool.eq_false_iff.2 fun h => ((isNaN_unpack_packComponents ..).1 h).2 rfl
  | zero s => exact Bool.eq_false_iff.2 fun h => ((isNaN_unpack_packComponents ..).1 h).2 rfl
  | finite s m e hm =>
    refine Bool.eq_false_iff.2 fun h => ?_
    unfold UnpackedFloat.pack at h
    dsimp only at h
    split at h
    · exact ((isNaN_unpack_packComponents ..).1 h).2 rfl
    · next hlt =>
      split at h
      · -- a biased exponent below the largest is not the field of not-a-number
        have hmax := congrArg BitVec.toNat ((isNaN_unpack_packComponents ..).1 h).1
        rw [BitVec.toNat_ofNat] at hmax
        change _ % 2 ^ 11 = 2047 at hmax
        change ¬2 ^ 11 ≤ _ at hlt
        omega
      · have hmax := congrArg BitVec.toNat ((isNaN_unpack_packComponents ..).1 h).1
        cases hmax

theorem isNaN_abs (x : Float) : x.abs.isNaN = x.isNaN := by
  change (unpack .binary64 (UnpackedFloat.pack .binary64 x.toModel.unpack.abs)).isNaN =
    x.toModel.unpack.isNaN
  rw [isNaN_unpack_pack]
  cases x.toModel.unpack <;> rfl

end TwoVenues.Double

import Mathlib.Algebra.Order.Ring.Int
import Mathlib.Data.Nat.Log
import TwoVenues.Proofs.Double.NumericOrder

/-!
# Rounding to a double

A result `m · 2 ^ e` is cut to the exponent `target m e`, at which its mantissa has 53 digits or the
exponent is least, and the mantissa is rounded there. Rounding up may carry into a 54th digit.

* `cut m k acc` : the mantissa `m / 2 ^ k`, rounded to nearest, half to even;
* `roundWithAccuracy_eq_finite`, `roundWithAccuracy_eq_carry`, `roundWithAccuracy_eq_zero` : the
  rounded result in terms of `cut`;
* `IsRounded` : the mantissas and exponents that results have before they overflow
  (`roundWithAccuracy_cases`);
* `settle` : a result as it is packed and unpacked again (`settle_rounded`).
-/

namespace TwoVenues.Double
open Float.Model (UnpackedFloat Format)
open Float.Model.UnpackedFloat

/-! ## Cutting a mantissa -/

/-- The mantissa without its last `k` digits, rounded to nearest, half to even. -/
def cut (m k : Nat) (acc : Accuracy) : Nat :=
  (ExtendedMantissa.ofMantissaAndAccuracy m acc >>> k).roundedMantissa

theorem shiftRight_succ (em : ExtendedMantissa) (k : Nat) :
    em >>> (k + 1) = (em >>> k).shiftRightOne := rfl

theorem mantissa_shiftRight (em : ExtendedMantissa) (k : Nat) :
    (em >>> k).mantissa = em.mantissa / 2 ^ k := by
  induction k with
  | zero => exact (Nat.div_one _).symm
  | succ k ih =>
    rw [shiftRight_succ, show (em >>> k).shiftRightOne.mantissa = (em >>> k).mantissa / 2 from rfl,
      ih, Nat.div_div_eq_div_mul, Nat.pow_succ]

theorem le_roundedMantissa (em : ExtendedMantissa) : em.mantissa ≤ em.roundedMantissa := by
  obtain ⟨m, r, s⟩ := em
  cases r <;> cases s <;> simp [ExtendedMantissa.roundedMantissa, ExtendedMantissa.accuracy,
    Accuracy.roundToNearestEven]

theorem roundedMantissa_le (em : ExtendedMantissa) : em.roundedMantissa ≤ em.mantissa + 1 := by
  obtain ⟨m, r, s⟩ := em
  cases r <;> cases s <;> simp [ExtendedMantissa.roundedMantissa, ExtendedMantissa.accuracy,
    Accuracy.roundToNearestEven]
  omega

theorem mantissa_ofMantissaAndAccuracy (m : Nat) (acc : Accuracy) :
    (ExtendedMantissa.ofMantissaAndAccuracy m acc).mantissa = m := by
  cases acc with
  | exact => rfl
  | inexact o => cases o <;> rfl

theorem cut_bounds (m k : Nat) (acc : Accuracy) :
    m / 2 ^ k ≤ cut m k acc ∧ cut m k acc ≤ m / 2 ^ k + 1 := by
  have hmantissa : (ExtendedMantissa.ofMantissaAndAccuracy m acc >>> k).mantissa = m / 2 ^ k := by
    rw [mantissa_shiftRight, mantissa_ofMantissaAndAccuracy]
  rw [← hmantissa]
  exact ⟨le_roundedMantissa _, roundedMantissa_le _⟩

/-- Nothing is lost where the digits that are cut off are zero. -/
theorem shiftRight_exact (q k : Nat) :
    (⟨q * 2 ^ k, false, false⟩ : ExtendedMantissa) >>> k = ⟨q, false, false⟩ := by
  induction k generalizing q with
  | zero =>
    rw [Nat.pow_zero, Nat.mul_one]
    rfl
  | succ k ih =>
    rw [shiftRight_succ, Nat.pow_succ, Nat.mul_comm (2 ^ k), ← Nat.mul_assoc, ih]
    show (⟨q * 2 / 2, q * 2 % 2 != 0, false⟩ : ExtendedMantissa) = _
    rw [Nat.mul_div_cancel _ (by decide), Nat.mul_mod_left]
    rfl

theorem cut_exact (q k : Nat) : cut (q * 2 ^ k) k .exact = q := by
  show ((⟨q * 2 ^ k, false, false⟩ : ExtendedMantissa) >>> k).roundedMantissa = q
  rw [shiftRight_exact]
  rfl

/-! ## Rounding -/

/-- The exponent that a mantissa with its exponent is cut to. -/
def target (m : Nat) (e : Int) : Int := max (m.log2 + 1 + e - 53) (-1074)

theorem div_target_lt (m : Nat) (e : Int) : m / 2 ^ (target m e - e).toNat < 2 ^ 53 := by
  have hlog : m.log2 + 1 ≤ 53 + (target m e - e).toNat := by
    unfold target
    omega
  have hlt : m < 2 ^ 53 * 2 ^ (target m e - e).toNat := by
    rw [← Nat.pow_add]
    exact Nat.lt_log2_self.trans_le (Nat.pow_le_pow_right (by decide) hlog)
  exact Nat.div_lt_of_lt_mul (by rwa [Nat.mul_comm])

theorem le_div_target {m : Nat} {e : Int} (he : e ≤ target m e) (ht : target m e ≠ -1074) :
    2 ^ 52 ≤ m / 2 ^ (target m e - e).toNat := by
  have hlog : 52 + (target m e - e).toNat = m.log2 := by
    unfold target at *
    omega
  have hm : m ≠ 0 := by
    rintro rfl
    rw [Nat.log2_zero] at hlog
    omega
  rw [Nat.le_div_iff_mul_le (Nat.two_pow_pos _), ← Nat.pow_add, hlog]
  exact Nat.log2_self_le hm

/-- A mantissa of at most 53 digits is not cut again. -/
theorem target_le_of_lt {r : Nat} {e : Int} (hr : r < 2 ^ 53) (he : -1074 ≤ e) :
    target r e ≤ e := by
  have hlog : r.log2 < 53 := by
    by_cases h0 : r = 0
    · subst h0
      decide
    · exact (Nat.log2_lt h0).2 hr
  unfold target
  omega

theorem neg_le_target (m : Nat) (e : Int) : -1074 ≤ target m e := by
  unfold target
  omega

theorem finite_congr {s t : Sign} {m n : Nat} {e f : Int} {hm : 0 < m} {hn : 0 < n} (hs : s = t)
    (h : m = n) (h' : e = f) : UnpackedFloat.finite s m e hm = .finite t n f hn := by
  subst hs h h'
  rfl

section RoundWithAccuracy
variable (s : Sign) {m r : Nat} {e : Int} {acc : Accuracy}

/-- The mantissa that is left when a rounded mantissa is cut once more, at its own exponent. -/
theorem mantissa_shiftToTarget (r : Nat) (t : Int) :
    (shiftToTargetExponent .binary64 r t .exact).1.mantissa =
      r / 2 ^ (target r t - t).toNat := by
  show (ExtendedMantissa.ofMantissaAndAccuracy r .exact >>> (target r t - t).toNat).mantissa = _
  rw [mantissa_shiftRight, mantissa_ofMantissaAndAccuracy]

theorem roundWithAccuracy_of_pos {q : Nat} {f : Int} (hq : 0 < q) (he : e ≤ target m e)
    (hr : cut m (target m e - e).toNat acc = r)
    (hmantissa : r / 2 ^ (target r (target m e) - target m e).toNat = q)
    (hexponent : target m e + (target r (target m e) - target m e).toNat = f) :
    roundWithAccuracy .binary64 s m e acc = .finite s q f hq := by
  subst hr
  have hexp : e + ((target m e - e).toNat : Int) = target m e := by omega
  have hsecond : (shiftToTargetExponent .binary64 (cut m (target m e - e).toNat acc)
      (e + (target m e - e).toNat) .exact).1.mantissa = q := by
    rw [hexp, mantissa_shiftToTarget, hmantissa]
  have hthird : (shiftToTargetExponent .binary64 (cut m (target m e - e).toNat acc)
      (e + (target m e - e).toNat) .exact).2 = f := by
    rw [hexp]
    exact hexponent
  exact (dif_neg fun h0 => Nat.ne_of_gt hq (hsecond.symm.trans h0)).trans
    (finite_congr rfl hsecond hthird)

theorem roundWithAccuracy_eq_zero (he : e ≤ target m e)
    (hr : cut m (target m e - e).toNat acc = 0) :
    roundWithAccuracy .binary64 s m e acc = .zero s := by
  have hexp : e + ((target m e - e).toNat : Int) = target m e := by omega
  have hsecond : (shiftToTargetExponent .binary64 (cut m (target m e - e).toNat acc)
      (e + (target m e - e).toNat) .exact).1.mantissa = 0 := by
    rw [hexp, hr, mantissa_shiftToTarget, Nat.zero_div]
  exact dif_pos hsecond

theorem roundWithAccuracy_eq_finite (he : e ≤ target m e) (hpos : 0 < r)
    (hr : cut m (target m e - e).toNat acc = r) (hlt : r < 2 ^ 53) :
    roundWithAccuracy .binary64 s m e acc = .finite s r (target m e) hpos := by
  have hshift : (target r (target m e) - target m e).toNat = 0 := by
    have := target_le_of_lt hlt (neg_le_target m e)
    omega
  refine roundWithAccuracy_of_pos s hpos he hr ?_ ?_
  · rw [hshift, Nat.pow_zero, Nat.div_one]
  · rw [hshift]
    exact Int.add_zero _

/-- A carry into a 54th digit goes into the exponent. -/
theorem roundWithAccuracy_eq_carry (he : e ≤ target m e)
    (hr : cut m (target m e - e).toNat acc = 2 ^ 53) :
    roundWithAccuracy .binary64 s m e acc = .finite s (2 ^ 52) (target m e + 1) (by decide) := by
  have hlow := neg_le_target m e
  have hshift : (target (2 ^ 53) (target m e) - target m e).toNat = 1 := by
    have htop : target (2 ^ 53) (target m e) = target m e + 1 := by
      rw [target, Nat.log2_two_pow]
      omega
    omega
  refine roundWithAccuracy_of_pos s (by decide) he hr ?_ ?_
  · rw [hshift]
    rfl
  · rw [hshift]
    rfl

end RoundWithAccuracy

/-! ## Rounded results -/

/-- The mantissa has at most 53 digits, and fewer only at the least exponent. The exponent may be
too large for a double. -/
def IsRounded : UnpackedFloat → Prop
  | .finite _ m e _ => -1074 ≤ e ∧ m < 2 ^ 53 ∧ (2 ^ 52 ≤ m ∨ e = -1074)
  | _ => True

/-- The result is the cut mantissa; one of 54 digits is written with 53. -/
theorem roundWithAccuracy_cases (s : Sign) {m : Nat} {e : Int} (he : e ≤ target m e)
    (acc : Accuracy) :
    cut m (target m e - e).toNat acc = 0 ∧ roundWithAccuracy .binary64 s m e acc = .zero s ∨
    ∃ q t hq, roundWithAccuracy .binary64 s m e acc = .finite s q t hq ∧
      IsRounded (.finite s q t hq) ∧ target m e ≤ t ∧
      cut m (target m e - e).toNat acc = q * 2 ^ (t - target m e).toNat := by
  have hlow := neg_le_target m e
  have hcut := cut_bounds m (target m e - e).toNat acc
  have hdiv := div_target_lt m e
  rcases Nat.lt_trichotomy (cut m (target m e - e).toNat acc) (2 ^ 53) with hlt | heq | hgt
  · rcases Nat.eq_zero_or_pos (cut m (target m e - e).toNat acc) with h0 | hpos
    · exact Or.inl ⟨h0, roundWithAccuracy_eq_zero s he h0⟩
    · refine Or.inr ⟨_, _, hpos, roundWithAccuracy_eq_finite s he hpos rfl hlt, ⟨hlow, hlt, ?_⟩,
        Int.le_refl _, ?_⟩
      · by_cases ht : target m e = -1074
        · exact Or.inr ht
        · exact Or.inl ((le_div_target he ht).trans hcut.1)
      · rw [Int.sub_self]
        exact (Nat.mul_one _).symm
  · refine Or.inr ⟨_, _, by decide, roundWithAccuracy_eq_carry s he heq,
      ⟨by omega, by decide, Or.inl (Nat.le_refl _)⟩, by omega, ?_⟩
    rw [heq, show target m e + 1 - target m e = 1 by omega]
    rfl
  · omega

/-! ## Scaling a mantissa up -/

theorem log2_mul_two_pow {m : Nat} (hm : 0 < m) (k : Nat) :
    (m * 2 ^ k).log2 = m.log2 + k := by
  induction k with
  | zero => simp
  | succ k ih =>
    have hpos : m * 2 ^ k ≠ 0 := Nat.ne_of_gt (Nat.mul_pos hm (Nat.two_pow_pos k))
    rw [show m * 2 ^ (k + 1) = 2 * (m * 2 ^ k) by rw [Nat.pow_succ, ← Nat.mul_assoc, Nat.mul_comm],
      Nat.log2_two_mul hpos, ih, Nat.add_assoc]

/-- The target is that of the number, in whichever way it is written. -/
theorem target_mul_two_pow {m : Nat} (hm : 0 < m) (k : Nat) (e : Int) :
    target (m * 2 ^ k) (e - k) = target m e := by
  unfold target
  rw [log2_mul_two_pow hm]
  omega

/-- Rounding brings the exponent down to the target, if it is above, and cuts there. -/
theorem round_eq (s : Sign) (m : Nat) (e : Int) :
    round .binary64 s m e = roundWithAccuracy .binary64 s (m * 2 ^ (e - target m e).toNat)
      (e - (e - target m e).toNat) .exact := by
  rw [← Nat.shiftLeft_eq]
  rfl

theorem le_target_scaled {m : Nat} (hm : 0 < m) (e : Int) :
    e - ((e - target m e).toNat : Int) ≤
      target (m * 2 ^ (e - target m e).toNat) (e - (e - target m e).toNat) := by
  rw [target_mul_two_pow hm]
  omega

/-! ## Packing -/

/-- A result as it is packed and unpacked again. -/
def settle (u : UnpackedFloat) : UnpackedFloat := unpack .binary64 (UnpackedFloat.pack .binary64 u)

theorem toNat_packComponents (s : Sign) (e : BitVec 11) (m : BitVec 52) :
    (packComponents .binary64 s e m).toNat =
      (s.toBitVec.toNat * 2 ^ 11 + e.toNat) * 2 ^ 52 + m.toNat := by
  show (s.toBitVec ++ e ++ m).toNat = _
  rw [BitVec.toNat_append, BitVec.toNat_append, ← Nat.shiftLeft_add_eq_or_of_lt m.isLt,
    ← Nat.shiftLeft_add_eq_or_of_lt e.isLt, Nat.shiftLeft_eq, Nat.shiftLeft_eq]

theorem unpackSign_packComponents (s : Sign) (e : BitVec 11) (m : BitVec 52) :
    Sign.ofBitVec (@unpackSign Format.binary64 (packComponents .binary64 s e m)) = s := by
  have he := e.isLt
  have hm := m.isLt
  rw [ofBitVec_unpackSign, toNat_packComponents]
  cases s with
  | positive =>
    rw [if_pos]
    show (0 * 2 ^ 11 + e.toNat) * 2 ^ 52 + m.toNat < 2 ^ 63
    omega
  | negative =>
    rw [if_neg]
    show ¬(1 * 2 ^ 11 + e.toNat) * 2 ^ 52 + m.toNat < 2 ^ 63
    omega

theorem unpack_normal (s : Sign) {e : BitVec 11} (m : BitVec 52) (h0 : 0 < e.toNat)
    (hmax : e.toNat < 2047) :
    ∃ h, unpack .binary64 (packComponents .binary64 s e m) =
      .finite s (2 ^ 52 + m.toNat) (e.toNat - 1075) h := by
  have hexponent := @unpackExponent_packComponents .binary64 s e m
  have hmantissa := @unpackMantissa_packComponents .binary64 s e m
  have hsign := unpackSign_packComponents s e m
  generalize packComponents .binary64 s e m = b at *
  have hnotmax : @unpackExponent Format.binary64 b ≠ -1#_ := by
    intro h
    have := congrArg BitVec.toNat (hexponent.symm.trans h)
    change e.toNat = 2047 at this
    omega
  have hnotzero : @unpackExponent Format.binary64 b ≠ 0#_ := by
    intro h
    have := congrArg BitVec.toNat (hexponent.symm.trans h)
    change e.toNat = 0 at this
    omega
  unfold unpack
  rw [if_neg hnotmax, if_neg hnotzero]
  refine ⟨by omega, finite_congr hsign ?_ ?_⟩
  · rw [hmantissa]
    exact toNat_normalMantissa m
  · rw [hexponent]
    rfl

theorem unpack_subnormal (s : Sign) {m : BitVec 52} (h0 : 0 < m.toNat) :
    ∃ h, unpack .binary64 (packComponents .binary64 s 0#11 m) = .finite s m.toNat (-1074) h := by
  have hexponent := @unpackExponent_packComponents .binary64 s 0#11 m
  have hmantissa := @unpackMantissa_packComponents .binary64 s 0#11 m
  have hsign := unpackSign_packComponents s 0#11 m
  generalize packComponents .binary64 s 0#11 m = b at *
  have hnotmax : @unpackExponent Format.binary64 b ≠ -1#_ := by
    intro h
    have := congrArg BitVec.toNat (hexponent.symm.trans h)
    change 0 = 2047 at this
    omega
  have hnotzero : @unpackMantissa Format.binary64 b ≠ 0#_ := by
    intro h
    have := congrArg BitVec.toNat (hmantissa.symm.trans h)
    change m.toNat = 0 at this
    omega
  unfold unpack
  rw [if_neg hnotmax, if_pos hexponent, dif_neg hnotzero]
  refine ⟨h0, finite_congr hsign ?_ ?_⟩
  · rw [hmantissa]
  · rw [hexponent]
    rfl

theorem pack_finite (s : Sign) (m : Nat) (e : Int) (hm : 0 < m) :
    UnpackedFloat.pack .binary64 (.finite s m e hm) =
      if 2 ^ 11 ≤ (e + 1023 + 52).toNat + 1 then packedInfinity .binary64 s
      else if m.log2 + 1 = 53 then
        packComponents .binary64 s (BitVec.ofNat 11 (e + 1023 + 52).toNat) (BitVec.ofNat 52 m)
      else packComponents .binary64 s 0#11 (BitVec.ofNat 52 m) := rfl

theorem settle_zero (s : Sign) : settle (.zero s) = .zero s := by
  cases s <;> rfl

theorem settle_infinity (s : Sign) : settle (.infinity s) = .infinity s := by
  cases s <;> rfl

theorem settle_notANumber : settle .notANumber = .notANumber := rfl

section Settle
variable {s : Sign} {m : Nat} {e : Int} {hm : 0 < m}

/-- A result whose exponent is too large overflows. -/
theorem settle_overflow (he : 971 < e) : settle (.finite s m e hm) = .infinity s := by
  rw [settle, pack_finite, if_pos (by omega)]
  exact settle_infinity s

theorem settle_of_normal (he : e ≤ 971) (hlow : -1074 ≤ e) (hm52 : 2 ^ 52 ≤ m)
    (hm53 : m < 2 ^ 53) : settle (.finite s m e hm) = .finite s m e hm := by
  have hlog : m.log2 + 1 = 53 := by
    rw [(Nat.log2_eq_iff (Nat.ne_of_gt hm)).2 ⟨hm52, hm53⟩]
  have hfield : (BitVec.ofNat 11 (e + 1023 + 52).toNat).toNat = (e + 1023 + 52).toNat := by
    rw [BitVec.toNat_ofNat, Nat.mod_eq_of_lt (by omega)]
  rw [settle, pack_finite, if_neg (by omega), if_pos hlog]
  obtain ⟨_, hunpack⟩ := unpack_normal s (BitVec.ofNat 52 m) (by rw [hfield]; omega)
    (by rw [hfield]; omega)
  rw [hunpack]
  refine finite_congr rfl ?_ ?_
  · rw [BitVec.toNat_ofNat]
    omega
  · rw [hfield]
    omega

theorem settle_of_subnormal (h : m < 2 ^ 52) :
    settle (.finite s m (-1074) hm) = .finite s m (-1074) hm := by
  have hlog : ¬m.log2 + 1 = 53 := by
    have := (Nat.log2_lt (Nat.ne_of_gt hm)).2 h
    omega
  have hfield : (BitVec.ofNat 52 m).toNat = m := by
    rw [BitVec.toNat_ofNat, Nat.mod_eq_of_lt h]
  rw [settle, pack_finite, if_neg (by decide), if_neg hlog]
  obtain ⟨_, hunpack⟩ := unpack_subnormal s (m := BitVec.ofNat 52 m) (by rw [hfield]; exact hm)
  rw [hunpack]
  exact finite_congr rfl hfield rfl

theorem settle_finite (h : IsRounded (.finite s m e hm)) (he : e ≤ 971) :
    settle (.finite s m e hm) = .finite s m e hm := by
  obtain ⟨hlow, hlt, hnormal | rfl⟩ := h
  · exact settle_of_normal he hlow hnormal hlt
  · by_cases hm52 : m < 2 ^ 52
    · exact settle_of_subnormal hm52
    · exact settle_of_normal he hlow (Nat.not_lt.1 hm52) hlt

end Settle

theorem isRounded_of_isCanonical {u : UnpackedFloat} (h : IsCanonical u) : IsRounded u := by
  cases u with
  | finite s m e hm => exact ⟨h.1, h.2.2⟩
  | _ => trivial

/-- A rounded result is left as it is, if it does not overflow. -/
theorem settle_rounded {u : UnpackedFloat} (h : IsRounded u) :
    settle u = u ∨ ∃ s m e hm, u = .finite s m e hm ∧ 971 < e ∧ settle u = .infinity s := by
  cases u with
  | notANumber => exact Or.inl settle_notANumber
  | infinity s => exact Or.inl (settle_infinity s)
  | zero s => exact Or.inl (settle_zero s)
  | finite s m e hm =>
    by_cases he : e ≤ 971
    · exact Or.inl (settle_finite h he)
    · exact Or.inr ⟨s, m, e, hm, rfl, by omega, settle_overflow (by omega)⟩

theorem settle_canonical {u : UnpackedFloat} (h : IsCanonical u) : settle u = u := by
  rcases settle_rounded (isRounded_of_isCanonical h) with heq | ⟨s, m, e, hm, rfl, he, -⟩
  · exact heq
  · exact absurd h.2.1 (by omega)

end TwoVenues.Double

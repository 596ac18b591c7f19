import Mathlib.Data.Nat.Sqrt
import TwoVenues.Proofs.Double.Values

/-!
# Faithful rounding

No double lies strictly between the result of an operation and the double it is rounded to. That is
all that is used of rounding here: a result that is itself a double is not changed, and bounds on the
exact result that are doubles are bounds on the rounded one.

* `IsFaithful q r`, `IsFaithfulRoot q r` : no double lies strictly between `q`, or its square root,
  and `r`;
* `le_cut`, `cut_le` : doubles below and above a number, and its mantissa after it has been cut;
* `exists_roundWithAccuracy` : the rounded result in terms of the doubles below and above;
* `Denotes.add_faithful`, `Denotes.sub_faithful`, `Denotes.mul_faithful`, `Denotes.div_faithful` :
  operations whose result is in range;
* `Denotes.sqrt_faithful` : the square root.
-/

namespace TwoVenues.Double
open Float.Model (UnpackedFloat Format)
open Float.Model.UnpackedFloat

/-- No double lies strictly between the number `q` and its rounding `r`. -/
structure IsFaithful (q r : ℚ) : Prop where
  le : ∀ b, Fits b → b ≤ q → b ≤ r
  ge : ∀ b, Fits b → q ≤ b → r ≤ b

/-- No double that is not negative lies strictly between the square root of `q` and its rounding
`r`. -/
structure IsFaithfulRoot (q r : ℚ) : Prop where
  nonneg : 0 ≤ r
  le : ∀ b, Fits b → 0 ≤ b → b ^ 2 ≤ q → b ≤ r
  ge : ∀ b, Fits b → 0 ≤ b → q ≤ b ^ 2 → r ≤ b

section IsFaithful
variable {q r : ℚ}

theorem IsFaithful.refl (q : ℚ) : IsFaithful q q := ⟨fun _ _ h => h, fun _ _ h => h⟩

theorem IsFaithful.eq (h : IsFaithful q r) (hq : Fits q) : r = q :=
  le_antisymm (h.ge q hq le_rfl) (h.le q hq le_rfl)

theorem IsFaithful.neg (h : IsFaithful q r) : IsFaithful (-q) (-r) where
  le b hb hle := le_neg.1 (h.ge (-b) hb.neg (le_neg.2 hle))
  ge b hb hge := neg_le.1 (h.le (-b) hb.neg (neg_le.2 hge))

theorem IsFaithful.apply (h : IsFaithful q r) (s : Sign) :
    IsFaithful ((s.apply 1 : Int) * q) ((s.apply 1 : Int) * r) := by
  cases s
  · show IsFaithful (((-1 : Int) : ℚ) * q) (((-1 : Int) : ℚ) * r)
    rw [Int.cast_neg, Int.cast_one, neg_one_mul, neg_one_mul]
    exact h.neg
  · show IsFaithful (((1 : Int) : ℚ) * q) (((1 : Int) : ℚ) * r)
    rwa [Int.cast_one, one_mul, one_mul]

end IsFaithful

/-! ## Cutting a mantissa -/

section Cut
variable {m : Nat} {e : Int} {acc : Accuracy} {b : ℚ}

/-- The number `b` is not below one whose digits down to the exponent `e` are `m`, and is above it if
these are not all of its digits. -/
def IsAbove (m : Nat) (e : Int) (acc : Accuracy) (b : ℚ) : Prop :=
  (m : ℚ) * 2 ^ e ≤ b ∧ (acc = .exact ∨ (m : ℚ) * 2 ^ e < b)

theorem floor_le {t : Int} (h : e ≤ t) :
    ((m / 2 ^ (t - e).toNat : Nat) : ℚ) * 2 ^ t ≤ m * 2 ^ e := by
  rw [two_zpow_eq h, ← mul_assoc, ← Nat.cast_mul]
  gcongr
  exact Nat.div_mul_le_self m _

theorem le_floor_add_one {t : Int} (h : e ≤ t) :
    ((m : ℚ) + 1) * 2 ^ e ≤ ((m / 2 ^ (t - e).toNat : Nat) + 1) * 2 ^ t := by
  have hlt : m + 1 ≤ (m / 2 ^ (t - e).toNat + 1) * 2 ^ (t - e).toNat := by
    rw [Nat.mul_comm]
    exact Nat.lt_mul_div_succ m (Nat.two_pow_pos _)
  rw [two_zpow_eq h, ← mul_assoc]
  gcongr
  exact_mod_cast hlt

/-- An exact mantissa is rounded up only if digits that are cut off are not zero. -/
theorem floor_lt_of_cut_ne {t : Int} (h : e ≤ t)
    (hcut : cut m (t - e).toNat .exact ≠ m / 2 ^ (t - e).toNat) :
    ((m / 2 ^ (t - e).toNat : Nat) : ℚ) * 2 ^ t < m * 2 ^ e := by
  refine lt_of_le_of_ne (floor_le h) fun heq => hcut ?_
  rw [two_zpow_eq h, ← mul_assoc, ← Nat.cast_mul] at heq
  have hm : m / 2 ^ (t - e).toNat * 2 ^ (t - e).toNat = m := by
    exact_mod_cast mul_right_cancel₀ (zpow_ne_zero e two_ne_zero) heq
  conv_lhs => rw [← hm]
  exact cut_exact _ _

theorem le_cut (he : e ≤ target m e) (hb : Fits b) (h : b < (m + 1) * 2 ^ e) :
    b ≤ cut m (target m e - e).toNat acc * 2 ^ target m e := by
  have hcut := (cut_bounds m (target m e - e).toNat acc).1
  rcases hb.multiple_or_lt (target m e) with ⟨k, rfl⟩ | ⟨ht, hlt⟩
  · have hk : (k : ℚ) < (m / 2 ^ (target m e - e).toNat : Nat) + 1 :=
      lt_of_mul_lt_mul_right (h.trans_le (le_floor_add_one he)) (zpow_nonneg zero_le_two _)
    have hk : k < (m / 2 ^ (target m e - e).toNat : Nat) + 1 := by
      rwa [← Int.cast_lt (R := ℚ), Int.cast_add, Int.cast_natCast, Int.cast_one]
    gcongr
    exact_mod_cast show k ≤ (cut m (target m e - e).toNat acc : Int) by omega
  · have hdigits := (le_div_target he (ne_of_gt ht)).trans hcut
    calc b ≤ |b| := le_abs_self b
      _ ≤ 2 ^ 52 * 2 ^ target m e := hlt.le
      _ ≤ cut m (target m e - e).toNat acc * 2 ^ target m e := by
        gcongr
        exact_mod_cast hdigits

theorem cut_le (he : e ≤ target m e) (hb : Fits b) (h : IsAbove m e acc b) :
    cut m (target m e - e).toNat acc * 2 ^ target m e ≤ b := by
  have hfloor := (floor_le he).trans h.1
  rcases hb.multiple_or_lt (target m e) with ⟨k, rfl⟩ | ⟨ht, hlt⟩
  · by_cases hcut : cut m (target m e - e).toNat acc = m / 2 ^ (target m e - e).toNat
    · rwa [hcut]
    · have hstrict : ((m / 2 ^ (target m e - e).toNat : Nat) : ℚ) * 2 ^ target m e <
          k * 2 ^ target m e := by
        rcases h.2 with rfl | hlt
        · exact (floor_lt_of_cut_ne he hcut).trans_le h.1
        · exact (floor_le he).trans_lt hlt
      have hk := lt_of_mul_lt_mul_right hstrict (zpow_nonneg zero_le_two _)
      have hk : (m / 2 ^ (target m e - e).toNat : Nat) < k := by
        rwa [← Int.cast_lt (R := ℚ), Int.cast_natCast]
      have hup := (cut_bounds m (target m e - e).toNat acc).2
      gcongr
      exact_mod_cast show (cut m (target m e - e).toNat acc : Int) ≤ k by omega
  · -- a number with 53 digits above the least exponent is not below one with fewer
    have hdigits : (2 : ℚ) ^ 52 * 2 ^ target m e ≤
        (m / 2 ^ (target m e - e).toNat : Nat) * 2 ^ target m e := by
      gcongr
      exact_mod_cast le_div_target he (ne_of_gt ht)
    exact absurd ((hdigits.trans hfloor).trans (le_abs_self b)) (not_le.2 hlt)

end Cut

/-! ## Rounding -/

section Round
variable {s : Sign} {m : Nat} {e : Int} {acc : Accuracy} {q : ℚ}

theorem isValue_settle_zero (s : Sign) : IsValue (settle (.zero s)) 0 := by
  rw [settle_zero]
  rfl

/-- The rounded result is the cut mantissa, at the exponent to which it was cut. -/
theorem isValue_settle_cut (he : e ≤ target m e)
    (hrange : (cut m (target m e - e).toNat acc : ℚ) * 2 ^ target m e < 2 ^ 53 * 2 ^ (971 : Int)) :
    IsValue (settle (roundWithAccuracy .binary64 s m e acc))
      ((s.apply 1 : Int) * (cut m (target m e - e).toNat acc * 2 ^ target m e)) := by
  rcases roundWithAccuracy_cases s he acc with ⟨h0, heq⟩ | ⟨q, t, hq, heq, hrounded, ht, hcut⟩
  · rw [heq, h0, Nat.cast_zero, zero_mul, mul_zero]
    exact isValue_settle_zero s
  · have hvalue : (cut m (target m e - e).toNat acc : ℚ) * 2 ^ target m e = q * 2 ^ t := by
      rw [hcut, Nat.cast_mul, mul_assoc, ← two_zpow_eq ht]
    have hhigh : t ≤ 971 := by
      by_contra hgt
      have hdigits : 2 ^ 52 ≤ q := hrounded.2.2.resolve_right (by omega)
      rw [hvalue] at hrange
      refine absurd hrange (not_lt.2 ?_)
      calc (2 : ℚ) ^ 53 * 2 ^ (971 : Int) = 2 ^ 52 * 2 ^ (971 + 1 : Int) := by
            rw [zpow_add_one₀ two_ne_zero]
            ring
        _ ≤ (q : ℚ) * 2 ^ t := by
          gcongr
          · exact_mod_cast hdigits
          · exact one_le_two
          · omega
    rw [heq, settle_finite hrounded hhigh, hvalue, ← mul_assoc, ← cast_apply]
    exact rfl

/-- Whatever further digits the number has, doubles below and above it are so for its rounding. -/
theorem exists_roundWithAccuracy (s : Sign) (he : e ≤ target m e)
    (hrange : ∃ b, Fits b ∧ IsAbove m e acc b) : ∃ r : ℚ, 0 ≤ r ∧
      IsValue (settle (roundWithAccuracy .binary64 s m e acc)) ((s.apply 1 : Int) * r) ∧
      (∀ b, Fits b → b < (m + 1) * 2 ^ e → b ≤ r) ∧ ∀ b, Fits b → IsAbove m e acc b → r ≤ b := by
  refine ⟨cut m (target m e - e).toNat acc * 2 ^ target m e, by positivity, ?_,
    fun b hb h => le_cut he hb h, fun b hb h => cut_le he hb h⟩
  obtain ⟨b, hb, habove⟩ := hrange
  exact isValue_settle_cut he
    (((cut_le he hb habove).trans (le_abs_self b)).trans_lt hb.abs_lt)

/-- The unpacked double becomes a faithful rounding of `q` when it is packed. -/
def IsRounding (u : UnpackedFloat) (q : ℚ) : Prop := ∃ r, IsValue (settle u) r ∧ IsFaithful q r

theorem isRounding_zero (s : Sign) : IsRounding (.zero s) 0 :=
  ⟨0, isValue_settle_zero s, .refl 0⟩

theorem isRounding_of_isCanonical {u : UnpackedFloat} (hu : IsCanonical u) (h : IsValue u q) :
    IsRounding u q :=
  ⟨q, by rwa [settle_canonical hu], .refl q⟩

theorem isRounding_roundWithAccuracy (s : Sign) (he : e ≤ target m e) (hlow : m * 2 ^ e ≤ q)
    (hhigh : q < (m + 1) * 2 ^ e) (hacc : acc = .exact ∨ m * 2 ^ e < q) (hrange : InRange q) :
    IsRounding (roundWithAccuracy .binary64 s m e acc) ((s.apply 1 : Int) * q) := by
  have habove : ∀ b, q ≤ b → IsAbove m e acc b := fun b hb =>
    ⟨hlow.trans hb, hacc.imp_right fun hlt => hlt.trans_le hb⟩
  obtain ⟨b, hb, hle⟩ := hrange
  obtain ⟨r, -, hvalue, hbelow, hup⟩ :=
    exists_roundWithAccuracy s he ⟨b, hb, habove b ((le_abs_self q).trans hle)⟩
  refine ⟨_, hvalue, IsFaithful.apply ⟨?_, ?_⟩ s⟩
  · exact fun b hb h => hbelow b hb (h.trans_lt hhigh)
  · exact fun b hb h => hup b hb (habove b h)

/-- Rounding where all digits are known. -/
theorem isRounding_exact (s : Sign) (he : e ≤ target m e)
    (hrange : InRange ((s.apply m : Int) * 2 ^ e)) :
    IsRounding (roundWithAccuracy .binary64 s m e .exact) ((s.apply m : Int) * 2 ^ e) := by
  have hmagnitude : InRange ((m : ℚ) * 2 ^ e) := by
    obtain ⟨b, hb, hle⟩ := hrange
    rw [abs_apply_mul] at hle
    exact ⟨b, hb, by rwa [abs_of_nonneg (by positivity)]⟩
  have hlt : (m : ℚ) * 2 ^ e < (m + 1) * 2 ^ e := by
    gcongr
    exact lt_add_one _
  rw [cast_apply, mul_assoc]
  exact isRounding_roundWithAccuracy s he le_rfl hlt (Or.inl rfl) hmagnitude

theorem isRounding_round (hm : 0 < m) (h : InRange ((s.apply m : Int) * 2 ^ e)) :
    IsRounding (round .binary64 s m e) ((s.apply m : Int) * 2 ^ e) := by
  rw [← cast_apply_mul_two_pow s m (e - target m e).toNat] at h ⊢
  rw [round_eq]
  exact isRounding_exact s (le_target_scaled hm e) h

theorem isRounding_normalize {k : Int} (z : Sign) (h : InRange (k * 2 ^ e)) :
    IsRounding (UnpackedFloat.normalize .binary64 k e z) (k * 2 ^ e) := by
  unfold UnpackedFloat.normalize
  rcases lt_trichotomy k 0 with hneg | rfl | hpos
  · rw [compare_lt_iff_lt.2 hneg]
    have hk : Sign.negative.apply ((-k).toNat : Nat) = k := by
      show -((-k).toNat : Int) = k
      omega
    have hround := @isRounding_round .negative (-k).toNat e (by omega)
    rw [hk] at hround
    exact hround h
  · rw [compare_eq_iff_eq.2 rfl, Int.cast_zero, zero_mul]
    exact isRounding_zero z
  · rw [compare_gt_iff_gt.2 hpos]
    have hk : Sign.positive.apply (k.toNat : Nat) = k := by
      show (k.toNat : Int) = k
      omega
    have hround := @isRounding_round .positive k.toNat e (by omega)
    rw [hk] at hround
    exact hround h

end Round

/-! ## Operations on unpacked doubles -/

section Unpacked
variable {u v : UnpackedFloat} {p q : ℚ}

theorem isRounding_add (hu : IsCanonical u) (hv : IsCanonical v) (hp : IsValue u p)
    (hq : IsValue v q) (h : InRange (p + q)) : IsRounding (add .binary64 u v) (p + q) := by
  cases u with
  | notANumber => cases hp
  | infinity s => cases hp
  | zero s =>
    cases hp
    rw [zero_add]
    cases v with
    | notANumber => cases hq
    | infinity t => cases hq
    | zero t =>
      cases hq
      cases s <;> cases t <;> exact isRounding_zero _
    | finite t m e hm => exact isRounding_of_isCanonical hv hq
  | finite s m e hm =>
    cases v with
    | notANumber => cases hq
    | infinity t => cases hq
    | zero t =>
      cases hq
      rw [add_zero]
      exact isRounding_of_isCanonical hu hp
    | finite t n f hn =>
      cases hp
      cases hq
      have hsum : ((s.apply m : Int) : ℚ) * 2 ^ e + (t.apply n : Int) * 2 ^ f =
          (s.apply (m <<< (e - min e f).toNat : Nat) +
            t.apply (n <<< (f - min e f).toNat : Nat) : Int) * 2 ^ min e f := by
        rw [Int.cast_add, add_mul, cast_apply_shiftLeft s m (Int.min_le_left e f),
          cast_apply_shiftLeft t n (Int.min_le_right e f)]
      rw [hsum] at h ⊢
      exact isRounding_normalize _ h

theorem sub_eq_add (u v : UnpackedFloat) :
    sub .binary64 u v = add .binary64 u (neg v) := by
  cases u with
  | finite s m e hm =>
    cases v with
    | finite t n f hn =>
      show UnpackedFloat.normalize .binary64 (s.apply _ - t.apply _) (min e f) .positive =
        UnpackedFloat.normalize .binary64 (s.apply _ + (-t).apply _) (min e f) .positive
      cases t
      · congr 1
        exact Int.sub_neg ..
      · rfl
    | _ => rfl
  | _ => cases v <;> rfl

theorem isCanonical_neg (h : IsCanonical u) : IsCanonical (neg u) := by
  cases u <;> exact h

theorem isValue_neg (h : IsValue u q) : IsValue (neg u) (-q) := by
  cases u with
  | notANumber => cases h
  | infinity s => cases h
  | zero s =>
    cases h
    exact neg_zero
  | finite s m e hm =>
    cases h
    show -(((s.apply m : Int) : ℚ) * 2 ^ e) = ((-s).apply m : Int) * 2 ^ e
    cases s
    · show -(((-(m : Int) : Int) : ℚ) * 2 ^ e) = ((m : Int) : ℚ) * 2 ^ e
      rw [Int.cast_neg, neg_mul, neg_neg]
    · show -(((m : Int) : ℚ) * 2 ^ e) = ((-(m : Int) : Int) : ℚ) * 2 ^ e
      rw [Int.cast_neg, neg_mul]

theorem isRounding_sub (hu : IsCanonical u) (hv : IsCanonical v) (hp : IsValue u p)
    (hq : IsValue v q) (h : InRange (p - q)) : IsRounding (sub .binary64 u v) (p - q) := by
  rw [sub_eq_add, sub_eq_add_neg]
  rw [sub_eq_add_neg] at h
  exact isRounding_add hu (isCanonical_neg hv) hp (isValue_neg hq) h

theorem log2_add_le_log2_mul {m n : Nat} (hm : 0 < m) (hn : 0 < n) :
    m.log2 + n.log2 ≤ (m * n).log2 := by
  rw [Nat.le_log2 (Nat.ne_of_gt (Nat.mul_pos hm hn)), Nat.pow_add]
  exact Nat.mul_le_mul (Nat.log2_self_le (Nat.ne_of_gt hm)) (Nat.log2_self_le (Nat.ne_of_gt hn))

/-- The exponent of a product is not above its target. -/
theorem le_target_mul {s t : Sign} {m n : Nat} {e f : Int} {hm : 0 < m} {hn : 0 < n}
    (hu : IsCanonical (.finite s m e hm)) (hv : IsCanonical (.finite t n f hn)) :
    e + f ≤ target (m * n) (e + f) := by
  obtain ⟨-, he, -, hnormal⟩ := hu
  obtain ⟨hlow, -, -, hnormal'⟩ := hv
  have hlog := log2_add_le_log2_mul hm hn
  have hdigits : 52 ≤ m.log2 ∨ e = -1074 := hnormal.imp_left (Nat.le_log2 (Nat.ne_of_gt hm)).2
  have hdigits' : 52 ≤ n.log2 ∨ f = -1074 := hnormal'.imp_left (Nat.le_log2 (Nat.ne_of_gt hn)).2
  unfold target
  omega

theorem isRounding_mul (hu : IsCanonical u) (hv : IsCanonical v) (hp : IsValue u p)
    (hq : IsValue v q) (h : InRange (p * q)) : IsRounding (mul .binary64 u v) (p * q) := by
  cases u with
  | notANumber => cases hp
  | infinity s => cases hp
  | zero s =>
    cases hp
    rw [zero_mul]
    cases v with
    | notANumber => cases hq
    | infinity t => cases hq
    | zero t => exact isRounding_zero (s * t)
    | finite t m e hm => exact isRounding_zero (s * t)
  | finite s m e hm =>
    cases v with
    | notANumber => cases hq
    | infinity t => cases hq
    | zero t =>
      cases hq
      rw [mul_zero]
      exact isRounding_zero (s * t)
    | finite t n f hn =>
      cases hp
      cases hq
      have hproduct : ((s.apply m : Int) : ℚ) * 2 ^ e * ((t.apply n : Int) * 2 ^ f) =
          ((s * t).apply (m * n : Nat) : Int) * 2 ^ (e + f) := by
        rw [cast_apply_mul, zpow_add₀ two_ne_zero]
        ring
      rw [hproduct] at h ⊢
      exact isRounding_exact (s * t) (le_target_mul hu hv) h

/-! ### Quotients -/

theorem divCore_eq (m n : Nat) (e f : Int) : ∃ t : Int,
    t = min (e - f) (max ((m.log2 + 1 + e) - (n.log2 + 1 + f) - 53) (-1074)) ∧
    divCore .binary64 m e n f = (m * 2 ^ (e - f - t).toNat / n, t,
      accuracyOfFraction (m * 2 ^ (e - f - t).toNat % n) n) := by
  refine ⟨_, rfl, ?_⟩
  rw [← Nat.shiftLeft_eq]
  rfl

/-- The quotient is computed to one digit more than are kept, if that is not below the least
exponent. -/
theorem le_target_div {m n : Nat} {e f t : Int} (hm : 0 < m) (hn : 0 < n)
    (ht : t = min (e - f) (max ((m.log2 + 1 + e) - (n.log2 + 1 + f) - 53) (-1074))) :
    t ≤ target (m * 2 ^ (e - f - t).toNat / n) t := by
  by_cases hleast : t ≤ -1074
  · exact hleast.trans (neg_le_target _ _)
  have hscaled := log2_mul_two_pow hm (e - f - t).toNat
  have hpos : m * 2 ^ (e - f - t).toNat ≠ 0 := Nat.ne_of_gt (Nat.mul_pos hm (Nat.two_pow_pos _))
  generalize m * 2 ^ (e - f - t).toNat = k at *
  have hquotient : 2 ^ (k.log2 - (n.log2 + 1)) ≤ k / n := by
    rw [Nat.le_div_iff_mul_le hn]
    calc 2 ^ (k.log2 - (n.log2 + 1)) * n ≤ 2 ^ (k.log2 - (n.log2 + 1)) * 2 ^ (n.log2 + 1) :=
          Nat.mul_le_mul_left _ Nat.lt_log2_self.le
      _ = 2 ^ k.log2 := by
          rw [← Nat.pow_add]
          congr 1
          omega
      _ ≤ k := Nat.log2_self_le hpos
  have hlog := (Nat.le_log2 (Nat.ne_of_gt ((Nat.two_pow_pos _).trans_le hquotient))).2 hquotient
  unfold target
  omega

/-- The digits of a quotient, and whether they are all. -/
theorem divCore_spec {m n : Nat} (e f : Int) (hm : 0 < m) (hn : 0 < n) : ∃ c g acc,
    divCore .binary64 m e n f = (c, g, acc) ∧ g ≤ target c g ∧
    (c : ℚ) * 2 ^ g ≤ m * 2 ^ e / (n * 2 ^ f) ∧ (m : ℚ) * 2 ^ e / (n * 2 ^ f) < (c + 1) * 2 ^ g ∧
    (acc = .exact ∨ (c : ℚ) * 2 ^ g < m * 2 ^ e / (n * 2 ^ f)) := by
  obtain ⟨t, ht, hcore⟩ := divCore_eq m n e f
  refine ⟨_, _, _, hcore, le_target_div hm hn ht, ?_⟩
  have hn0 : (0 : ℚ) < n := by exact_mod_cast hn
  have hquotient : (m : ℚ) * 2 ^ e / (n * 2 ^ f) = (m * 2 ^ (e - f - t).toNat : Nat) / n * 2 ^ t := by
    rw [← cast_mul_two_pow m (e - f - t).toNat e, show e - ((e - f - t).toNat : Int) = t + f by omega,
      zpow_add₀ two_ne_zero]
    field_simp
  rw [hquotient]
  generalize m * 2 ^ (e - f - t).toNat = k
  have hle : ((k / n : Nat) : ℚ) ≤ k / n := by
    rw [le_div_iff₀ hn0]
    exact_mod_cast Nat.div_mul_le_self k n
  have hlt : (k : ℚ) / n < (k / n : Nat) + 1 := by
    rw [div_lt_iff₀ hn0]
    have := Nat.lt_mul_div_succ k hn
    rw [Nat.mul_comm] at this
    exact_mod_cast this
  refine ⟨by gcongr, by gcongr, ?_⟩
  by_cases hremainder : k % n = 0
  · exact Or.inl (if_pos hremainder)
  · refine Or.inr ?_
    gcongr
    rw [lt_div_iff₀ hn0]
    have := Nat.div_add_mod' k n
    exact_mod_cast show k / n * n < k by omega

theorem isRounding_div (hp : IsValue u p) (hq : IsValue v q) (hq0 : q ≠ 0) (h : InRange (p / q)) :
    IsRounding (div .binary64 u v) (p / q) := by
  cases v with
  | notANumber => cases hq
  | infinity t => cases hq
  | zero t => exact absurd hq hq0
  | finite t n f hn =>
    cases u with
    | notANumber => cases hp
    | infinity s => cases hp
    | zero s =>
      cases hp
      rw [zero_div]
      exact isRounding_zero (s / t)
    | finite s m e hm =>
      cases hp
      cases hq
      obtain ⟨c, g, acc, hcore, hg, hle, hlt, hacc⟩ := divCore_spec e f hm hn
      have hquotient : ((s.apply m : Int) : ℚ) * 2 ^ e / ((t.apply n : Int) * 2 ^ f) =
          ((s / t).apply 1 : Int) * (m * 2 ^ e / (n * 2 ^ f)) := by
        rw [cast_apply s, cast_apply t, mul_assoc, mul_assoc, cast_apply_div]
      obtain ⟨b, hb, hbound⟩ := h
      rw [abs_div, abs_apply_mul, abs_apply_mul] at hbound
      show IsRounding (roundWithAccuracy .binary64 (s / t) (divCore .binary64 m e n f).1
        (divCore .binary64 m e n f).2.1 (divCore .binary64 m e n f).2.2) _
      rw [hcore, hquotient]
      exact isRounding_roundWithAccuracy (s / t) hg hle hlt hacc
        ⟨b, hb, by rwa [abs_of_nonneg (by positivity)]⟩

/-! ### Square roots -/

theorem sqrtCore_eq (m : Nat) (e : Int) : ∃ (t : Int) (acc : Accuracy),
    t = min (e / 2) (max ((m.log2 + 1 + e + 1) / 2 - 53) (-1074)) ∧
    sqrtCore .binary64 m e = (Nat.sqrt (m * 2 ^ (e - 2 * t).toNat), t, acc) ∧
    (acc = .exact ∨ Nat.sqrt (m * 2 ^ (e - 2 * t).toNat) * Nat.sqrt (m * 2 ^ (e - 2 * t).toNat) <
      m * 2 ^ (e - 2 * t).toNat) := by
  obtain ⟨t, ht⟩ : ∃ t, t = min (e / 2) (max ((m.log2 + 1 + e + 1) / 2 - 53) (-1074)) := ⟨_, rfl⟩
  have hcore : ∀ k, k = m <<< (e - 2 * t).toNat → sqrtCore .binary64 m e = (k.sqrt, t,
      if k - k.sqrt * k.sqrt = 0 then .exact
      else .inexact (if k - k.sqrt * k.sqrt ≤ k.sqrt then .lt else .gt)) := by
    rintro k rfl
    rw [ht]
    rfl
  rw [Nat.shiftLeft_eq] at hcore
  refine ⟨t, _, ht, hcore _ rfl, ?_⟩
  generalize m * 2 ^ (e - 2 * t).toNat = k
  by_cases hremainder : k - k.sqrt * k.sqrt = 0
  · exact Or.inl (if_pos hremainder)
  · exact Or.inr (by omega)

theorem le_target_sqrt {m : Nat} {e t : Int} (hm : 0 < m)
    (ht : t = min (e / 2) (max ((m.log2 + 1 + e + 1) / 2 - 53) (-1074))) :
    t ≤ target (Nat.sqrt (m * 2 ^ (e - 2 * t).toNat)) t := by
  by_cases hleast : t ≤ -1074
  · exact hleast.trans (neg_le_target _ _)
  have hscaled := log2_mul_two_pow hm (e - 2 * t).toNat
  have hpos : m * 2 ^ (e - 2 * t).toNat ≠ 0 := Nat.ne_of_gt (Nat.mul_pos hm (Nat.two_pow_pos _))
  generalize m * 2 ^ (e - 2 * t).toNat = k at *
  have hroot : 2 ^ (k.log2 / 2) ≤ Nat.sqrt k := by
    rw [Nat.le_sqrt, ← Nat.pow_add]
    exact (Nat.pow_le_pow_right Nat.two_pos (by omega)).trans (Nat.log2_self_le hpos)
  have hlog := (Nat.le_log2 (Nat.ne_of_gt ((Nat.two_pow_pos _).trans_le hroot))).2 hroot
  unfold target
  omega

/-- The digits of a square root, and whether they are all. -/
theorem sqrtCore_spec {m : Nat} (e : Int) (hm : 0 < m) : ∃ c g acc,
    sqrtCore .binary64 m e = (c, g, acc) ∧ g ≤ target c g ∧
    ((c : ℚ) * 2 ^ g) ^ 2 ≤ m * 2 ^ e ∧ (m : ℚ) * 2 ^ e < ((c + 1) * 2 ^ g) ^ 2 ∧
    (acc = .exact ∨ ((c : ℚ) * 2 ^ g) ^ 2 < m * 2 ^ e) := by
  obtain ⟨t, acc, ht, hcore, hacc⟩ := sqrtCore_eq m e
  refine ⟨_, _, _, hcore, le_target_sqrt hm ht, ?_⟩
  have hvalue : (m : ℚ) * 2 ^ e = (m * 2 ^ (e - 2 * t).toNat : Nat) * (2 ^ t) ^ 2 := by
    rw [← cast_mul_two_pow m (e - 2 * t).toNat e, ← zpow_natCast, ← zpow_mul]
    congr 2
    omega
  rw [hvalue, mul_pow, mul_pow]
  generalize m * 2 ^ (e - 2 * t).toNat = k at *
  have hle := Nat.sqrt_le k
  have hlt := Nat.lt_succ_sqrt k
  simp only [sq (k.sqrt : ℚ), sq ((k.sqrt : ℚ) + 1)]
  refine ⟨?_, ?_, hacc.imp_right fun hstrict => ?_⟩
  · gcongr
    exact_mod_cast hle
  · gcongr
    exact_mod_cast hlt
  · gcongr
    exact_mod_cast hstrict

theorem exists_root {c : Nat} {g : Int} {acc : Accuracy} (hg : g ≤ target c g)
    (hle : ((c : ℚ) * 2 ^ g) ^ 2 ≤ q) (hlt : q < ((c + 1) * 2 ^ g) ^ 2)
    (hacc : acc = .exact ∨ ((c : ℚ) * 2 ^ g) ^ 2 < q) (hfits : Fits q) : ∃ r,
    IsValue (settle (roundWithAccuracy .binary64 .positive c g acc)) r ∧ IsFaithfulRoot q r := by
  have hroot : (0 : ℚ) ≤ c * 2 ^ g := by positivity
  have habove : ∀ b, 0 ≤ b → q ≤ b ^ 2 → IsAbove c g acc b := by
    intro b hb hqb
    refine ⟨?_, hacc.imp_right fun hstrict => ?_⟩
    · exact (pow_le_pow_iff_left₀ hroot hb two_ne_zero).1 (hle.trans hqb)
    · exact (pow_lt_pow_iff_left₀ hroot hb two_ne_zero).1 (hstrict.trans_le hqb)
  -- the greater one of the number and one is above the root
  have hrange : ∃ b, Fits b ∧ IsAbove c g acc b := by
    rcases le_total q 1 with hone | hone
    · exact ⟨1, fits_one, habove 1 zero_le_one (by rwa [one_pow])⟩
    · exact ⟨q, hfits, habove q (zero_le_one.trans hone) (le_self_pow₀ hone two_ne_zero)⟩
  obtain ⟨r, hr, hvalue, hbelow, hup⟩ := exists_roundWithAccuracy .positive hg hrange
  have hone : ((Sign.positive.apply 1 : Int) : ℚ) * r = r := by
    show ((1 : Int) : ℚ) * r = r
    rw [Int.cast_one, one_mul]
  rw [hone] at hvalue
  refine ⟨r, hvalue, hr, fun b hb hb0 hsquare => ?_, fun b hb hb0 hsquare => ?_⟩
  · refine hbelow b hb ((pow_lt_pow_iff_left₀ hb0 ?_ two_ne_zero).1 (hsquare.trans_lt hlt))
    positivity
  · exact hup b hb (habove b hb0 hsquare)

theorem exists_sqrt (hu : IsCanonical u) (hp : IsValue u q) (h0 : 0 ≤ q) : ∃ r,
    IsValue (settle (sqrt .binary64 u)) r ∧ IsFaithfulRoot q r := by
  have hfits := fits_of_isValue hu hp
  cases u with
  | notANumber => cases hp
  | infinity s => cases hp
  | zero s =>
    cases hp
    refine ⟨0, isValue_settle_zero s, le_rfl, fun b _ _ hb => ?_, fun b _ hb _ => hb⟩
    exact ((pow_eq_zero_iff two_ne_zero).1 (le_antisymm hb (sq_nonneg b))).le
  | finite s m e hm =>
    cases hp
    cases s with
    | negative =>
      have hpos : (0 : ℚ) < m * 2 ^ e := mul_pos (by exact_mod_cast hm) (zpow_pos two_pos e)
      rw [cast_apply, mul_assoc] at h0
      change 0 ≤ ((-1 : Int) : ℚ) * (m * 2 ^ e) at h0
      rw [Int.cast_neg, Int.cast_one, neg_one_mul] at h0
      exact absurd h0 (not_le.2 (neg_neg_of_pos hpos))
    | positive =>
      obtain ⟨c, g, acc, hcore, hg, hle, hlt, hacc⟩ := sqrtCore_spec e hm
      show ∃ r, IsValue (settle (roundWithAccuracy .binary64 .positive (sqrtCore .binary64 m e).1
        (sqrtCore .binary64 m e).2.1 (sqrtCore .binary64 m e).2.2)) r ∧
          IsFaithfulRoot ((m : ℚ) * 2 ^ e) r
      rw [hcore]
      exact exists_root hg hle hlt hacc hfits

end Unpacked

/-! ## Operations on `Float` -/

section Operations
variable {x y : Float} {p q : ℚ}

theorem isCanonical_unpack (x : Float) : IsCanonical x.toModel.unpack :=
  (unpack_spec x.toBits.toBitVec).1

theorem Denotes.fits (hx : Denotes x q) : Fits q := fits_of_isValue (isCanonical_unpack x) hx

theorem Denotes.add_faithful (hx : Denotes x p) (hy : Denotes y q) (h : InRange (p + q)) :
    ∃ r, Denotes (x + y) r ∧ IsFaithful (p + q) r :=
  isRounding_add (isCanonical_unpack x) (isCanonical_unpack y) hx hy h

theorem Denotes.sub_faithful (hx : Denotes x p) (hy : Denotes y q) (h : InRange (p - q)) :
    ∃ r, Denotes (x - y) r ∧ IsFaithful (p - q) r :=
  isRounding_sub (isCanonical_unpack x) (isCanonical_unpack y) hx hy h

theorem Denotes.mul_faithful (hx : Denotes x p) (hy : Denotes y q) (h : InRange (p * q)) :
    ∃ r, Denotes (x * y) r ∧ IsFaithful (p * q) r :=
  isRounding_mul (isCanonical_unpack x) (isCanonical_unpack y) hx hy h

theorem Denotes.div_faithful (hx : Denotes x p) (hy : Denotes y q) (hq : q ≠ 0)
    (h : InRange (p / q)) : ∃ r, Denotes (x / y) r ∧ IsFaithful (p / q) r :=
  isRounding_div hx hy hq h

theorem Denotes.sqrt_faithful (hx : Denotes x q) (h0 : 0 ≤ q) :
    ∃ r, Denotes x.sqrt r ∧ IsFaithfulRoot q r :=
  exists_sqrt (isCanonical_unpack x) hx h0

end Operations

end TwoVenues.Double

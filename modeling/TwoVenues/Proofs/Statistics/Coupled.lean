import Mathlib.Tactic.Linarith
import TwoVenues.Proofs.Double.ValueOrder
import TwoVenues.Proofs.Statistics.Flat

/-!
# Correlations and p-values are defined together

Sums that overflow make the quotient of a correlation infinite or not a number. What is infinite is
held within the bounds, and what is not a number has no p-value.

The p-value of `n` points asks for the distribution function of Student's distribution at some `t`.
Only that it is a number there matters: a correlation within its bounds whose square is below one is
so far below that `t` is finite.

* `Within lo hi x`, `Pearson.IsCoupled` : a number within bounds, and what a correlation has to be;
* `within_clamp` : numbers held within bounds;
* `IsDefined cdf` : all that is asked of a distribution function;
* `isNaN_statistic`, `within_pValueUnder` : its arguments are numbers, and so is the p-value;
* `pearsonUnder_eq`, `r_pearsonUnder` : the distribution function matters to the p-value only, and
  not where the correlation is not a number (`isNaN_p_of_isNaN_r`);
* `pearsonUnder_isCoupled` : the correlation of any two series.
-/

namespace TwoVenues.Statistics
open Double

/-- A number within bounds. -/
def Within (lo hi x : Float) : Prop := x.isNaN = false ∧ lo ≤ x ∧ x ≤ hi

/-- Neither the correlation nor its p-value is a number, or both are, and within their bounds. -/
def Pearson.IsCoupled (c : Pearson) : Prop :=
  c.r.isNaN = true ∧ c.p.isNaN = true ∨ Within (-1.0) 1.0 c.r ∧ Within 0.0 1.0 c.p

theorem Pearson.isCoupled_undefined : Pearson.undefined.IsCoupled := Or.inl ⟨by decide, by decide⟩

theorem Pearson.IsCoupled.isNaN_iff {c : Pearson} (h : c.IsCoupled) :
    c.p.isNaN = true ↔ c.r.isNaN = true := by
  rcases h with ⟨hr, hp⟩ | ⟨hr, hp⟩
  · rw [hr, hp]
  · rw [hr.1, hp.1]

/-- No p-value of an undefined correlation is below a level. -/
theorem Pearson.IsCoupled.isNaN_of_lt {c : Pearson} (h : c.IsCoupled) {level : Float}
    (hlevel : c.p < level) : c.r.isNaN = false := by
  rcases h with ⟨-, hp⟩ | ⟨hr, -⟩
  · exact absurd hp (Bool.eq_false_iff.1 (lt_iff.1 hlevel).1)
  · exact hr.1

/-- The correlation that stands for too few points. -/
theorem Pearson.isCoupled_placeholder : Pearson.IsCoupled ⟨0.0, 1.0⟩ :=
  Or.inr ⟨⟨by decide, by decide, by decide⟩, by decide, by decide, by decide⟩

/-! ## Bounds -/

theorem within_clamp {lo hi x : Float} (h : lo ≤ hi) (hx : x.isNaN = false) :
    Within lo hi (clamp lo hi x) := by
  obtain ⟨hlo, hhi, -⟩ := le_iff.1 h
  unfold clamp
  by_cases hlow : x < lo
  · rw [if_pos hlow]
    exact ⟨hlo, le_iff.2 ⟨hlo, hlo, Int.le_refl _⟩, h⟩
  · rw [if_neg hlow]
    by_cases hhigh : x > hi
    · rw [if_pos hhigh]
      exact ⟨hhi, h, le_iff.2 ⟨hhi, hhi, Int.le_refl _⟩⟩
    · rw [if_neg hhigh]
      refine ⟨hx, ?_, ?_⟩
      · exact by_contra fun hle => hlow (lt_of_not_le hlo hx hle)
      · exact by_contra fun hle => hhigh (lt_of_not_le hx hhi hle)

theorem clamp_of_isNaN {lo hi x : Float} (hx : x.isNaN = true) : clamp lo hi x = x := by
  have hlow : ¬x < lo := fun h => Bool.eq_false_iff.1 (lt_iff.1 h).1 hx
  have hhigh : ¬x > hi := fun h => Bool.eq_false_iff.1 (lt_iff.1 h).2.1 hx
  unfold clamp
  rw [if_neg hlow, if_neg hhigh]

/-- A coefficient is held within its bounds, unless it is not a number. -/
theorem Moments.within_coefficient {m : Moments} (h : m.coefficient.isNaN = false) :
    Within (-1.0) 1.0 m.coefficient := by
  unfold Moments.coefficient at h ⊢
  refine within_clamp (by decide) (Bool.eq_false_iff.2 fun hnan => ?_)
  rw [clamp_of_isNaN hnan, hnan] at h
  cases h

/-! ## P-values under a distribution function -/

/-- A distribution function that is a number where it is asked for a number, at one degree of
freedom or more. -/
def IsDefined (cdf : Float → Float → Float) : Prop :=
  ∀ freedom t, 1.0 ≤ freedom → t.isNaN = false → (cdf freedom t).isNaN = false

theorem pValueUnder_of_isNaN {r : Float} (h : r.isNaN = true) (cdf : Float → Float → Float)
    (n : Nat) : pValueUnder cdf r n = nan := by
  unfold pValueUnder
  rw [h, Bool.true_or, if_pos rfl]

/-! ## The statistic -/

section Statistic
variable {r : Float} {n : Nat}

/-- The largest double below one is as far from one as half of the spacing above it. -/
theorem le_one_sub_of_lt {q : ℚ} (h : Fits q) (hq : q < 1) : 2 ^ (-53 : Int) ≤ 1 - q := by
  rcases h.multiple_or_lt (-53) with ⟨k, rfl⟩ | ⟨-, hlt⟩
  · have hunit : (2 : ℚ) ^ 53 * 2 ^ (-53 : Int) = 1 := by norm_num
    have hk : (k : ℚ) < 2 ^ 53 := by
      rw [← hunit] at hq
      exact lt_of_mul_lt_mul_right hq (by positivity)
    have hk : (k : ℚ) + 1 ≤ 2 ^ 53 := by exact_mod_cast hk
    calc (2 : ℚ) ^ (-53 : Int) = (k + 1) * 2 ^ (-53 : Int) - k * 2 ^ (-53 : Int) := by ring
      _ ≤ 2 ^ 53 * 2 ^ (-53 : Int) - k * 2 ^ (-53 : Int) := by gcongr
      _ = 1 - k * 2 ^ (-53 : Int) := by rw [hunit]
  · have hhalf : (2 : ℚ) ^ 52 * 2 ^ (-53 : Int) = 1 / 2 := by norm_num
    have hsmall : (2 : ℚ) ^ (-53 : Int) ≤ 1 / 2 := by norm_num
    rw [hhalf] at hlt
    exact hsmall.trans (by linarith only [(abs_lt.1 hlt).2])

/-- What a correlation leaves unexplained is not lost in rounding. -/
theorem exists_unexplained {ρ : ℚ} (hr : Denotes r ρ) (hρ : |ρ| ≤ 1)
    (hpos : ¬1.0 - r * r ≤ 0.0) : ∃ u, Denotes (1.0 - r * r) u ∧ 2 ^ (-53 : Int) ≤ u := by
  have hsquare : ρ * ρ ≤ 1 := by
    rw [← abs_mul_abs_self]
    exact mul_le_one₀ hρ (abs_nonneg ρ) hρ
  have hsquare0 : 0 ≤ ρ * ρ := mul_self_nonneg ρ
  obtain ⟨s, hs, hround⟩ := hr.mul_faithful hr ⟨1, fits_one, by rwa [abs_of_nonneg hsquare0]⟩
  have hs0 : 0 ≤ s := hround.le 0 fits_zero hsquare0
  have hs1 : s ≤ 1 := hround.ge 1 fits_one hsquare
  have hrange : |1 - s| ≤ 1 := abs_le.2 ⟨by linarith only [hs1], by linarith only [hs0]⟩
  obtain ⟨u, hu, hround'⟩ := denotes_one.sub_faithful hs ⟨1, fits_one, hrange⟩
  have hlt : s < 1 := by
    by_contra hge
    have hle : 1 - s ≤ 0 := by linarith only [not_lt.1 hge]
    exact hpos ((hu.le_iff denotes_zero).2 (hround'.ge 0 fits_zero hle))
  exact ⟨u, hu, hround'.le _ (fits_two_zpow (by decide) (by decide)) (le_one_sub_of_lt hs.fits hlt)⟩

theorem exists_freedom (h1 : 1 ≤ n) (h64 : n < 2 ^ 64) :
    ∃ d, Denotes (Float.ofNat n) d ∧ 1 ≤ d ∧ d ≤ 2 ^ (64 : Int) := by
  have hfits : Fits (2 ^ (64 : Int)) := fits_two_zpow (by decide) (by decide)
  have hlow : (1 : ℚ) ≤ n := by exact_mod_cast h1
  have hhigh : (n : ℚ) ≤ 2 ^ (64 : Int) := by exact_mod_cast h64.le
  obtain ⟨d, hd, hround⟩ := exists_denotes_ofNat
    ⟨_, hfits, (abs_of_nonneg (zero_le_one.trans hlow)).trans_le hhigh⟩
  exact ⟨d, hd, hround.le 1 fits_one hlow, hround.ge _ hfits hhigh⟩

/-- No step on the way to the statistic overflows. -/
theorem isNaN_statistic (hr : Within (-1.0) 1.0 r) (h1 : 1 ≤ n) (h64 : n < 2 ^ 64)
    (hpos : ¬1.0 - r * r ≤ 0.0) :
    1.0 ≤ Float.ofNat n ∧ (r * (Float.ofNat n / (1.0 - r * r)).sqrt).isNaN = false := by
  have hminus : Denotes (-1.0) (-1) := by
    show (-1 : ℚ) = ((-(2 ^ 52 : Nat) : Int)) * 2 ^ (-52 : Int)
    norm_num
  obtain ⟨ρ, hρ, hlow, hhigh⟩ := exists_denotes_between hminus denotes_one hr.2.1 hr.2.2
  have hρ1 : |ρ| ≤ 1 := abs_le.2 ⟨hlow, hhigh⟩
  obtain ⟨u, hu, hu53⟩ := exists_unexplained hρ hρ1 hpos
  have hu0 : 0 < u := (zpow_pos two_pos _).trans_le hu53
  obtain ⟨d, hd, hd1, hd64⟩ := exists_freedom h1 h64
  have hquotient0 : 0 ≤ d / u := div_nonneg (zero_le_one.trans hd1) hu0.le
  have hquotient : d / u ≤ 2 ^ (118 : Int) := by
    rw [div_le_iff₀ hu0]
    calc d ≤ 2 ^ (64 : Int) := hd64
      _ ≤ 2 ^ (118 : Int) * 2 ^ (-53 : Int) := by norm_num
      _ ≤ 2 ^ (118 : Int) * u := by gcongr
  obtain ⟨w, hw, hw0, hw118⟩ := hd.div_between hu hu0.ne' fits_zero
    (fits_two_zpow (by decide) (by decide)) le_rfl hquotient0 hquotient
  obtain ⟨z, hz, hz0, hz59⟩ := hw.sqrt_between (b := 2 ^ (59 : Int)) fits_zero
    (fits_two_zpow (by decide) (by decide)) le_rfl (by positivity) (by rwa [zero_pow two_ne_zero])
    (hw118.trans_eq (by norm_num))
  have hroot : Bounded (2 ^ (59 : Int)) (Float.ofNat n / (1.0 - r * r)).sqrt :=
    ⟨z, hz, (abs_of_nonneg hz0).trans_le hz59⟩
  have hbounded : Bounded 1 r := ⟨ρ, hρ, hρ1⟩
  have hproduct := hbounded.mul hroot
  rw [one_mul] at hproduct
  obtain ⟨t, ht, -⟩ := hproduct (fits_two_zpow (by decide) (by decide))
  exact ⟨(denotes_one.le_iff hd).2 hd1, ht.isNaN⟩

/-- The probability on both sides of zero, from that on the left. -/
theorem within_tails {cdf : Float → Float → Float} (hcdf : IsDefined cdf) {freedom t : Float}
    (hfreedom : 1.0 ≤ freedom) (ht : t.isNaN = false) :
    Within 0.0 1.0 (clamp 0.0 1.0 (2.0 * cdf freedom (-t.abs))) := by
  have htwo : Denotes 2.0 2 := by
    show (2 : ℚ) = ((2 ^ 52 : Nat) : Int) * 2 ^ (-51 : Int)
    norm_num
  rw [← isNaN_abs, ← isNaN_neg] at ht
  exact within_clamp (by decide) (isNaN_mul_eq_false htwo two_ne_zero (hcdf _ _ hfreedom ht))

theorem within_pValueUnder {cdf : Float → Float → Float} (hcdf : IsDefined cdf)
    (hr : Within (-1.0) 1.0 r) (hn : 2 ≤ n) (h64 : n < 2 ^ 64) :
    Within 0.0 1.0 (pValueUnder cdf r n) := by
  have hnumber : ¬(r.isNaN || decide (n < 2)) = true := by
    rw [hr.1, Bool.false_or, decide_eq_true_iff]
    omega
  unfold pValueUnder
  rw [if_neg hnumber]
  by_cases htwo : n = 2
  · rw [if_pos htwo]
    exact ⟨by decide, by decide, by decide⟩
  · rw [if_neg htwo]
    by_cases hunexplained : 1.0 - r * r ≤ 0.0
    · rw [if_pos hunexplained]
      exact ⟨by decide, by decide, by decide⟩
    · rw [if_neg hunexplained]
      obtain ⟨hfreedom, ht⟩ := isNaN_statistic hr (n := n - 2) (by omega) (by omega) hunexplained
      exact within_tails hcdf hfreedom ht

end Statistic

/-! ## Any two series -/

section Coupled
variable (xs ys : List Float)

theorem pearsonUnder_eq (cdf : Float → Float → Float) : pearsonUnder cdf xs ys =
    ⟨(pearson xs ys).r, pValueUnder cdf (pearson xs ys).r xs.length⟩ := by
  have hundefined : Pearson.undefined =
      ⟨Pearson.undefined.r, pValueUnder cdf Pearson.undefined.r xs.length⟩ := by
    rw [pValueUnder_of_isNaN (by decide)]
    rfl
  unfold pearson pearsonUnder
  split
  · exact hundefined
  · split
    · exact hundefined
    · dsimp only
      split
      · exact hundefined
      · rfl

theorem r_pearsonUnder (cdf : Float → Float → Float) :
    (pearsonUnder cdf xs ys).r = (pearson xs ys).r := by
  rw [pearsonUnder_eq]

theorem isNaN_p_of_isNaN_r {cdf : Float → Float → Float}
    (h : (pearsonUnder cdf xs ys).r.isNaN = true) : (pearsonUnder cdf xs ys).p.isNaN = true := by
  have hnan : nan.isNaN = true := by decide
  rw [r_pearsonUnder] at h
  rwa [pearsonUnder_eq, pValueUnder_of_isNaN h]

/-- A correlation that is a number is the coefficient of some moments. -/
theorem within_pearson (h : (pearson xs ys).r.isNaN = false) :
    2 ≤ xs.length ∧ Within (-1.0) 1.0 (pearson xs ys).r := by
  have hundefined : ¬pearson xs ys = .undefined := by
    intro hxy
    rw [hxy] at h
    exact absurd h (by decide)
  have hlen : xs.length = ys.length ∧ 2 ≤ xs.length := by_contra fun hlen =>
    hundefined (pearson_of_length hlen)
  have hfinite : ∀ v ∈ xs ++ ys, v.isFinite := by_contra fun hfinite =>
    hundefined (pearson_of_not_isFinite hfinite)
  have hvaries : ¬(LiesOnMean xs ∨ LiesOnMean ys) := fun hlies =>
    hundefined (pearson_eq_undefined hlies)
  rw [pearson_eq hlen.1 hlen.2 hfinite, if_neg hvaries] at h ⊢
  exact ⟨hlen.2, Moments.within_coefficient h⟩

theorem pearsonUnder_isCoupled {cdf : Float → Float → Float} (hcdf : IsDefined cdf)
    (h64 : xs.length < 2 ^ 64) : (pearsonUnder cdf xs ys).IsCoupled := by
  cases hr : (pearsonUnder cdf xs ys).r.isNaN
  case false =>
    rw [r_pearsonUnder] at hr
    obtain ⟨hn, hwithin⟩ := within_pearson xs ys hr
    rw [pearsonUnder_eq]
    exact Or.inr ⟨hwithin, within_pValueUnder hcdf hwithin hn h64⟩
  case true => exact Or.inl ⟨hr, isNaN_p_of_isNaN_r xs ys hr⟩

end Coupled

end TwoVenues.Statistics

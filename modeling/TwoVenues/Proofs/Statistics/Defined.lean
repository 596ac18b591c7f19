import Mathlib.Tactic.Linarith
import TwoVenues.Proofs.Statistics.Coupled

/-!
# Where a correlation is a number

If the values of two series are at most one, and there are fewer than `2 ^ 53` of them, nothing
overflows on the way to their correlation. So it is a number unless a variance is zero: the root of a
positive double is so far from zero that the product of two is a double other than zero.

* `IsSmall xs` : some values of at most one, and not too many;
* `IsSmall.mean`, `IsSmall.covariance`, `IsSmall.exists_variance` : their mean and their moments;
* `Moments.isNaN_coefficient` : the coefficient of bounded moments with positive variances;
* `IsSmall.isNaN_pearson` : the correlation of two series neither of which lies on its mean;
* `IsSmall.not_liesOnMean` : a series that has both zero and one among its values.
-/

namespace TwoVenues.Statistics
open Double

/-- Some values of at most one, fewer than the natural numbers that are doubles. -/
structure IsSmall (xs : List Float) : Prop where
  ne_nil : xs ≠ []
  length_lt : xs.length < 2 ^ 53
  bounded : ∀ x ∈ xs, Bounded 1 x

/-! ## Moments -/

section Moments
variable {xs ys : List Float}

theorem fits_mul_one {n : Nat} (hn : n < 2 ^ 53) : ∀ j ≤ n, Fits (j * 1) := by
  intro j hj
  rw [mul_one]
  exact fits_natCast (by omega)

theorem fits_mul_four {n : Nat} (hn : n < 2 ^ 53) : ∀ j ≤ n, Fits (j * 4) := by
  intro j hj
  exact ⟨j, 2, by norm_num, by omega, by decide, by decide⟩

theorem IsSmall.mean (h : IsSmall xs) : Bounded 1 (mean xs) := by
  have hzero : Bounded ((0 : Nat) * 1) (-0.0) := ⟨0, rfl, by simp⟩
  have hsum := bounded_foldl_add id (fits_mul_one h.length_lt) xs h.bounded (Nat.zero_add _).le hzero
  rw [Nat.zero_add, mul_comm] at hsum
  have hpos : (0 : ℚ) < xs.length := by exact_mod_cast List.length_pos_iff.2 h.ne_nil
  rw [Statistics.mean, if_neg (by simpa using h.ne_nil)]
  exact hsum.div (denotes_ofNat h.length_lt) hpos fits_one

theorem IsSmall.sub_mean (h : IsSmall xs) {x : Float} (hx : x ∈ xs) :
    Bounded 2 (x - Statistics.mean xs) := by
  have hsub := (h.bounded x hx).sub h.mean
  rw [one_add_one_eq_two] at hsub
  exact hsub (by exact_mod_cast fits_natCast (n := 2) (by decide))

theorem IsSmall.mul_sub_mean (hx : IsSmall xs) (hy : IsSmall ys) {x y : Float} (hxs : x ∈ xs)
    (hys : y ∈ ys) : Bounded 4 ((x - Statistics.mean xs) * (y - Statistics.mean ys)) := by
  have hmul := (hx.sub_mean hxs).mul (hy.sub_mean hys)
  rw [show (2 : ℚ) * 2 = 4 by norm_num] at hmul
  exact hmul (by exact_mod_cast fits_natCast (n := 4) (by decide))

theorem covariance_moments (mx my : Float) (pairs : List (Float × Float)) :
    (moments mx my pairs).covariance =
      pairs.foldl (fun acc p => acc + (p.1 - mx) * (p.2 - my)) 0.0 :=
  (List.foldl_hom Moments.covariance fun _ _ => rfl).symm

theorem bounded_zero : Bounded ((0 : Nat) * 4) 0.0 := ⟨0, rfl, by simp⟩

theorem IsSmall.covariance (hx : IsSmall xs) (hy : IsSmall ys) :
    ∃ b, Bounded b (moments (Statistics.mean xs) (Statistics.mean ys) (xs.zip ys)).covariance := by
  have hlength : (xs.zip ys).length < 2 ^ 53 :=
    (Nat.le_of_eq List.length_zip).trans_lt ((Nat.min_le_left _ _).trans_lt hx.length_lt)
  rw [covariance_moments]
  refine ⟨_, bounded_foldl_add _ (fits_mul_four hlength) _ (fun p hp => ?_) (Nat.zero_add _).le
    bounded_zero⟩
  exact hx.mul_sub_mean hy (List.of_mem_zip hp).1 (List.of_mem_zip hp).2

/-- The variance of a series that does not lie on its mean. -/
theorem IsSmall.exists_variance (h : IsSmall xs) (hmean : ¬LiesOnMean xs) :
    ∃ p, Denotes (squares (Statistics.mean xs) xs) p ∧ 0 < p ∧ p ≤ 2 ^ (56 : Int) := by
  obtain ⟨p, hp, hle⟩ := bounded_foldl_add _ (fits_mul_four h.length_lt) xs
    (fun x hx => h.mul_sub_mean h hx hx) (Nat.zero_add _).le bounded_zero
  refine ⟨p, hp, lt_of_le_of_ne ((isNonneg_squares _ xs).nonneg hp) ?_, (le_abs_self p).trans ?_⟩
  · rintro rfl
    exact hmean ((squares_mean_eq_zero_iff xs).1 (denotes_zero_iff.1 hp))
  · have hlength : (xs.length : ℚ) < 2 ^ 53 := by exact_mod_cast h.length_lt
    rw [Nat.zero_add] at hle
    refine hle.trans ?_
    calc (xs.length : ℚ) * 4 ≤ 2 ^ 53 * 4 := by gcongr
      _ ≤ 2 ^ (56 : Int) := by norm_num

end Moments

/-! ## The coefficient -/

/-- Roots of positive doubles are at least `2 ^ (-537)`, so their product does not vanish. -/
theorem Moments.isNaN_coefficient {m : Moments} {b p q : ℚ} (hc : Bounded b m.covariance)
    (hx : Denotes m.varianceX p) (hy : Denotes m.varianceY q) (hp : 0 < p) (hq : 0 < q)
    (hp56 : p ≤ 2 ^ (56 : Int)) (hq56 : q ≤ 2 ^ (56 : Int)) : m.coefficient.isNaN = false := by
  have hlow : ((2 : ℚ) ^ (-537 : Int)) ^ 2 = 2 ^ (-1074 : Int) := by
    rw [← zpow_natCast, ← zpow_mul]
    rfl
  have hhigh : ((2 : ℚ) ^ (28 : Int)) ^ 2 = 2 ^ (56 : Int) := by
    rw [← zpow_natCast, ← zpow_mul]
    rfl
  have hroot : ∀ {x : Float} {p : ℚ}, Denotes x p → 0 < p → p ≤ 2 ^ (56 : Int) →
      ∃ r, Denotes x.sqrt r ∧ 2 ^ (-537 : Int) ≤ r ∧ r ≤ 2 ^ (28 : Int) := by
    intro x p hx hp hp56
    exact hx.sqrt_between (fits_two_zpow (by decide) (by decide))
      (fits_two_zpow (by decide) (by decide)) (by positivity) (by positivity)
      (hlow.trans_le (hx.fits.least_le hp)) (hp56.trans_eq hhigh.symm)
  obtain ⟨r, hr, hrlow, hrhigh⟩ := hroot hx hp hp56
  obtain ⟨s, hs, hslow, hshigh⟩ := hroot hy hq hq56
  have hproductlow : (2 : ℚ) ^ (-1074 : Int) ≤ r * s := by
    rw [← hlow, sq]
    exact mul_le_mul hrlow hslow (by positivity) ((by positivity : (0 : ℚ) ≤ _).trans hrlow)
  have hproducthigh : r * s ≤ 2 ^ (56 : Int) := by
    rw [← hhigh, sq]
    exact mul_le_mul hrhigh hshigh ((by positivity : (0 : ℚ) ≤ _).trans hslow) (by positivity)
  obtain ⟨d, hd, hdlow, -⟩ := hr.mul_between hs (fits_two_zpow (by decide) (by decide))
    (fits_two_zpow (by decide) (by decide)) (by positivity) hproductlow hproducthigh
  have hd0 : d ≠ 0 := ne_of_gt ((zpow_pos two_pos _).trans_le hdlow)
  obtain ⟨c, hc, -⟩ := hc
  exact (within_clamp (by decide) (isNaN_div_eq_false hc hd hd0)).1

theorem IsSmall.isNaN_pearson {xs ys : List Float} (hlen : xs.length = ys.length)
    (h2 : 2 ≤ xs.length) (hxs : IsSmall xs) (hys : IsSmall ys) (hx : ¬LiesOnMean xs)
    (hy : ¬LiesOnMean ys) : (pearson xs ys).r.isNaN = false := by
  have hfinite : ∀ v ∈ xs ++ ys, v.isFinite := by
    intro v hv
    rcases List.mem_append.1 hv with hv | hv
    · exact (hxs.bounded v hv).isFinite
    · exact (hys.bounded v hv).isFinite
  obtain ⟨b, hb⟩ := hxs.covariance hys
  obtain ⟨p, hp, hp0, hp56⟩ := hxs.exists_variance hx
  obtain ⟨q, hq, hq0, hq56⟩ := hys.exists_variance hy
  rw [← varianceX_moments hlen] at hp
  rw [← varianceY_moments hlen] at hq
  rw [pearson_eq hlen h2 hfinite, if_neg (not_or.2 ⟨hx, hy⟩)]
  exact Moments.isNaN_coefficient hb hp hq hp0 hq0 hp56 hq56

/-! ## Zeros and ones -/

section Mean
variable {xs : List Float}

theorem IsSmall.lt_half_of_liesOnMean (h : IsSmall xs) (hlies : LiesOnMean xs) {x : Float} {d : ℚ}
    (hx : x ∈ xs) (hd : Denotes (x - Statistics.mean xs) d) : |d| < 1 / 2 := by
  by_contra hfar
  obtain ⟨d', hd', hbound⟩ := h.sub_mean hx
  obtain rfl := hd.eq hd'
  have hquarter : Fits (1 / 2 * (1 / 2)) := ⟨1, -2, by norm_num, by decide, by decide, by decide⟩
  have hfour : Fits (2 * 2) := ⟨4, 0, by norm_num, by decide, by decide, by decide⟩
  exact not_denotes_zero_mul_self hd one_half_pos (not_lt.1 hfar) hbound hquarter hfour
    (denotes_zero_iff.2 (hlies x hx))

/-- Wherever the mean of the series is, it is half away from zero or from one. -/
theorem IsSmall.not_liesOnMean (h : IsSmall xs) {x₀ x₁ : Float} (hx₀ : x₀ ∈ xs) (hx₁ : x₁ ∈ xs)
    (h₀ : Denotes x₀ 0) (h₁ : Denotes x₁ 1) : ¬LiesOnMean xs := by
  intro hlies
  obtain ⟨μ, hμ, hle⟩ := h.mean
  have hnear : |0 - μ| < 1 / 2 :=
    h.lt_half_of_liesOnMean hlies hx₀ (h₀.sub hμ (by rw [zero_sub]; exact hμ.fits.neg))
  rw [zero_sub, abs_neg] at hnear
  have hfar : 1 / 2 ≤ 1 - μ := by linarith only [(abs_lt.1 hnear).2]
  have hrange : |1 - μ| ≤ 2 := by
    rw [abs_of_nonneg (one_half_pos.le.trans hfar)]
    linarith only [(abs_le.1 hle).1]
  have htwo : Fits 2 := ⟨2, 0, by norm_num, by decide, by decide, by decide⟩
  have hhalf : Fits (1 / 2) := ⟨1, -1, by norm_num, by decide, by decide, by decide⟩
  obtain ⟨d, hd, hfaithful⟩ := h₁.sub_faithful hμ ⟨2, htwo, hrange⟩
  have hd2 := h.lt_half_of_liesOnMean hlies hx₁ hd
  exact absurd ((hfaithful.le _ hhalf hfar).trans (le_abs_self d)) (not_le.2 hd2)

end Mean

end TwoVenues.Statistics

import Mathlib.Tactic.NormNum
import TwoVenues.Comparison.Summary
import TwoVenues.Proofs.Comparison.Lead
import TwoVenues.Proofs.Statistics.Flat

/-!
# Venues that quote one number

* `Comparison.IsUncounted c` : `c` makes no difference to the counts of high correlations;
* `Comparison.ofSeries_of_liesOnMean` : the comparison with a venue that lies on its mean;
* `flat_uncorrelated` : flat series and flat windows of quotes;
* `exists_flat_correlated` : quotes of `0.1`, which are flat and correlated.
-/

namespace TwoVenues
open Statistics

/-- The counts of high correlations of a batch are the same with and without `c`. -/
def Comparison.IsUncounted (c : Comparison) : Prop := ∀ before after,
  (Summary.ofComparisons (before ++ c :: after)).above90 =
      (Summary.ofComparisons (before ++ after)).above90 ∧
    (Summary.ofComparisons (before ++ c :: after)).above95 =
      (Summary.ofComparisons (before ++ after)).above95

namespace Comparison

theorem isUncounted_of_isNaN {c : Comparison} (h : c.correlation.isNaN) : c.IsUncounted := by
  intro before after
  have hdefined : Summary.defined ((before ++ c :: after).map (·.correlation)) =
      Summary.defined ((before ++ after).map (·.correlation)) := by
    simp only [Summary.defined, List.map_append, List.map_cons, List.filter_append,
      List.filter_cons, h, Bool.not_true, Bool.false_eq_true, if_false]
  simp only [Summary.ofComparisons, hdefined, and_self]

theorem ofSeries_of_liesOnMean {s : CorrelationSettings} (instrument : String) {as bs : List Float}
    (hn : s.minSamples ≤ min as.length bs.length)
    (h : LiesOnMean (as.take (min as.length bs.length)) ∨
      LiesOnMean (bs.take (min as.length bs.length))) :
    ∃ c, ofSeries s instrument as bs = .ok c ∧ c.correlation.isNaN ∧ c.pValue.isNaN ∧
      c.IsUncounted := by
  obtain ⟨c, hc⟩ := exists_ofSeries s instrument hn
  obtain ⟨hcorrelation, hp⟩ := isNaN_of_undefined hc (pearson_eq_undefined h)
  exact ⟨c, hc, hcorrelation, hp, isUncounted_of_isNaN hcorrelation⟩

end Comparison

/-- **A series of one number has no correlation** where the computed mean agrees with the number, as
it does if copies of the number are added up exactly, and a venue whose quotes are such a series is
not counted. Where neither series lies on its mean, a correlation is computed. -/
theorem flat_uncorrelated {xs ys : List Float} (hlen : xs.length = ys.length)
    (h2 : 2 ≤ xs.length) :
    (IsFlat xs ∧ LiesOnMean xs ∨ IsFlat ys ∧ LiesOnMean ys →
      ((pearson xs ys).r.isNaN ∧ (pearson xs ys).p.isNaN) ∧
      ∀ (s : CorrelationSettings) (instrument : String) (as bs : List Float), s.fault? = none →
        s.minSamples ≤ min as.length bs.length →
        as.take (min as.length bs.length) = xs → bs.take (min as.length bs.length) = ys →
        ∃ c, Comparison.ofSeries s instrument as bs = .ok c ∧ c.correlation.isNaN ∧
          c.pValue.isNaN ∧ c.IsUncounted) ∧
    (∀ zs : List Float, IsFlat zs → (∃ z ∈ zs, CopiesFit zs.length z) → LiesOnMean zs) ∧
    ((∀ v ∈ xs ++ ys, v.isFinite) → ¬LiesOnMean xs → ¬LiesOnMean ys →
      pearson xs ys = computed xs ys) := by
  refine ⟨?_, ?_, ?_⟩
  · intro hflat
    have honMean : LiesOnMean xs ∨ LiesOnMean ys := hflat.imp And.right And.right
    constructor
    · rw [pearson_eq_undefined honMean]
      decide
    · rintro s instrument as bs _ hn rfl rfl
      exact Comparison.ofSeries_of_liesOnMean instrument hn honMean
  · rintro zs h ⟨z, hz, hcopies⟩
    exact h.liesOnMean hz hcopies
  · intro hfinite hxs hys
    rw [pearson_eq hlen h2 hfinite, if_neg]
    rintro (h | h)
    · exact hxs h
    · exact hys h

/-- Ten quotes of `62.5`, against ten quotes that rise. -/
theorem flat_uncorrelated_with_rising :
    let as := List.replicate 10 62.5
    let bs := [1.0, 2.0, 3.0, 4.0, 5.0, 6.0, 7.0, 8.0, 9.0, 10.0]
    (as.length = bs.length ∧ 2 ≤ as.length) ∧ (IsFlat as ∧ LiesOnMean as) ∧
      (pearson as bs).r.isNaN ∧
      ∃ c, Comparison.ofSeries {} "ETH-20250531-2700-C" as bs = .ok c ∧ c.IsUncounted := by
  intro as bs
  have hlen : as.length = bs.length := by decide
  have h2 : 2 ≤ as.length := by decide
  obtain ⟨hundefined, hmean, -⟩ := flat_uncorrelated hlen h2
  have hflat : IsFlat as := by decide +kernel
  have hbits : Double.Denotes (Float.ofBits 0x404F400000000000) ((125 : Int) * 2 ^ (-1 : Int)) := by
    show ((125 : Int) : ℚ) * 2 ^ (-1 : Int) = ((125 * 2 ^ 46 : Nat) : Int) * 2 ^ (-47 : Int)
    norm_num
  have hvalue := hbits.beq (y := 62.5) (by decide +kernel)
  have hcopies : CopiesFit as.length 62.5 :=
    copiesFit_of_lt (by decide) hvalue (by decide) (by decide)
  have honMean : LiesOnMean as := hmean as hflat ⟨62.5, by simp [as], hcopies⟩
  obtain ⟨⟨hr, -⟩, hseries⟩ := hundefined (Or.inl ⟨hflat, honMean⟩)
  obtain ⟨c, hc, -, -, huncounted⟩ := hseries {} "ETH-20250531-2700-C" as bs (by decide +kernel)
    (by decide) (List.take_of_length_le (by decide)) (List.take_of_length_le (by decide))
  exact ⟨⟨hlen, h2⟩, ⟨hflat, honMean⟩, hr, c, hc, huncounted⟩

/-- Ten quotes of `0.1` at either venue are flat, but seen to move together. -/
theorem exists_flat_correlated :
    ∃ quotes : List Float, IsFlat quotes ∧ 2 ≤ quotes.length ∧ (∀ v ∈ quotes, v.isFinite) ∧
      (pearson quotes quotes).r.isNaN = false ∧
      CorrelationSettings.fault? {} = none ∧
      ∃ c, Comparison.ofSeries {} "ETH-20250531-2700-C" quotes quotes = .ok c ∧
        (Summary.ofComparisons [c]).above90 = 1 ∧ (Summary.ofComparisons [c]).above95 = 1 := by
  refine ⟨List.replicate 10 0.1, by decide +kernel, by decide, by decide +kernel,
    by decide +kernel, by decide +kernel, _,
    Comparison.ofSeries_eq_ok_iff.2 ⟨by decide, rfl⟩, ?_, ?_⟩
  · decide +kernel
  · decide +kernel

end TwoVenues

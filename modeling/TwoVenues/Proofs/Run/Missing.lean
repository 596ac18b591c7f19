import TwoVenues.Proofs.Comparison.Batch
import TwoVenues.Proofs.Lag.Best
import TwoVenues.Proofs.Statistics.Flat
import TwoVenues.Run

/-!
# Missing values show no lead

A value that is missing is not finite, and leaves the series without a correlation. Shifted series
may still have one, namely those that the missing value is cut off from; but the scan has the entry
of lag zero too, and is then left without a best entry.

* `Comparison.HasGap as bs` : two series of which some value is not finite;
* `Comparison.IsInconclusive` : neither a correlation nor a lead;
* `Comparison.isInconclusive_of_hasGap`, `Comparison.best_of_hasGap` : the comparison of two such
  series;
* `Conversion.valueB_of_unresolved` : a row without a reference price has no converted value;
* `Run.isInconclusive_of_unresolved` : the comparison of an instrument with such a row;
* `missing_shows_no_lead` : series and runs.
-/

namespace TwoVenues

namespace Comparison

/-- Some value of the series, which are cut to the shorter length, is not finite. -/
def HasGap (as bs : List Float) : Prop :=
  ∃ v ∈ as.take (min as.length bs.length) ++ bs.take (min as.length bs.length), ¬v.isFinite

instance (as bs : List Float) : Decidable (HasGap as bs) :=
  inferInstanceAs (Decidable (∃ v ∈ as.take (min as.length bs.length) ++
    bs.take (min as.length bs.length), ¬v.isFinite))

/-- A comparison that finds neither a correlation nor a lead. -/
structure IsInconclusive (c : Comparison) (level : Float) : Prop where
  correlation : c.correlation.isNaN
  pValue : c.pValue.isNaN
  lead : c.lead level = .notSignificant

/-! ## Series -/

section Series
variable {s : CorrelationSettings} {instrument : String} {as bs : List Float} {c : Comparison}

theorem isNaN_of_hasGap (hc : ofSeries s instrument as bs = .ok c) (hgap : HasGap as bs) :
    c.correlation.isNaN ∧ c.pValue.isNaN := by
  obtain ⟨v, hv, hfinite⟩ := hgap
  exact isNaN_of_undefined hc (Statistics.pearson_of_not_isFinite fun h => hfinite (h v hv))

/-- With enough overlap at lag zero the scan has an entry without a correlation. -/
theorem best_of_hasGap (hc : ofSeries s instrument as bs = .ok c) (hgap : HasGap as bs)
    (hoverlap : s.minOverlap ≤ min as.length bs.length) :
    c.bestLag = 0 ∧ c.bestLagCorrelation.isNaN ∧ c.bestLagPValue.isNaN := by
  have hnone : Lag.best? (Lag.scan s as bs) = none :=
    Lag.best?_of_isNaN (mem_scan hc hoverlap) (isNaN_of_hasGap hc hgap).1
  obtain ⟨hlag, hcorrelation, hp⟩ := ofSeries_best hc
  rw [bestOf, hnone, Option.getD_none] at hlag hcorrelation hp
  have hnan : Double.nan.isNaN := by decide
  rw [hlag, hcorrelation, hp]
  exact ⟨rfl, hnan, hnan⟩

theorem isInconclusive_of_hasGap (hlevel : s.significanceLevel ≤ 1.0)
    (hc : ofSeries s instrument as bs = .ok c) (hgap : HasGap as bs) :
    c.IsInconclusive s.significanceLevel := by
  obtain ⟨hcorrelation, hp⟩ := isNaN_of_hasGap hc hgap
  refine ⟨hcorrelation, hp, lead_of_not_significant ?_⟩
  intro hsignificant
  -- a significant entry has enough overlap at its lag, and all the more so at lag zero
  obtain ⟨-, hbest, -, hout⟩ := best_spec hlevel hc hsignificant
  have hdefined := (hout _ (mem_scan hc (hbest.trans (Nat.sub_le _ _)))).1
  rw [hcorrelation] at hdefined
  cases hdefined

end Series

end Comparison

/-! ## Runs -/

theorem Conversion.valueB_of_unresolved (reference : List PricePoint) (last : Option Float)
    (rows : List Observation) {o : Observation} (ho : o ∈ forward reference last rows)
    (hprice : o.referencePrice = none) : o.valueB = Double.nan := by
  induction rows generalizing last with
  | nil => cases ho
  | cons row rows ih =>
    rcases List.mem_cons.1 ho with rfl | ho
    · change (priceAt? reference row.time).or last = none at hprice
      show (applyPrice ((priceAt? reference row.time).or last) row).valueB = Double.nan
      rw [hprice]
      rfl
    · exact ih _ ho

namespace Run
variable {s : Settings} {sides : Sides} {points : List PricePoint} {filter : Option String}

theorem mem_results {reference : Option (List PricePoint)} {c : Comparison} :
    c ∈ (ofQuotes s sides reference filter).results ↔
      c ∈ Comparison.ofObservations s.correlation filter
        (ofQuotes s sides reference filter).observations :=
  mem_sortBy _

theorem observations_of_levels (h : s.alignment.compareReturns = false)
    (reference : Option (List PricePoint)) :
    (ofQuotes s sides reference filter).observations = align sides.a sides.b reference := by
  simp [ofQuotes, observed, h]

theorem isInconclusive_of_unresolved (hlevel : s.correlation.significanceLevel ≤ 1.0)
    (hlevels : s.alignment.compareReturns = false) {c : Comparison}
    (hc : c ∈ (ofQuotes s sides (some points) filter).results) {o : Observation}
    (ho : o ∈ (ofQuotes s sides (some points) filter).observations)
    (hinstrument : o.instrument = c.instrument) (hprice : o.referencePrice = none) :
    c.IsInconclusive s.correlation.significanceLevel := by
  obtain ⟨-, -, hseries⟩ := Comparison.mem_ofObservations.1 (mem_results.1 hc)
  have hmem := Observation.mem_ofInstrument.2 ⟨ho, hinstrument⟩
  refine Comparison.isInconclusive_of_hasGap hlevel hseries ⟨o.valueB, ?_, ?_⟩
  · -- both series of an instrument have a value for each row, so that none is cut off
    rw [List.length_map, List.length_map, Nat.min_self, List.take_of_length_le (by simp),
      List.take_of_length_le (by simp)]
    exact List.mem_append_right _ (List.mem_map_of_mem hmem)
  · rw [observations_of_levels hlevels] at ho
    rw [Conversion.valueB_of_unresolved points none _ ho hprice]
    decide

end Run

/-- **A missing value shows no lead**, be it in one of two series or a row of a run that no
reference price is known for, whatever the shifted series have in common. -/
theorem missing_shows_no_lead {s : Settings} (hs : s.correlation.fault? = none) :
    (∀ instrument as bs, s.correlation.minSamples ≤ min as.length bs.length →
      Comparison.HasGap as bs →
      ∃ c, Comparison.ofSeries s.correlation instrument as bs = .ok c ∧
        c.IsInconclusive s.correlation.significanceLevel ∧
        (s.correlation.minOverlap ≤ min as.length bs.length →
          c.bestLag = 0 ∧ c.bestLagCorrelation.isNaN ∧ c.bestLagPValue.isNaN)) ∧
    (s.alignment.compareReturns = false → ∀ sides points filter,
      let run := Run.ofQuotes s sides (some points) filter
      ∀ c ∈ run.results,
        (∃ o ∈ run.observations, o.instrument = c.instrument ∧ o.referencePrice = none) →
        c.IsInconclusive s.correlation.significanceLevel) := by
  obtain ⟨-, -, -, ⟨-, hlevel⟩, -⟩ := CorrelationSettings.fault?_eq_none_iff.1 hs
  constructor
  · intro instrument as bs hn hgap
    obtain ⟨c, hc⟩ := Comparison.exists_ofSeries s.correlation instrument hn
    exact ⟨c, hc, Comparison.isInconclusive_of_hasGap hlevel hc hgap,
      Comparison.best_of_hasGap hc hgap⟩
  · rintro hlevels sides points filter run c hc ⟨o, ho, hinstrument, hprice⟩
    exact Run.isInconclusive_of_unresolved hlevel hlevels hc ho hinstrument hprice

/-- Venue B repeats venue A one step later. Its first value is missing, but has no part in the
correlation at lag `-1`. In the run it is missing for want of a reference price. -/
theorem missing_shows_no_lead_of_echo :
    let s : Settings := { correlation := { minSamples := 5 } }
    let as := [1.0, -1.0, 1.0, -1.0, 3.0]
    let bs := [Double.nan, 1.0, -1.0, 1.0, -1.0]
    let name := "ETH-20250531-2700-C"
    let quotes := fun (venue : Venue) (values : List Float) =>
      values.zipIdx.map fun (value, time) => (⟨time, venue, name, .ofFloat value⟩ : Quote)
    let run := Run.ofQuotes s ⟨quotes .a as, quotes .b [2.0, 1.0, -1.0, 1.0, -1.0]⟩
      (some [⟨1, 1.0⟩]) none
    (s.correlation.fault? = none ∧ s.correlation.minSamples ≤ min as.length bs.length ∧
      Comparison.HasGap as bs ∧ s.alignment.compareReturns = false) ∧
    (∃ e ∈ Lag.scan s.correlation as bs, e.lag = -1 ∧ e.correlation = 1.0 ∧
      e.pValue < s.correlation.significanceLevel) ∧
    (∃ c, Comparison.ofSeries s.correlation name as bs = .ok c ∧ c.bestLag = 0 ∧
      c.lead s.correlation.significanceLevel = .notSignificant) ∧
    ∃ c, run.results = [c] ∧ c.correlation.isNaN ∧
      c.lead s.correlation.significanceLevel = .notSignificant := by
  intro s as bs name quotes run
  have hs : s.correlation.fault? = none := by decide +kernel
  have hn : s.correlation.minSamples ≤ min as.length bs.length := by decide
  have hgap : Comparison.HasGap as bs := by decide +kernel
  obtain ⟨hseries, hrun⟩ := missing_shows_no_lead hs
  obtain ⟨c, hc, hinconclusive, hbest⟩ := hseries name as bs hn hgap
  refine ⟨⟨hs, hn, hgap, rfl⟩, by decide +kernel,
    ⟨c, hc, (hbest (by decide)).1, hinconclusive.lead⟩, ?_⟩
  have hnames : run.results.map (·.instrument) = [name] := by decide +kernel
  obtain ⟨d, hd, hname⟩ := List.map_eq_singleton_iff.1 hnames
  have hrow : ∃ o ∈ run.observations, o.instrument = name ∧ o.referencePrice = none := by
    decide +kernel
  have hmissing := hrun rfl _ _ none d (hd ▸ List.mem_singleton_self d) (hname ▸ hrow)
  exact ⟨d, hd, hmissing.correlation, hmissing.lead⟩

end TwoVenues

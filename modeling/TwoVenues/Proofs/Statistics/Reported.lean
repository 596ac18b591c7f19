import TwoVenues.Proofs.Clusters.Groups
import TwoVenues.Proofs.Comparison.Lead
import TwoVenues.Proofs.Comparison.Points
import TwoVenues.Proofs.Presence.Tables
import TwoVenues.Proofs.Statistics.Coupled

/-!
# Every reported correlation

Lags, instruments and pairs of sizes are reported with the correlation and the p-value of two
series, except for lags with few points and for scans without a best lag. What holds of the
correlation of any two series and of these two exceptions holds of all that is reported.

The analysis is taken with any way to correlate two series in place of `pearson`, so that the
p-values may come from any distribution function.

* `Analysis`, `Analysis.ofCorrelation` : an analysis from a way to correlate;
* `Analysis.own_eq` : the analysis as it is takes its p-values from `studentCdf`;
* `Analysis.IsCoupled` : what the correlations of an analysis have to be;
* `Analysis.isCoupled_ofCorrelation` : it is enough that they are for any two series;
* `Analysis.reports_coupled` : the analysis under any distribution function.
-/

namespace TwoVenues
open Statistics (Pearson pearson)

/-! ## Analyses -/

/-- The entry of one lag, with series correlated in a given way. -/
def Lag.entryBy (correlate : List Float → List Float → Pearson) (s : CorrelationSettings) (n : Nat)
    (xs ys : List Float) (lag : Int) : LagEntry :=
  let overlap := n - lag.natAbs
  if overlap < s.minOverlap then placeholder lag overlap
  else
    let (x, y) := shifted n xs ys lag
    let c := correlate x y
    ⟨lag, c.r, c.p, overlap⟩

def Lag.scanBy (correlate : List Float → List Float → Pearson) (s : CorrelationSettings)
    (xs ys : List Float) : List LagEntry :=
  let n := min xs.length ys.length
  (lags (s.maxLag n)).map (entryBy correlate s n xs ys)

/-- The comparison of two series, correlated in a given way. -/
def Comparison.ofSeriesBy (correlate : List Float → List Float → Pearson) (s : CorrelationSettings)
    (instrument : String) (as bs : List Float) : Except Fault Comparison :=
  let n := min as.length bs.length
  if n < s.minSamples then .error (.fewObservations instrument n s.minSamples)
  else
    let as := as.take n
    let bs := bs.take n
    let together := correlate as bs
    let best := (Lag.best? (Lag.scanBy correlate s as bs)).getD
      ⟨0, Double.nan, Double.nan, as.length⟩
    .ok { ofEqualSeries s instrument as bs with
      correlation := together.r
      pValue := together.p
      bestLag := best.lag
      bestLagCorrelation := best.correlation
      bestLagPValue := best.pValue }

def PresenceRow.correlationBy (correlate : List Float → List Float → Pearson) :
    PresenceRow × PresenceRow → SizeCorrelation
  | ((size1, row1), (size2, row2)) =>
    let c := correlate (toNumbers row1) (toNumbers row2)
    ⟨size1, size2, c.r, c.p⟩

def PresenceReport.ofSeriesBy (correlate : List Float → List Float → Pearson) (s : PresenceSettings)
    (series : PresenceSeries) : PresenceReport :=
  let m := PresenceMatrix.ofSeries series
  let correlations := (laterPairs (m.sizes.zip m.rows)).map (PresenceRow.correlationBy correlate)
  let report := ofMatrix s m
  { report with
    correlations
    groups := SizeGroup.ofStats report.stats correlations s.clusterMinCorrelation
      s.clusterMaxPValue }

theorem PresenceReport.correlations_ofSeriesBy (correlate : List Float → List Float → Pearson)
    (s : PresenceSettings) (series : PresenceSeries) :
    (ofSeriesBy correlate s series).correlations = (laterPairs series.entries).map fun pair =>
      PresenceRow.correlationBy correlate
        (PresenceMatrix.rowOf series pair.1, PresenceMatrix.rowOf series pair.2) := by
  change List.map _ _ = _
  rw [PresenceMatrix.zip_rows, laterPairs_map, List.map_map]
  rfl

/-- The functions that report correlations. -/
structure Analysis where
  correlate : List Float → List Float → Pearson
  scan : CorrelationSettings → List Float → List Float → List LagEntry
  compare : CorrelationSettings → String → List Float → List Float → Except Fault Comparison
  report : PresenceSettings → PresenceSeries → PresenceReport

namespace Analysis

def own : Analysis := ⟨pearson, Lag.scan, Comparison.ofSeries, PresenceReport.ofSeries⟩

/-- The analysis with series correlated in a given way. -/
def ofCorrelation (correlate : List Float → List Float → Pearson) : Analysis where
  correlate
  scan := Lag.scanBy correlate
  compare := Comparison.ofSeriesBy correlate
  report := PresenceReport.ofSeriesBy correlate

theorem correlate_ofCorrelation (correlate : List Float → List Float → Pearson) :
    (ofCorrelation correlate).correlate = correlate := rfl

theorem own_eq : own = ofCorrelation (Statistics.pearsonUnder Statistics.studentCdf) := rfl

/-- All correlations of series of fewer than `n` values come with their p-values, and none that is
undefined is significant or links two sizes. -/
structure IsCoupled (a : Analysis) (n : Nat) : Prop where
  correlate : ∀ xs ys, xs.length < n → (a.correlate xs ys).IsCoupled
  scan : ∀ s xs ys, xs.length < n → ∀ e ∈ a.scan s xs ys,
    Pearson.IsCoupled ⟨e.correlation, e.pValue⟩
  together : ∀ s instrument as bs c, as.length < n → a.compare s instrument as bs = .ok c →
    Pearson.IsCoupled ⟨c.correlation, c.pValue⟩
  best : ∀ s instrument as bs c, as.length < n → a.compare s instrument as bs = .ok c →
    Pearson.IsCoupled ⟨c.bestLagCorrelation, c.bestLagPValue⟩
  significant : ∀ s instrument as bs c level, as.length < n →
    a.compare s instrument as bs = .ok c → c.isSignificant level →
      c.bestLagCorrelation.isNaN = false
  report : ∀ s series, (PresenceMatrix.ofSeries series).times.length < n →
    ∀ pair ∈ (a.report s series).correlations, Pearson.IsCoupled ⟨pair.correlation, pair.pValue⟩
  link : ∀ s series, (PresenceMatrix.ofSeries series).times.length < n →
    ∀ pair ∈ (a.report s series).correlations, ∀ minCorrelation maxPValue,
      pair.isLink minCorrelation maxPValue → pair.correlation.isNaN = false

/-! ## Where the correlations come from -/

section Sources
variable {correlate : List Float → List Float → Pearson} {n : Nat}
variable (h : ∀ xs ys : List Float, xs.length < n → (correlate xs ys).IsCoupled)
include h

theorem isCoupled_entryBy (s : CorrelationSettings) {xs ys : List Float} (hxs : xs.length < n)
    (lag : Int) : Pearson.IsCoupled
      ⟨(Lag.entryBy correlate s (min xs.length ys.length) xs ys lag).correlation,
        (Lag.entryBy correlate s (min xs.length ys.length) xs ys lag).pValue⟩ := by
  have hlength : (Lag.shifted (min xs.length ys.length) xs ys lag).1.length =
      min xs.length ys.length - lag.natAbs :=
    (Lag.length_shifted (Nat.min_le_left _ _) (Nat.min_le_right _ _)).1
  unfold Lag.entryBy
  by_cases hfew : min xs.length ys.length - lag.natAbs < s.minOverlap
  · simp only [if_pos hfew]
    exact Pearson.isCoupled_placeholder
  · simp only [if_neg hfew]
    exact h _ _ (by omega)

theorem isCoupled_scanBy (s : CorrelationSettings) {xs ys : List Float} (hxs : xs.length < n)
    {e : LagEntry} (he : e ∈ Lag.scanBy correlate s xs ys) :
    Pearson.IsCoupled ⟨e.correlation, e.pValue⟩ := by
  obtain ⟨lag, -, rfl⟩ := List.mem_map.1 he
  exact isCoupled_entryBy h s hxs lag

/-- The best lag is one of the scan, and without one there is no correlation. -/
theorem isCoupled_best (s : CorrelationSettings) {xs ys : List Float} (hxs : xs.length < n)
    {length : Nat} {best : LagEntry} (hbest : best =
      (Lag.best? (Lag.scanBy correlate s xs ys)).getD ⟨0, Double.nan, Double.nan, length⟩) :
    Pearson.IsCoupled ⟨best.correlation, best.pValue⟩ := by
  cases hscan : Lag.best? (Lag.scanBy correlate s xs ys) with
  | none =>
    rw [hscan, Option.getD_none] at hbest
    rw [hbest]
    exact Pearson.isCoupled_undefined
  | some b =>
    rw [hscan, Option.getD_some] at hbest
    rw [hbest]
    exact isCoupled_scanBy h s hxs (Lag.best?_spec hscan).2.mem

theorem isCoupled_ofSeriesBy {s : CorrelationSettings} {instrument : String} {as bs : List Float}
    {c : Comparison} (has : as.length < n)
    (hc : Comparison.ofSeriesBy correlate s instrument as bs = .ok c) :
    Pearson.IsCoupled ⟨c.correlation, c.pValue⟩ ∧
      Pearson.IsCoupled ⟨c.bestLagCorrelation, c.bestLagPValue⟩ := by
  have htake : (as.take (min as.length bs.length)).length < n := by
    rw [List.length_take]
    omega
  unfold Comparison.ofSeriesBy at hc
  by_cases hfew : min as.length bs.length < s.minSamples
  · simp only [if_pos hfew] at hc
    cases hc
  · simp only [if_neg hfew] at hc
    obtain rfl := Except.ok.inj hc
    exact ⟨h _ _ htake, isCoupled_best h s htake rfl⟩

theorem isCoupled_report {s : PresenceSettings} {series : PresenceSeries}
    (htimes : (PresenceMatrix.ofSeries series).times.length < n) {pair : SizeCorrelation}
    (hpair : pair ∈ (PresenceReport.ofSeriesBy correlate s series).correlations) :
    Pearson.IsCoupled ⟨pair.correlation, pair.pValue⟩ := by
  rw [PresenceReport.correlations_ofSeriesBy] at hpair
  obtain ⟨d, -, e, -, rfl⟩ := exists_of_mem_map_laterPairs hpair
  have hlength : (PresenceRow.toNumbers (PresenceMatrix.rowOf series d).2).length < n := by
    rwa [PresenceRow.toNumbers, List.length_map, PresenceMatrix.length_rowOf]
  exact h _ _ hlength

theorem isCoupled_ofCorrelation : (ofCorrelation correlate).IsCoupled n where
  correlate := h
  scan s _ _ hxs _ he := isCoupled_scanBy h s hxs he
  together _ _ _ _ _ has hc := (isCoupled_ofSeriesBy h has hc).1
  best _ _ _ _ _ has hc := (isCoupled_ofSeriesBy h has hc).2
  significant _ _ _ _ _ _ has hc hlevel :=
    (isCoupled_ofSeriesBy h has hc).2.isNaN_of_lt (of_decide_eq_true hlevel)
  report _ _ htimes _ hpair := isCoupled_report h htimes hpair
  link _ _ htimes _ hpair _ _ hlink :=
    (isCoupled_report h htimes hpair).isNaN_of_lt
      (of_decide_eq_true (Bool.and_eq_true_iff.1 hlink).2)

end Sources

/-- **Every reported correlation comes with its p-value**: both are numbers within their bounds, or
neither is a number. All that is asked of the distribution function is that it is a number where it
is asked for a number; the analysis as it is has `studentCdf` for it. -/
theorem reports_coupled {cdf : Float → Float → Float} (hcdf : Statistics.IsDefined cdf) :
    (ofCorrelation (Statistics.pearsonUnder cdf)).IsCoupled (2 ^ 64) ∧
      own = ofCorrelation (Statistics.pearsonUnder Statistics.studentCdf) :=
  ⟨isCoupled_ofCorrelation fun xs ys h => Statistics.pearsonUnder_isCoupled xs ys hcdf h, own_eq⟩

/-- At zero, half of every distribution is on the left. -/
theorem reports_coupled_at_zero : Statistics.IsDefined (fun _ _ => 0.5) ∧
    Statistics.pearsonUnder (fun _ _ => 0.5) [-1.0, 0.0, 1.0] [1.0, -2.0, 1.0] = ⟨0.0, 1.0⟩ ∧
    Statistics.pearson [-1.0, 0.0, 1.0] [1.0, -2.0, 1.0] = ⟨0.0, 1.0⟩ ∧
    (Statistics.pearsonUnder (fun _ _ => 0.5) [-1.0, 0.0, 1.0] [1.0, -2.0, 1.0]).IsCoupled := by
  have hnumber : (0.5 : Float).isNaN = false := by decide
  have hhalf : Statistics.IsDefined (fun _ _ => 0.5) := fun _ _ _ _ => hnumber
  have hcoupled := (reports_coupled hhalf).1.correlate [-1.0, 0.0, 1.0] [1.0, -2.0, 1.0] (by decide)
  rw [correlate_ofCorrelation] at hcoupled
  exact ⟨hhalf, by decide +kernel, by decide +kernel, hcoupled⟩

end Analysis

end TwoVenues

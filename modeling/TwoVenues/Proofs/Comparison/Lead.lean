import TwoVenues.Comparison.Analysis
import TwoVenues.Proofs.Lag.Best
import TwoVenues.Proofs.Lag.Entries
import TwoVenues.Proofs.Settings

/-!
# A reported lead can be read from the series

* `Comparison.BestCorrelates c xs ys` : the numbers of the best lag are the correlation of `xs`
  and `ys`;
* `Lead.IsShown` : what a lead says about the two series, case by case;
* `Comparison.BestStandsOut` : no entry of the scan comes before the best lag;
* `Comparison.ofSeries_correlation`, `Comparison.mem_scan` : the correlation of simultaneous values,
  which the scan has at lag zero;
* `Comparison.bestOf`, `Comparison.ofSeries_best` : where the numbers of the best lag come from;
* `Comparison.exists_best` : a significant best lag is the best entry of the scan;
* `Comparison.best_spec` : what is known of a significant best lag, whatever its sign.
-/

namespace TwoVenues

/-- The numbers of the best lag are the correlation of two series. -/
def Comparison.BestCorrelates (c : Comparison) (xs ys : List Float) : Prop :=
  ⟨c.bestLagCorrelation, c.bestLagPValue⟩ = Statistics.pearson xs ys

/-- What a lead says about two series of common length `n`. A venue that leads by `k` steps is
compared with the values of the other venue that stand `k` places later. -/
def Lead.IsShown (s : CorrelationSettings) (n : Nat) (as bs : List Float) (c : Comparison) :
    Lead → Prop
  | .venueA k => 1 ≤ k ∧ k ≤ s.maxLag n ∧ s.minOverlap ≤ n - k ∧ c.bestLag = -(k : Int) ∧
      c.bestLagPValue < s.significanceLevel ∧
      c.BestCorrelates (as.take (n - k)) ((bs.take n).drop k)
  | .venueB k => 1 ≤ k ∧ k ≤ s.maxLag n ∧ s.minOverlap ≤ n - k ∧ c.bestLag = (k : Int) ∧
      c.bestLagPValue < s.significanceLevel ∧
      c.BestCorrelates ((as.take n).drop k) (bs.take (n - k))
  | .synchronous => s.minOverlap ≤ n ∧ c.bestLag = 0 ∧
      c.bestLagPValue < s.significanceLevel ∧ c.BestCorrelates (as.take n) (bs.take n)
  | .notSignificant => ¬c.bestLagPValue < s.significanceLevel

/-- Every entry has a correlation. None is larger in absolute value than that of the best lag, and
those of smaller lags are smaller. -/
def Comparison.BestStandsOut (c : Comparison) (entries : List LagEntry) : Prop :=
  ∀ e ∈ entries, e.correlation.isNaN = false ∧
    e.correlation.abs ≤ c.bestLagCorrelation.abs ∧
    (e.lag < c.bestLag → e.correlation.abs < c.bestLagCorrelation.abs)

namespace Comparison
variable {s : CorrelationSettings} {instrument : String} {as bs : List Float}

theorem ofSeries_eq_ok_iff {c : Comparison} : ofSeries s instrument as bs = .ok c ↔
    s.minSamples ≤ min as.length bs.length ∧ c = ofEqualSeries s instrument
      (as.take (min as.length bs.length)) (bs.take (min as.length bs.length)) := by
  simp only [ofSeries]
  split
  · next h => simp [Nat.not_le.2 h]
  · next h => simp [Nat.not_lt.1 h, eq_comm]

theorem exists_ofSeries (s : CorrelationSettings) (instrument : String) {as bs : List Float}
    (hn : s.minSamples ≤ min as.length bs.length) : ∃ c, ofSeries s instrument as bs = .ok c :=
  ⟨_, ofSeries_eq_ok_iff.2 ⟨hn, rfl⟩⟩

theorem ofSeries_correlation {c : Comparison} (hc : ofSeries s instrument as bs = .ok c) :
    ⟨c.correlation, c.pValue⟩ = Statistics.pearson (as.take (min as.length bs.length))
      (bs.take (min as.length bs.length)) := by
  obtain ⟨-, rfl⟩ := ofSeries_eq_ok_iff.1 hc
  rfl

theorem isNaN_of_undefined {c : Comparison} (hc : ofSeries s instrument as bs = .ok c)
    (h : Statistics.pearson (as.take (min as.length bs.length))
      (bs.take (min as.length bs.length)) = .undefined) :
    c.correlation.isNaN ∧ c.pValue.isNaN := by
  obtain ⟨hr, hp⟩ := Statistics.Pearson.mk.inj ((ofSeries_correlation hc).trans h)
  rw [hr, hp]
  decide

/-- Series with enough overlap are compared as they stand at lag zero. -/
theorem mem_scan {c : Comparison} (hc : ofSeries s instrument as bs = .ok c)
    (hoverlap : s.minOverlap ≤ min as.length bs.length) :
    ⟨0, c.correlation, c.pValue, min as.length bs.length⟩ ∈ Lag.scan s as bs := by
  have hzero : (0 : Int) ∈ Lag.lags (s.maxLag (min as.length bs.length)) :=
    Lag.mem_lags.2 (Nat.zero_le _)
  have hentry := Lag.entry_of_overlap s _ as bs 0 hoverlap
  obtain ⟨-, rfl⟩ := ofSeries_eq_ok_iff.1 hc
  exact hentry ▸ List.mem_map_of_mem hzero

/-- The entry that a comparison takes for its best lag. -/
def bestOf (s : CorrelationSettings) (as bs : List Float) : LagEntry :=
  (Lag.best? (Lag.scan s as bs)).getD ⟨0, Double.nan, Double.nan, min as.length bs.length⟩

theorem ofSeries_best {c : Comparison} (hc : ofSeries s instrument as bs = .ok c) :
    c.bestLag = (bestOf s as bs).lag ∧ c.bestLagCorrelation = (bestOf s as bs).correlation ∧
      c.bestLagPValue = (bestOf s as bs).pValue := by
  obtain ⟨-, rfl⟩ := ofSeries_eq_ok_iff.1 hc
  simp only [ofEqualSeries, Lag.scan_take, bestOf]
  cases Lag.best? (Lag.scan s as bs) <;> exact ⟨rfl, rfl, rfl⟩

/-- A best lag that is significant at some level is the best entry of the scan. -/
theorem exists_best {level : Float} (h : (bestOf s as bs).pValue < level) :
    Lag.best? (Lag.scan s as bs) = some (bestOf s as bs) := by
  unfold bestOf at h ⊢
  cases hbest : Lag.best? (Lag.scan s as bs) with
  | none =>
    rw [hbest] at h
    have hnan : Double.nan < level := h
    exact absurd (Double.lt_iff.1 hnan).1 (by decide)
  | some b => rfl

/-- The lead of a significant best lag is its sign. -/
theorem lead_of_significant {c : Comparison} {level : Float} (h : c.bestLagPValue < level) :
    c.lead level = if c.bestLag = 0 then .synchronous
      else if c.bestLag > 0 then .venueB c.bestLag.natAbs else .venueA c.bestLag.natAbs := by
  rw [lead, isSignificant, decide_eq_true h, Bool.not_true, if_neg Bool.false_ne_true]

theorem lead_of_not_significant {c : Comparison} {level : Float} (h : ¬c.bestLagPValue < level) :
    c.lead level = .notSignificant := by
  simp [lead, isSignificant, h]

theorem best_spec {c : Comparison} (hlevel : s.significanceLevel ≤ 1.0)
    (hc : ofSeries s instrument as bs = .ok c) (h : c.bestLagPValue < s.significanceLevel) :
    c.bestLag.natAbs ≤ s.maxLag (min as.length bs.length) ∧
      s.minOverlap ≤ min as.length bs.length - c.bestLag.natAbs ∧
      c.BestCorrelates (Lag.shifted (min as.length bs.length) as bs c.bestLag).1
        (Lag.shifted (min as.length bs.length) as bs c.bestLag).2 ∧
      c.BestStandsOut (Lag.scan s as bs) := by
  obtain ⟨hlag, hcorrelation, hp⟩ := ofSeries_best hc
  rw [hp] at h
  obtain ⟨hdefined, hfirst⟩ := Lag.best?_spec (exists_best h)
  generalize bestOf s as bs = b at *
  have hout : ∀ e ∈ Lag.scan s as bs, e.correlation.isNaN = false ∧
      e.correlation.abs ≤ b.correlation.abs ∧
      (e.lag < b.lag → e.correlation.abs < b.correlation.abs) := fun e he =>
    ⟨hdefined e he, hfirst.abs_le (hdefined b hfirst.mem) he,
      hfirst.abs_lt (Lag.pairwise_lag_scan s as bs) he⟩
  rw [← hcorrelation, ← hlag] at hout
  obtain ⟨lag, hradius, rfl⟩ := List.mem_map.1 hfirst.mem
  have hoverlap : s.minOverlap ≤ min as.length bs.length - lag.natAbs :=
    Lag.overlap_of_significant hlevel h
  rw [Lag.lag_entry] at hlag
  rw [Lag.entry_of_overlap _ _ _ _ _ hoverlap] at hcorrelation hp
  rw [hlag]
  refine ⟨Lag.mem_lags.1 hradius, hoverlap, ?_, hout⟩
  rw [BestCorrelates, hcorrelation, hp]

/-- **Every reported lead is witnessed by the series**: by the correlation at a lag with enough
overlap, which is significant and stands out among all the lags of the scan. -/
theorem ofSeries_lead_isShown (hs : s.fault? = none) (instrument : String) {as bs : List Float}
    (hn : s.minSamples ≤ min as.length bs.length) :
    ∃ c, ofSeries s instrument as bs = .ok c ∧
      (c.lead s.significanceLevel).IsShown s (min as.length bs.length) as bs c ∧
      (c.lead s.significanceLevel ≠ .notSignificant →
        (Lag.scan s as bs).map (·.lag) = Lag.lags (s.maxLag (min as.length bs.length)) ∧
        c.BestStandsOut (Lag.scan s as bs)) := by
  obtain ⟨-, -, -, ⟨-, hlevel⟩, -⟩ := CorrelationSettings.fault?_eq_none_iff.1 hs
  obtain ⟨c, hc⟩ : ∃ c, ofSeries s instrument as bs = .ok c :=
    ⟨_, ofSeries_eq_ok_iff.2 ⟨hn, rfl⟩⟩
  refine ⟨c, hc, ?_⟩
  by_cases hsignificant : c.bestLagPValue < s.significanceLevel
  · obtain ⟨hradius, hoverlap, hcorrelates, hout⟩ := best_spec hlevel hc hsignificant
    refine ⟨?_, fun _ => ⟨Lag.map_lag_scan s as bs, hout⟩⟩
    rw [lead_of_significant hsignificant]
    rcases lt_trichotomy c.bestLag 0 with hneg | hzero | hpos
    · have hlag : c.bestLag = -(c.bestLag.natAbs : Int) := by omega
      rw [hlag, Lag.shifted_neg _ _ _ (by omega)] at hcorrelates
      rw [if_neg (by omega), if_neg (by omega)]
      exact ⟨by omega, hradius, hoverlap, hlag, hsignificant, hcorrelates⟩
    · rw [hzero, show (0 : Int) = (0 : Nat) from rfl, Lag.shifted_natCast] at hcorrelates
      rw [hzero] at hoverlap
      rw [if_pos hzero]
      exact ⟨hoverlap, hzero, hsignificant, hcorrelates⟩
    · have hlag : c.bestLag = (c.bestLag.natAbs : Int) := by omega
      rw [hlag, Lag.shifted_natCast] at hcorrelates
      rw [if_neg (by omega), if_pos hpos]
      exact ⟨by omega, hradius, hoverlap, hlag, hsignificant, hcorrelates⟩
  · rw [lead_of_not_significant hsignificant]
    exact ⟨hsignificant, fun h => absurd rfl h⟩

/-- Where venue B repeats venue A one step later, venue A is seen to lead by one step. -/
theorem lead_of_echo :
    let s : CorrelationSettings := { minSamples := 5 }
    let as := [1.0, -1.0, 1.0, -1.0, 3.0]
    let bs := [2.0, 1.0, -1.0, 1.0, -1.0]
    (s.fault? = none ∧ s.minSamples ≤ min as.length bs.length) ∧
      ∃ c, ofSeries s "ETH-20250531-2700-C" as bs = .ok c ∧
        c.lead s.significanceLevel = .venueA 1 ∧
        c.BestCorrelates [1.0, -1.0, 1.0, -1.0] [1.0, -1.0, 1.0, -1.0] := by
  intro s as bs
  have hs : s.fault? = none := by decide +kernel
  have hn : s.minSamples ≤ min as.length bs.length := by decide
  obtain ⟨c, hc, hshown, -⟩ := ofSeries_lead_isShown hs "ETH-20250531-2700-C" hn
  have hlead : c.lead s.significanceLevel = .venueA 1 := by
    have hrun : (ofSeries s "ETH-20250531-2700-C" as bs).toOption.map
        (fun c => c.lead s.significanceLevel) = some (.venueA 1) := by decide +kernel
    rw [hc] at hrun
    exact Option.some.inj hrun
  rw [hlead] at hshown
  exact ⟨⟨hs, hn⟩, c, hc, hlead, hshown.2.2.2.2.2⟩

end Comparison

end TwoVenues

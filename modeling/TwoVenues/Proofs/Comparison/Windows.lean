import TwoVenues.Proofs.Comparison.Completeness

/-!
# Windows through time

The correlation of a series is followed by a window of fixed width. The first places of the series
are padding, where no full window ends yet. They are one less than a window has places, and are cut
off together with their times, so that each correlation meets the time of the last observation in
its window.

* `Statistics.windowed`, `Statistics.rolling_eq_append` : the correlations of all full windows,
  which stand behind the padding;
* `RollingPoint.ofLevels` : the points of the observations of one instrument;
* `RollingPoint.Follows levels width k p` : `p` is the point of the window from place `k` on;
* `RollingPoint.follows_of_getElem?` : the points, place by place;
* `Comparison.correlation_of_ofGroup` : the correlation of a window compared by itself;
* `Comparison.rolling_follows_windows` : the points of one instrument among all observations.
-/

namespace TwoVenues

/-! ## Windows of a series -/

namespace Statistics
variable {width : Nat}

/-- The correlations of all full windows. -/
def windowed (xs ys : List Float) (width : Nat) : List Float :=
  (List.range (min xs.length ys.length - (width - 1))).map fun k =>
    (pearson ((xs.drop k).take width) ((ys.drop k).take width)).r

theorem window_add (hwidth : 0 < width) (k : Nat) (xs : List Float) :
    window width (width - 1 + k) xs = (xs.drop k).take width := by
  rw [window, show width - 1 + k + 1 - width = k by omega]

theorem rolling_eq_append (hwidth : 0 < width) (xs ys : List Float)
    (hlength : width ≤ min xs.length ys.length) :
    rolling xs ys width = List.replicate (width - 1) Double.nan ++ windowed xs ys width := by
  have hrange : List.range (min xs.length ys.length) = List.range (width - 1) ++
      (List.range (min xs.length ys.length - (width - 1))).map (width - 1 + ·) := by
    rw [← List.range_add]
    exact congrArg List.range (by omega)
  rw [rolling, hrange, List.map_append, List.map_map, windowed]
  congr 1
  · rw [List.eq_replicate_iff, List.length_map, List.length_range]
    refine ⟨rfl, fun r hr => ?_⟩
    obtain ⟨last, hlast, rfl⟩ := List.mem_map.1 hr
    rw [List.mem_range] at hlast
    exact if_pos (Or.inr (by omega))
  · refine List.map_congr_left fun k _ => ?_
    rw [Function.comp_apply, if_neg (by omega), window_add hwidth, window_add hwidth]

end Statistics

/-! ## Points of one instrument -/

namespace RollingPoint
variable {levels : List Observation} {width k : Nat} {p : RollingPoint}

/-- The correlations at all places but the padding, with their times. -/
def ofLevels (width : Nat) (levels : List Observation) : List RollingPoint :=
  ((levels.zip (Statistics.rolling (levels.map (·.valueA)) (levels.map (·.valueB)) width)).drop
    (width - 1)).map fun (o, r) => ⟨o.time, r⟩

/-- `p` is the point of the window that holds `width` observations from place `k` on: the
correlation of their values, at the time of the last of them. -/
structure Follows (levels : List Observation) (width k : Nat) (p : RollingPoint) : Prop where
  time : levels[k + width - 1]?.map (·.time) = some p.time
  correlation : p.correlation = (Statistics.pearson (((levels.drop k).take width).map (·.valueA))
    (((levels.drop k).take width).map (·.valueB))).r

theorem ofLevels_eq (hwidth : 0 < width) (hlength : width ≤ levels.length) :
    ofLevels width levels = ((levels.drop (width - 1)).zip
      (Statistics.windowed (levels.map (·.valueA)) (levels.map (·.valueB)) width)).map
        fun (o, r) => ⟨o.time, r⟩ := by
  have hpadding := Statistics.rolling_eq_append hwidth (levels.map (·.valueA))
    (levels.map (·.valueB)) (by simpa using hlength)
  rw [ofLevels, hpadding, List.zip_eq_zipWith, List.drop_zipWith,
    List.drop_left' List.length_replicate, ← List.zip_eq_zipWith]

theorem length_windowed (levels : List Observation) (width : Nat) :
    (Statistics.windowed (levels.map (·.valueA)) (levels.map (·.valueB)) width).length =
      levels.length - (width - 1) := by
  simp [Statistics.windowed]

theorem length_ofLevels (hwidth : 0 < width) (hlength : width ≤ levels.length) :
    (ofLevels width levels).length = levels.length - width + 1 := by
  rw [ofLevels_eq hwidth hlength, List.length_map, List.length_zip, List.length_drop,
    length_windowed]
  omega

/-- None of the padding comes through. -/
theorem rolling_eq_append (hwidth : 0 < width) (hlength : width ≤ levels.length) :
    Statistics.rolling (levels.map (·.valueA)) (levels.map (·.valueB)) width =
      List.replicate (width - 1) Double.nan ++ (ofLevels width levels).map (·.correlation) := by
  have hzip := @List.map_snd_zip _ _ (levels.drop (width - 1)) _
    (by rw [length_windowed levels width, List.length_drop])
  rw [Statistics.rolling_eq_append hwidth _ _ (by simpa using hlength), ofLevels_eq hwidth hlength,
    List.map_map]
  exact congrArg (List.replicate (width - 1) Double.nan ++ ·) hzip.symm

theorem follows_of_getElem? (hwidth : 0 < width) (hlength : width ≤ levels.length)
    (hp : (ofLevels width levels)[k]? = some p) : p.Follows levels width k := by
  rw [ofLevels_eq hwidth hlength, List.getElem?_map, Option.map_eq_some_iff] at hp
  obtain ⟨⟨o, r⟩, hpair, rfl⟩ := hp
  obtain ⟨ho, hr⟩ := List.getElem?_zip_eq_some.1 hpair
  rw [List.getElem?_drop, show width - 1 + k = k + width - 1 by omega] at ho
  rw [Statistics.windowed, List.getElem?_map, Option.map_eq_some_iff] at hr
  obtain ⟨j, hj, rfl⟩ := hr
  obtain ⟨-, rfl⟩ : _ ∧ k = j := by simpa using List.getElem?_eq_some_iff.1 hj
  constructor
  · rw [ho]
    rfl
  · rw [List.map_take, List.map_drop, List.map_take, List.map_drop]

/-- Only full windows have points. -/
theorem Follows.length_window (h : p.Follows levels width k) (hwidth : 0 < width) :
    ((levels.drop k).take width).length = width := by
  obtain ⟨o, ho, -⟩ := Option.map_eq_some_iff.1 h.time
  have hlast := (List.getElem?_eq_some_iff.1 ho).1
  rw [List.length_take, List.length_drop]
  omega

theorem time_getLast?_ofLevels (hwidth : 0 < width) (hlength : width ≤ levels.length) :
    (ofLevels width levels).getLast?.map (·.time) = levels.getLast?.map (·.time) := by
  have hcount := length_ofLevels hwidth hlength
  have hlast : levels.length - width < (ofLevels width levels).length := by omega
  have hp := List.getElem?_eq_getElem hlast
  have htime := (follows_of_getElem? hwidth hlength hp).time
  rw [show levels.length - width + width - 1 = levels.length - 1 by omega] at htime
  rw [List.getLast?_eq_getElem?, List.getLast?_eq_getElem?, hcount, Nat.add_sub_cancel, hp, htime]
  rfl

end RollingPoint

/-! ## Points of one instrument among others -/

namespace Comparison
variable {s : CorrelationSettings} {instrument : String} {rows : List Observation}

theorem rolling_of_lt
    (h : s.rollingWindow < (Observation.ofInstrument instrument rows).length) :
    rolling s instrument rows =
      RollingPoint.ofLevels s.rollingWindow (Observation.ofInstrument instrument rows) :=
  if_neg (Nat.not_le.2 h)

/-- The two series of one group are compared as they stand. -/
theorem correlation_of_ofGroup {group : List Observation} {c : Comparison}
    (hc : ofGroup s instrument group = .ok c) :
    c.correlation =
      (Statistics.pearson (group.map (·.valueA)) (group.map (·.valueB))).r := by
  have hcorrelation := congrArg Statistics.Pearson.r (ofSeries_correlation hc)
  simpa only [List.length_map, Nat.min_self, List.take_of_length_le, Nat.le_refl] using hcorrelation

/-- **Windows through time are complete and stamped with their last observation.** There are none
unless an instrument has more observations than a window holds. Else there is a point for each full
window, without the padding, and the last point has the time of the last observation. Its
correlation is that of the window compared by itself. -/
theorem rolling_follows_windows (hs : s.fault? = none) (instrument : String)
    (rows : List Observation) :
    let width := s.rollingWindow
    let points := rolling s instrument rows
    ∃ levels, Observation.IsTimeline levels (rows.filter (·.instrument = instrument)) ∧
      (levels.length ≤ width → points = []) ∧
      (width < levels.length →
        points.length = levels.length - width + 1 ∧
        points.getLast?.map (·.time) = levels.getLast?.map (·.time) ∧
        Statistics.rolling (levels.map (·.valueA)) (levels.map (·.valueB)) width =
          List.replicate (width - 1) Double.nan ++ points.map (·.correlation) ∧
        ∀ k p, points[k]? = some p → p.Follows levels width k ∧
          (s.minSamples ≤ width → ∃ c,
            ofSeries s instrument (((levels.drop k).take width).map (·.valueA))
              (((levels.drop k).take width).map (·.valueB)) = .ok c ∧
            c.correlation = p.correlation)) := by
  intro width points
  have hwidth : 0 < width := by
    have := (CorrelationSettings.fault?_eq_none_iff.1 hs).2.2.2.2
    exact Nat.lt_of_lt_of_le (by decide) this
  refine ⟨_, Observation.isTimeline_ofInstrument instrument rows, fun h => if_pos h, fun h => ?_⟩
  have hpoints : points = RollingPoint.ofLevels width _ := rolling_of_lt h
  rw [hpoints]
  refine ⟨RollingPoint.length_ofLevels hwidth h.le, RollingPoint.time_getLast?_ofLevels hwidth h.le,
    RollingPoint.rolling_eq_append hwidth h.le, fun k p hp => ?_⟩
  have hfollows := RollingPoint.follows_of_getElem? hwidth h.le hp
  refine ⟨hfollows, fun hn => ?_⟩
  obtain ⟨c, hc⟩ := exists_ofGroup s instrument (hn.trans (hfollows.length_window hwidth).ge)
  exact ⟨c, hc, (correlation_of_ofGroup hc).trans hfollows.correlation.symm⟩

/-- Four observations in two windows of three, given in another order and with one of another
instrument among them. -/
theorem rolling_follows_windows_of_four :
    let s : CorrelationSettings := { minSamples := 3, rollingWindow := 3 }
    let row := fun time instrument a b =>
      (⟨time, instrument, a, b, instrument, instrument, none, none⟩ : Observation)
    let rows := [row 30 "X" 3.0 4.0, row 0 "X" 1.0 2.0, row 5 "Y" 9.0 9.0, row 10 "X" 2.0 5.0,
      row 20 "X" 4.0 1.0]
    s.fault? = none ∧
      (rolling s "X" rows).length = 2 ∧ (rolling s "X" rows).getLast?.map (·.time) = some 30 ∧
      ∃ p, (rolling s "X" rows)[0]? = some p ∧ p.time = 20 ∧
        ∃ c, ofSeries s "X" [1.0, 2.0, 4.0] [2.0, 5.0, 1.0] = .ok c ∧
          c.correlation = p.correlation := by
  intro s row rows
  have hs : s.fault? = none := by decide +kernel
  obtain ⟨levels, hlevels, -, hfull⟩ := rolling_follows_windows hs "X" rows
  have hsorted : levels = [row 0 "X" 1.0 2.0, row 10 "X" 2.0 5.0, row 20 "X" 4.0 1.0,
      row 30 "X" 3.0 4.0] :=
    (hlevels.unique (Observation.isTimeline_ofInstrument "X" rows)).trans (by decide +kernel)
  subst hsorted
  obtain ⟨hlength, hlast, -, hpoints⟩ := hfull (by decide)
  have hlength : (rolling s "X" rows).length = 2 := hlength
  have hp := List.getElem?_eq_getElem (show 0 < (rolling s "X" rows).length by omega)
  obtain ⟨hfollows, hcompared⟩ := hpoints 0 _ hp
  exact ⟨hs, hlength, hlast, _, hp, (Option.some.inj hfollows.time).symm, hcompared (by decide)⟩

end Comparison

end TwoVenues

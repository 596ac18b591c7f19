import Mathlib.Data.List.Range
import Mathlib.Order.Basic
import TwoVenues.Lag.Scan
import TwoVenues.Proofs.Double.NumericOrder

/-!
# The entries of a scan

* `Lag.map_lag_scan`, `Lag.mem_lags`, `Lag.pairwise_lags` : a scan has one entry for each lag within
  the radius, ascending;
* `Lag.shifted_eq` : the shifted series as slices, for either sign of the lag;
* `Lag.scan_take` : only the points up to the shorter length matter;
* `Lag.entry_of_overlap`, `Lag.entry_of_few` : an entry with enough overlap is the correlation of
  the shifted series, and one without it a placeholder;
* `Lag.overlap_of_significant` : an entry that is significant has enough overlap.
-/

namespace TwoVenues.Lag

/-! ## Lags -/

theorem mem_lags {radius : Nat} {lag : Int} : lag ∈ lags radius ↔ lag.natAbs ≤ radius := by
  simp only [lags, List.mem_map, List.mem_range]
  constructor
  · rintro ⟨i, hi, rfl⟩
    omega
  · intro h
    exact ⟨(lag + radius).toNat, by omega, by omega⟩

theorem pairwise_lags (radius : Nat) : (lags radius).Pairwise (· < ·) := by
  rw [lags, List.pairwise_map]
  exact List.pairwise_lt_range.imp (by omega)

section Entry
variable (s : CorrelationSettings) (n : Nat) (xs ys : List Float) (lag : Int)

theorem entry_of_overlap (h : s.minOverlap ≤ n - lag.natAbs) :
    entry s n xs ys lag =
      ⟨lag, (Statistics.pearson (shifted n xs ys lag).1 (shifted n xs ys lag).2).r,
        (Statistics.pearson (shifted n xs ys lag).1 (shifted n xs ys lag).2).p,
        n - lag.natAbs⟩ :=
  if_neg (Nat.not_lt.2 h)

theorem entry_of_few (h : n - lag.natAbs < s.minOverlap) :
    entry s n xs ys lag = placeholder lag (n - lag.natAbs) :=
  if_pos h

@[simp] theorem lag_entry : (entry s n xs ys lag).lag = lag := by
  by_cases h : n - lag.natAbs < s.minOverlap
  · rw [entry_of_few s n xs ys lag h]
    rfl
  · rw [entry_of_overlap s n xs ys lag (Nat.not_lt.1 h)]

@[simp] theorem overlap_entry : (entry s n xs ys lag).overlap = n - lag.natAbs := by
  by_cases h : n - lag.natAbs < s.minOverlap
  · rw [entry_of_few s n xs ys lag h]
    rfl
  · rw [entry_of_overlap s n xs ys lag (Nat.not_lt.1 h)]

theorem map_lag_scan :
    (scan s xs ys).map (·.lag) = lags (s.maxLag (min xs.length ys.length)) := by
  rw [scan, List.map_map]
  exact (List.map_congr_left fun lag _ => lag_entry s _ xs ys lag).trans (List.map_id _)

theorem pairwise_lag_scan : (scan s xs ys).Pairwise (·.lag < ·.lag) := by
  have h := pairwise_lags (s.maxLag (min xs.length ys.length))
  rwa [← map_lag_scan, List.pairwise_map] at h

/-- A lag has one entry in a scan. -/
theorem eq_of_lag_eq {s : CorrelationSettings} {xs ys : List Float} {e e' : LagEntry}
    (he : e ∈ scan s xs ys) (he' : e' ∈ scan s xs ys) (h : e.lag = e'.lag) : e = e' := by
  obtain ⟨lag, -, rfl⟩ := List.mem_map.1 he
  obtain ⟨lag', -, rfl⟩ := List.mem_map.1 he'
  rw [lag_entry, lag_entry] at h
  rw [h]

/-! ## Points that are compared -/

theorem shifted_neg {k : Nat} (hk : 0 < k) :
    shifted n xs ys (-k) = (xs.take (n - k), (ys.take n).drop k) := by
  simp only [shifted, Int.natAbs_neg, Int.natAbs_natCast]
  rw [if_pos (by omega)]

theorem shifted_natCast (k : Nat) :
    shifted n xs ys k = ((xs.take n).drop k, ys.take (n - k)) := by
  simp only [shifted, Int.natAbs_natCast]
  rw [if_neg (by omega)]

/-- One of the two series begins as many places later as the lag has steps. -/
theorem shifted_eq : shifted n xs ys lag =
    ((xs.take (n - (-lag).toNat)).drop lag.toNat, (ys.take (n - lag.toNat)).drop (-lag).toNat) := by
  unfold shifted
  by_cases h : lag < 0
  · have hzero : lag.toNat = 0 := by omega
    have hshift : (-lag).toNat = lag.natAbs := by omega
    rw [if_pos h, hzero, hshift, List.drop_zero, Nat.sub_zero]
  · have hzero : (-lag).toNat = 0 := by omega
    have hshift : lag.toNat = lag.natAbs := by omega
    rw [if_neg h, hzero, hshift, List.drop_zero, Nat.sub_zero]

theorem shifted_take : shifted n (xs.take n) (ys.take n) lag = shifted n xs ys lag := by
  have hmin : min (n - lag.natAbs) n = n - lag.natAbs := by omega
  simp only [shifted, List.take_take, Nat.min_self, hmin]

theorem entry_take : entry s n (xs.take n) (ys.take n) lag = entry s n xs ys lag := by
  simp only [entry, shifted_take]

theorem scan_take : scan s (xs.take (min xs.length ys.length))
    (ys.take (min xs.length ys.length)) = scan s xs ys := by
  have hlength : min (xs.take (min xs.length ys.length)).length
      (ys.take (min xs.length ys.length)).length = min xs.length ys.length := by
    rw [List.length_take, List.length_take]
    omega
  simp only [scan, hlength]
  exact List.map_congr_left fun lag _ => entry_take s _ xs ys lag

/-! ## Overlap -/

variable {s n xs ys lag}

/-- The p-value of a placeholder is below no level of significance. -/
theorem overlap_of_significant {level : Float} (hlevel : level ≤ 1.0)
    (h : (entry s n xs ys lag).pValue < level) : s.minOverlap ≤ n - lag.natAbs := by
  by_contra hfew
  rw [entry_of_few s n xs ys lag (Nat.not_le.1 hfew)] at h
  exact Double.not_lt_of_le hlevel h

end Entry

end TwoVenues.Lag

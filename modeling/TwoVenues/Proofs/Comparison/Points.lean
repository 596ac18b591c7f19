import TwoVenues.Proofs.Comparison.Lead

/-!
# The points that are compared at a lag

A lag compares two slices, one of each series, of which one begins as many places later as the lag
has steps. Read side by side they hold all pairs of places that lie as far apart as the lag says.

* `slice?` : the values between two places, if the list has them;
* `Lag.slices?` : the two slices of a lag;
* `Lag.ComparesAll` : two lists hold the values at all pairs of places that differ by the lag;
* `Lag.slices?_eq_shifted`, `Lag.comparesAll_shifted` : up to a lag of `n` the slices are there, and
  they hold all pairs;
* `scan_compares_all` : the scan of two series, lag by lag.
-/

namespace TwoVenues

/-! ## Slices -/

/-- The values from place `start` to before place `stop`, if these are places of the list. -/
def slice? (xs : List Float) (start stop : Nat) : Option (List Float) :=
  if start ≤ stop ∧ stop ≤ xs.length then some ((xs.take stop).drop start) else none

theorem slice?_of_le {xs : List Float} {start stop : Nat} (h : start ≤ stop)
    (hstop : stop ≤ xs.length) : slice? xs start stop = some ((xs.take stop).drop start) :=
  if_pos ⟨h, hstop⟩

theorem map_some_slice {xs : List Float} {start stop : Nat} (hstop : stop ≤ xs.length) :
    ((xs.take stop).drop start).map some =
      (List.range (stop - start)).map fun t => xs[t + start]? := by
  apply List.ext_getElem
  · simp
    omega
  · intro t hslice hrange
    have hin : t + start < xs.length := by
      simp at hslice
      omega
    simp [hin, Nat.add_comm start t]

namespace Lag

/-- The slices of two series that are compared at a lag, if both series have them. -/
def slices? (n : Nat) (xs ys : List Float) (lag : Int) : Option (List Float × List Float) :=
  (slice? xs lag.toNat (n - (-lag).toNat)).bind fun us =>
    (slice? ys (-lag).toNat (n - lag.toNat)).map fun vs => (us, vs)

/-- `us` and `vs` hold the value of `xs` at `i` and that of `ys` at `j` for all `i` and `j` below
`n` with `i - j = lag`, ascending. -/
def ComparesAll (n : Nat) (lag : Int) (xs ys us vs : List Float) : Prop :=
  ∃ places : List (Nat × Nat),
    (∀ i j, (i, j) ∈ places ↔ i < n ∧ j < n ∧ (i : Int) - j = lag) ∧
    places.Pairwise (fun p q => p.1 < q.1 ∧ p.2 < q.2) ∧
    us.map some = places.map (fun p => xs[p.1]?) ∧ vs.map some = places.map (fun p => ys[p.2]?)

/-! ## Places -/

/-- The pairs of places below `n` that differ by a lag, ascending. -/
def places (n : Nat) (lag : Int) : List (Nat × Nat) :=
  (List.range (n - lag.natAbs)).map fun t => (t + lag.toNat, t + (-lag).toNat)

theorem mem_places {n : Nat} {lag : Int} {i j : Nat} :
    (i, j) ∈ places n lag ↔ i < n ∧ j < n ∧ (i : Int) - j = lag := by
  simp only [places, List.mem_map, List.mem_range, Prod.mk.injEq]
  constructor
  · rintro ⟨t, ht, rfl, rfl⟩
    omega
  · rintro ⟨hi, hj, rfl⟩
    exact ⟨min i j, by omega, by omega, by omega⟩

theorem pairwise_places (n : Nat) (lag : Int) :
    (places n lag).Pairwise fun p q => p.1 < q.1 ∧ p.2 < q.2 := by
  rw [places, List.pairwise_map]
  refine List.pairwise_lt_range.imp ?_
  intro t t' h
  omega

section Shifted
variable {n : Nat} {xs ys : List Float} {lag : Int}

theorem slices?_eq_shifted (hx : n ≤ xs.length) (hy : n ≤ ys.length) (hlag : lag.natAbs ≤ n) :
    slices? n xs ys lag = some (shifted n xs ys lag) := by
  rw [shifted_eq, slices?, slice?_of_le (by omega) (by omega), slice?_of_le (by omega) (by omega)]
  rfl

theorem length_shifted (hx : n ≤ xs.length) (hy : n ≤ ys.length) :
    (shifted n xs ys lag).1.length = n - lag.natAbs ∧
      (shifted n xs ys lag).2.length = n - lag.natAbs := by
  rw [shifted_eq]
  simp only [List.length_drop, List.length_take]
  omega

theorem comparesAll_shifted (hx : n ≤ xs.length) (hy : n ≤ ys.length) :
    ComparesAll n lag xs ys (shifted n xs ys lag).1 (shifted n xs ys lag).2 := by
  refine ⟨places n lag, fun i j => mem_places, pairwise_places n lag, ?_, ?_⟩
  · have hcount : n - (-lag).toNat - lag.toNat = n - lag.natAbs := by omega
    rw [shifted_eq, map_some_slice (by omega), places, List.map_map, hcount]
    rfl
  · have hcount : n - lag.toNat - (-lag).toNat = n - lag.natAbs := by omega
    rw [shifted_eq, map_some_slice (by omega), places, List.map_map, hcount]
    rfl

end Shifted

theorem length_scan (s : CorrelationSettings) (xs ys : List Float) :
    (scan s xs ys).length = 2 * s.maxLag (min xs.length ys.length) + 1 := by
  simp [scan, lags]

end Lag

/-! ## Entries -/

/-- **Each entry of a scan compares all points of the two series that lie as far apart as its lag
says**, unless there are fewer of them than the settings ask for; the entry in the middle compares
the series as they stand. -/
theorem scan_compares_all {s : CorrelationSettings} (hs : s.fault? = none) (xs ys : List Float) :
    let n := min xs.length ys.length
    let radius := min s.maxLagCap (n / s.lagDivisor)
    let entries := Lag.scan s xs ys
    (0 < s.lagDivisor ∧ radius ≤ n) ∧
    (entries.length = 2 * radius + 1 ∧
      entries.map (·.lag) = (List.range (2 * radius + 1)).map fun (i : Nat) => (i : Int) - radius) ∧
    (∀ e ∈ entries, e.overlap + e.lag.natAbs = n ∧
      ∃ us vs, Lag.slices? n xs ys e.lag = some (us, vs) ∧
        (us.length = e.overlap ∧ vs.length = e.overlap) ∧
        Lag.ComparesAll n e.lag xs ys us vs ∧
        if e.overlap < s.minOverlap then e.correlation = 0.0 ∧ e.pValue = 1.0
        else ⟨e.correlation, e.pValue⟩ = Statistics.pearson us vs) ∧
    (s.minOverlap ≤ n → s.minSamples ≤ n → ∀ instrument, ∃ c,
      Comparison.ofSeries s instrument xs ys = .ok c ∧
      ∀ e ∈ entries, e.lag = 0 → e.correlation = c.correlation ∧ e.pValue = c.pValue) := by
  intro n radius entries
  obtain ⟨-, -, hdivisor, -⟩ := CorrelationSettings.fault?_eq_none_iff.1 hs
  have hx : n ≤ xs.length := Nat.min_le_left _ _
  have hy : n ≤ ys.length := Nat.min_le_right _ _
  have hradius : radius ≤ n := (Nat.min_le_right _ _).trans (Nat.div_le_self _ _)
  refine ⟨⟨hdivisor, hradius⟩, ⟨Lag.length_scan s xs ys, Lag.map_lag_scan s xs ys⟩, ?_, ?_⟩
  · intro e he
    obtain ⟨lag, hlag, rfl⟩ := List.mem_map.1 he
    have hshift : lag.natAbs ≤ n := (Lag.mem_lags.1 hlag).trans hradius
    rw [Lag.lag_entry, Lag.overlap_entry]
    refine ⟨by omega, (Lag.shifted n xs ys lag).1, (Lag.shifted n xs ys lag).2,
      Lag.slices?_eq_shifted hx hy hshift, Lag.length_shifted hx hy,
      Lag.comparesAll_shifted hx hy, ?_⟩
    by_cases hfew : n - lag.natAbs < s.minOverlap
    · rw [if_pos hfew, Lag.entry_of_few s n xs ys lag hfew]
      exact ⟨rfl, rfl⟩
    · rw [if_neg hfew, Lag.entry_of_overlap s n xs ys lag (Nat.not_lt.1 hfew)]
  · intro hoverlap hsamples instrument
    obtain ⟨c, hc⟩ := Comparison.exists_ofSeries s instrument hsamples
    refine ⟨c, hc, ?_⟩
    intro e he hzero
    rw [Lag.eq_of_lag_eq he (Comparison.mem_scan hc hoverlap) hzero]
    exact ⟨rfl, rfl⟩

/-- Three points at lags up to three: at most two of them can be compared when the series are
shifted, and none at the ends of the scan. -/
theorem scan_compares_all_shifted_out :
    let s : CorrelationSettings := { minSamples := 2, maxLagCap := 1000000, lagDivisor := 1 }
    let xs := [1.0, 2.0, 4.0]
    let ys := [2.0, 4.0, 8.0, 1.0]
    s.fault? = none ∧ (Lag.scan s xs ys).length = 7 ∧
      (Lag.scan s xs ys).map (·.overlap) = [0, 1, 2, 3, 2, 1, 0] ∧
      Lag.slices? 3 xs ys (-3) = some ([], []) ∧
      ∃ c, Comparison.ofSeries s "ETH-20250531-2700-C" xs ys = .ok c ∧
        ∀ e ∈ Lag.scan s xs ys, e.lag = 0 → e.correlation = c.correlation := by
  intro s xs ys
  have hs : s.fault? = none := by decide +kernel
  obtain ⟨-, ⟨hlength, -⟩, -, hmiddle⟩ := scan_compares_all hs xs ys
  obtain ⟨c, hc, hsame⟩ := hmiddle (by decide) (by decide) "ETH-20250531-2700-C"
  refine ⟨hs, hlength.trans (by decide), by decide +kernel, by decide, c, hc, ?_⟩
  intro e he hzero
  exact (hsame e he hzero).1

end TwoVenues

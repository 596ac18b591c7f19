import TwoVenues.Proofs.Comparison.Lead
import TwoVenues.Proofs.Statistics.Symmetry

/-!
# Exchanging the venues

With the venues exchanged, a scan reads backwards with the signs of its lags turned around. So does
the lead, unless two lags share the largest correlation: the scan then settles on the smaller lag,
whichever venue comes first.

* `LagEntry.mirror`, `Lag.scan_swap` : the scan of the exchanged series;
* `Lag.PeaksOnce` : the largest correlation is attained at a single lag;
* `Lag.best?_swap` : the best entry of the exchanged series;
* `ofSeries_swap` : the comparison of the exchanged series.
-/

namespace TwoVenues

/-- The entry with the venues exchanged. -/
def LagEntry.mirror (e : LagEntry) : LagEntry := { e with lag := -e.lag }

namespace Lag

/-! ## Scans -/

theorem shifted_swap (n : Nat) (xs ys : List Float) (lag : Int) :
    shifted n ys xs (-lag) = (shifted n xs ys lag).swap := by
  rw [shifted_eq, shifted_eq, Int.neg_neg]
  rfl

theorem entry_swap (s : CorrelationSettings) (n : Nat) (xs ys : List Float) (lag : Int) :
    entry s n ys xs (-lag) = (entry s n xs ys lag).mirror := by
  by_cases hfew : n - lag.natAbs < s.minOverlap
  · rw [entry_of_few s n xs ys lag hfew, entry_of_few s n ys xs (-lag) (by rwa [Int.natAbs_neg]),
      Int.natAbs_neg]
    rfl
  · have hoverlap := Nat.not_lt.1 hfew
    rw [entry_of_overlap s n xs ys lag hoverlap,
      entry_of_overlap s n ys xs (-lag) (by rwa [Int.natAbs_neg]), shifted_swap, Int.natAbs_neg,
      Prod.fst_swap, Prod.snd_swap, Statistics.pearson_comm]
    rfl

theorem lags_eq_reverse (radius : Nat) :
    lags radius = ((lags radius).map fun lag => -lag).reverse := by
  apply List.ext_getElem
  · simp
  · intro i h h'
    simp [lags] at h ⊢
    omega

theorem scan_swap (s : CorrelationSettings) (xs ys : List Float) :
    scan s ys xs = ((scan s xs ys).map LagEntry.mirror).reverse := by
  have hmin : min ys.length xs.length = min xs.length ys.length := Nat.min_comm _ _
  simp only [scan, hmin]
  generalize min xs.length ys.length = n
  calc (lags (s.maxLag n)).map (entry s n ys xs)
      = ((lags (s.maxLag n)).map fun lag => entry s n ys xs (-lag)).reverse := by
        conv_lhs => rw [lags_eq_reverse, List.map_reverse, List.map_map]
        rfl
    _ = ((lags (s.maxLag n)).map fun lag => (entry s n xs ys lag).mirror).reverse := by
        simp only [entry_swap]
    _ = (((lags (s.maxLag n)).map (entry s n xs ys)).map LagEntry.mirror).reverse := by
        rw [List.map_map]
        rfl

/-! ## The best entry -/

/-- No entry has a larger absolute correlation. -/
def IsLargest (entries : List LagEntry) (e : LagEntry) : Prop :=
  ∀ x ∈ entries, x.correlation.abs ≤ e.correlation.abs

/-- The largest absolute correlation is attained at no more than one lag. -/
def PeaksOnce (entries : List LagEntry) : Prop :=
  ∀ e ∈ entries, ∀ e' ∈ entries, IsLargest entries e → IsLargest entries e' → e.lag = e'.lag

instance (entries : List LagEntry) (e : LagEntry) : Decidable (IsLargest entries e) :=
  inferInstanceAs (Decidable (∀ x ∈ entries, x.correlation.abs ≤ e.correlation.abs))

instance (entries : List LagEntry) : Decidable (PeaksOnce entries) :=
  inferInstanceAs (Decidable (∀ e ∈ entries, ∀ e' ∈ entries, IsLargest entries e →
    IsLargest entries e' → e.lag = e'.lag))

theorem best?_isLargest {entries : List LagEntry} {b : LagEntry} (h : best? entries = some b) :
    b ∈ entries ∧ IsLargest entries b := by
  obtain ⟨hdefined, hfirst⟩ := best?_spec h
  refine ⟨hfirst.mem, ?_⟩
  intro x hx
  exact hfirst.abs_le (hdefined b hfirst.mem) hx

theorem mem_mirror {entries : List LagEntry} {e : LagEntry} :
    e ∈ (entries.map LagEntry.mirror).reverse ↔ ∃ x ∈ entries, x.mirror = e := by
  rw [List.mem_reverse, List.mem_map]

theorem IsLargest.of_mirror {entries : List LagEntry} {e : LagEntry}
    (h : IsLargest (entries.map LagEntry.mirror).reverse e.mirror) : IsLargest entries e := by
  intro x hx
  exact h x.mirror (mem_mirror.2 ⟨x, hx, rfl⟩)

theorem best?_swap {s : CorrelationSettings} {xs ys : List Float}
    (hpeak : PeaksOnce (scan s xs ys)) :
    best? (scan s ys xs) = (best? (scan s xs ys)).map LagEntry.mirror := by
  rw [scan_swap]
  cases hbest : best? (scan s xs ys) with
  | none =>
    rcases best?_eq_none_iff.1 hbest with hnil | ⟨e, he, hnan⟩
    · rw [hnil]
      rfl
    · exact best?_of_isNaN (mem_mirror.2 ⟨e, he, rfl⟩) hnan
  | some b =>
    obtain ⟨hb, hlargest⟩ := best?_isLargest hbest
    have hdefined : ∀ e ∈ ((scan s xs ys).map LagEntry.mirror).reverse,
        e.correlation.isNaN = false := by
      intro e he
      obtain ⟨x, hx, rfl⟩ := mem_mirror.1 he
      exact (best?_spec hbest).1 x hx
    obtain ⟨b', hb'⟩ := exists_best? (List.ne_nil_of_mem (mem_mirror.2 ⟨b, hb, rfl⟩)) hdefined
    obtain ⟨hmem, hlargest'⟩ := best?_isLargest hb'
    obtain ⟨x, hx, rfl⟩ := mem_mirror.1 hmem
    have hlag : x.lag = b.lag := hpeak x hx b hb hlargest'.of_mirror hlargest
    rw [hb', eq_of_lag_eq hx hb hlag]
    rfl

end Lag

/-! ## Comparisons -/

namespace Comparison

theorem bestOf_swap {s : CorrelationSettings} {as bs : List Float}
    (hpeak : Lag.PeaksOnce (Lag.scan s as bs)) :
    bestOf s bs as = (bestOf s as bs).mirror := by
  unfold bestOf
  rw [Lag.best?_swap hpeak, Nat.min_comm]
  cases Lag.best? (Lag.scan s as bs) <;> rfl

theorem lead_swap {c d : Comparison} (hlag : d.bestLag = -c.bestLag)
    (hp : d.bestLagPValue = c.bestLagPValue) (level : Float) :
    d.lead level = (c.lead level).swap := by
  by_cases hsignificant : c.bestLagPValue < level
  · rw [lead_of_significant hsignificant, lead_of_significant (hp ▸ hsignificant), hlag,
      Int.natAbs_neg]
    rcases lt_trichotomy c.bestLag 0 with hneg | hzero | hpos
    · rw [if_neg (by omega), if_pos (by omega), if_neg (by omega), if_neg (by omega)]
      rfl
    · rw [if_pos (by omega), if_pos hzero]
      rfl
    · rw [if_neg (by omega), if_neg (by omega), if_neg (by omega), if_pos hpos]
      rfl
  · rw [lead_of_not_significant hsignificant, lead_of_not_significant (hp ▸ hsignificant)]
    rfl

end Comparison

/-- **Exchanging the venues mirrors the scan**, and with it the best lag and the lead, if the
largest correlation is attained at a single lag. -/
theorem ofSeries_swap (s : CorrelationSettings) (as bs : List Float) :
    (∀ xs ys, Statistics.pearson xs ys = Statistics.pearson ys xs) ∧
    Lag.scan s bs as = ((Lag.scan s as bs).map LagEntry.mirror).reverse ∧
    (Lag.PeaksOnce (Lag.scan s as bs) → s.minSamples ≤ min as.length bs.length →
      ∀ instrument, ∃ c d, Comparison.ofSeries s instrument as bs = .ok c ∧
        Comparison.ofSeries s instrument bs as = .ok d ∧
        d.bestLag = -c.bestLag ∧ d.bestLagCorrelation = c.bestLagCorrelation ∧
        d.bestLagPValue = c.bestLagPValue ∧
        ∀ level, d.lead level = (c.lead level).swap) := by
  refine ⟨Statistics.pearson_comm, Lag.scan_swap s as bs, ?_⟩
  intro hpeak hn instrument
  obtain ⟨c, hc⟩ := Comparison.exists_ofSeries s instrument hn
  obtain ⟨d, hd⟩ := Comparison.exists_ofSeries s instrument (Nat.min_comm _ _ ▸ hn)
  obtain ⟨hlag, hcorrelation, hp⟩ := Comparison.ofSeries_best hc
  obtain ⟨hlag', hcorrelation', hp'⟩ := Comparison.ofSeries_best hd
  rw [Comparison.bestOf_swap hpeak] at hlag' hcorrelation' hp'
  have hneg : d.bestLag = -c.bestLag := by rw [hlag', hlag]; rfl
  have hsame : d.bestLagPValue = c.bestLagPValue := hp'.trans hp.symm
  refine ⟨c, d, hc, hd, hneg, hcorrelation'.trans hcorrelation.symm, hsame, ?_⟩
  intro level
  exact Comparison.lead_swap hneg hsame level

/-- Where venue B repeats venue A one step later, venue A is seen to lead, and venue B if they are
exchanged. -/
theorem ofSeries_swap_of_echo :
    let s : CorrelationSettings := { minSamples := 5 }
    let as := [1.0, -1.0, 1.0, -1.0, 3.0]
    let bs := [2.0, 1.0, -1.0, 1.0, -1.0]
    (s.fault? = none ∧ Lag.PeaksOnce (Lag.scan s as bs) ∧
      s.minSamples ≤ min as.length bs.length) ∧
      ∃ c d, Comparison.ofSeries s "ETH-20250531-2700-C" as bs = .ok c ∧
        Comparison.ofSeries s "ETH-20250531-2700-C" bs as = .ok d ∧
        c.lead s.significanceLevel = .venueA 1 ∧ d.lead s.significanceLevel = .venueB 1 := by
  intro s as bs
  have hpeak : Lag.PeaksOnce (Lag.scan s as bs) := by decide +kernel
  have hn : s.minSamples ≤ min as.length bs.length := by decide
  obtain ⟨-, -, hswap⟩ := ofSeries_swap s as bs
  obtain ⟨c, d, hc, hd, -, -, -, hlead⟩ := hswap hpeak hn "ETH-20250531-2700-C"
  have hleads : c.lead s.significanceLevel = .venueA 1 := by
    have hrun : (Comparison.ofSeries s "ETH-20250531-2700-C" as bs).toOption.map
        (fun c => c.lead s.significanceLevel) = some (.venueA 1) := by decide +kernel
    rw [hc] at hrun
    exact Option.some.inj hrun
  refine ⟨⟨by decide +kernel, hpeak, hn⟩, c, d, hc, hd, hleads, ?_⟩
  rw [hlead, hleads]
  rfl

end TwoVenues

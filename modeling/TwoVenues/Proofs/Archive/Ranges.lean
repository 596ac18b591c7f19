import TwoVenues.Proofs.Archive.Presence
import TwoVenues.Proofs.Archive.Results
import TwoVenues.Proofs.Comparison.Batch
import TwoVenues.Proofs.Double.Finite
import TwoVenues.Proofs.Pairing.InnerJoin
import TwoVenues.Proofs.Pairing.Returns
import TwoVenues.Proofs.Presence.Pairs
import TwoVenues.Proofs.Presence.Sightings
import TwoVenues.Proofs.Query.Quotes

/-!
# What runs and reports fit into

Times come from seconds that were brought into 64 bits, counts and lags are bounded by the number of
observations or levels, and a price that is not finite leaves no finite value. So the records of a
run and of a presence report fit their written form, if there are fewer than 2⁶³ rows.

* `Response.isInt64_of_mem_quotes` : the times of a response;
* `Observation.fits_align`, `Returns.fits_ofLevels` : observations;
* `Comparison.fits_of_mem_ofObservations`, `Summary.fits_ofComparisons` : comparisons;
* `Run.fits_ofQuotes`, `PresenceReport.fits_ofLevels` : runs and reports.
-/

namespace TwoVenues

open Json (IsInt64)

/-! ## Times -/

theorem isInt64_millis (seconds : Float) : IsInt64 (millis seconds) := by
  unfold millis Double.toInt64
  cases Double.parts? (seconds * 1000.0) with
  | some p => exact ⟨Double.le_clampInt64 _, Double.clampInt64_le _⟩
  | none =>
    have hends : IsInt64 0 ∧ IsInt64 Double.int64Min ∧ IsInt64 Double.int64Max := by decide
    change IsInt64 (if (seconds * 1000.0).isNaN then 0
      else if seconds * 1000.0 < 0.0 then Double.int64Min else Double.int64Max)
    by_cases hnan : (seconds * 1000.0).isNaN
    · rw [if_pos hnan]
      exact hends.1
    · rw [if_neg hnan]
      by_cases hneg : seconds * 1000.0 < 0.0
      · rw [if_pos hneg]
        exact hends.2.1
      · rw [if_neg hneg]
        exact hends.2.2

theorem Response.isInt64_of_mem_quotes {r : Response} {quotes : List LabelledQuote}
    (h : r.quotes = .ok quotes) : ∀ q ∈ quotes, IsInt64 q.time := by
  intro q hq
  obtain ⟨_, -, _, -, ⟨seconds, text⟩, -, _, -, hquote⟩ := exists_of_mem_quotes h hq
  obtain ⟨-, value, -, rfl⟩ := Series.quote_eq_ok_iff.1 hquote
  exact isInt64_millis seconds

/-! ## Observations -/

namespace Observation
variable {quotesA quotesB : List Quote}

/-- Without conversion an observation has the time of a quote of venue A, and no price. -/
theorem exists_quote_of_mem_align {o : Observation} (ho : o ∈ align quotesA quotesB none) :
    ∃ q ∈ quotesA, q.time = o.time ∧ o.referencePrice = none ∧ o.nativeB = none := by
  obtain ⟨p, hp, rfl⟩ := List.mem_map.1 ho
  have hproduct := (Join.perm_pairs_product quotesA quotesB).mem_iff.1
    ((QuotePair.perm_sort _).mem_iff.1 hp)
  obtain ⟨x, hx, y, -, -, rfl⟩ := Join.mem_product.1 hproduct
  exact ⟨x, hx, rfl, rfl, rfl⟩

/-- A converted value is finite only if the price and the value before conversion are. -/
theorem fits_applyPrice (price : Option Float) {o : Observation} (h : IsInt64 o.time) :
    (Conversion.applyPrice price o).Fits := by
  cases price with
  | none =>
    have hnan : ¬Double.nan.isFinite := by decide
    exact ⟨h, fun hfinite => absurd hfinite hnan, fun hfinite => absurd hfinite hnan⟩
  | some p =>
    refine ⟨h, fun hfinite q hq => ?_, fun hfinite v hv => ?_⟩
    · obtain rfl : p = q := Option.some.inj hq
      exact (Double.isFinite_of_mul hfinite).2
    · obtain rfl : o.valueB = v := Option.some.inj hv
      exact (Double.isFinite_of_mul hfinite).1

theorem fits_forward (reference : List PricePoint) (last : Option Float) {rows : List Observation}
    (h : ∀ o ∈ rows, IsInt64 o.time) : ∀ o ∈ Conversion.forward reference last rows, o.Fits := by
  induction rows generalizing last with
  | nil => exact fun o ho => absurd ho List.not_mem_nil
  | cons row rows ih =>
    obtain ⟨hrow, hrows⟩ := List.forall_mem_cons.1 h
    exact List.forall_mem_cons.2 ⟨fits_applyPrice _ hrow, ih _ hrows⟩

theorem fits_align (hA : ∀ q ∈ quotesA, IsInt64 q.time) (reference : Option (List PricePoint)) :
    ∀ o ∈ align quotesA quotesB reference, o.Fits := by
  have htimes : ∀ o ∈ align quotesA quotesB none, IsInt64 o.time := by
    intro o ho
    obtain ⟨q, hq, htime, -⟩ := exists_quote_of_mem_align ho
    exact htime ▸ hA q hq
  cases reference with
  | none =>
    intro o ho
    obtain ⟨-, -, -, hprice, hnative⟩ := exists_quote_of_mem_align ho
    exact ⟨htimes o ho, fun _ => by simp [hprice], fun _ => by simp [hnative]⟩
  | some points => exact fits_forward points none htimes

end Observation

namespace Returns

theorem isFinite_of_change {before after : Float} (h : (change before after).isFinite) :
    after.isFinite :=
  (Double.isFinite_of_sub (Double.isFinite_of_div (Double.isFinite_of_mul h).1)).1

theorem fits_ofLevels {rows : List Observation} (h : ∀ o ∈ rows, o.Fits) :
    ∀ o ∈ ofLevels rows, o.Fits := by
  intro o ho
  obtain ⟨before, -, after, hafter, hstep⟩ := exists_of_mem_ofLevels ho
  obtain ⟨-, rfl⟩ := step?_eq_some_iff.1 hstep
  obtain ⟨htime, hprice, hnative⟩ := h after hafter
  exact ⟨htime, fun hfinite => hprice (isFinite_of_change hfinite),
    fun hfinite => hnative (isFinite_of_change hfinite)⟩

end Returns

/-! ## Comparisons -/

theorem Comparison.natAbs_bestLag_le {s : CorrelationSettings} {instrument : String}
    {as bs : List Float} {c : Comparison} (hc : ofSeries s instrument as bs = .ok c) :
    c.bestLag.natAbs ≤ min as.length bs.length := by
  rw [(ofSeries_best hc).1, bestOf]
  cases hbest : Lag.best? (Lag.scan s as bs) with
  | none => exact Nat.zero_le _
  | some e =>
    obtain ⟨lag, hlag, rfl⟩ := List.mem_map.1 (Lag.best?_spec hbest).2.mem
    rw [Option.getD_some, Lag.lag_entry]
    calc lag.natAbs ≤ s.maxLag (min as.length bs.length) := Lag.mem_lags.1 hlag
      _ ≤ min as.length bs.length / s.lagDivisor := Nat.min_le_right ..
      _ ≤ min as.length bs.length := Nat.div_le_self ..

theorem Comparison.fits_of_mem_ofObservations {s : CorrelationSettings} {filter : Option String}
    {rows : List Observation} (hrows : IsInt64 rows.length) :
    ∀ c ∈ ofObservations s filter rows, c.Fits := by
  intro c hc
  obtain ⟨-, -, hgroup⟩ := mem_ofObservations.1 hc
  have hgroup_le : (Observation.ofInstrument c.instrument rows).length ≤ rows.length := by
    rw [Observation.ofInstrument, Observation.byTime, length_sortBy]
    exact List.length_filter_le _ _
  have hn : c.n ≤ rows.length := by
    obtain ⟨-, heq⟩ := ofSeries_eq_ok_iff.1 hgroup
    rw [heq]
    simpa [ofEqualSeries] using hgroup_le
  have hlag : c.bestLag.natAbs ≤ rows.length := by
    have hle := natAbs_bestLag_le hgroup
    rw [List.length_map, List.length_map, Nat.min_self] at hle
    exact hle.trans hgroup_le
  exact ⟨hn.trans_lt hrows.lt_size, hrows.of_natAbs_le hlag⟩

theorem Summary.fits_ofComparisons {rows : List Comparison} (hrows : IsInt64 rows.length) :
    (Summary.ofComparisons rows).Fits := by
  have hcount : ∀ p : Float → Bool, (defined (rows.map (·.correlation))).countP p ≤ rows.length := by
    intro p
    calc (defined (rows.map (·.correlation))).countP p
        ≤ (defined (rows.map (·.correlation))).length := List.countP_le_length
      _ ≤ (rows.map (·.correlation)).length := List.length_filter_le _ _
      _ = rows.length := List.length_map _
  exact ⟨hrows.lt_size, (hcount _).trans_lt hrows.lt_size, (hcount _).trans_lt hrows.lt_size⟩

/-! ## Runs and reports -/

theorem Run.fits_ofQuotes {s : Settings} {sides : Sides} (hA : ∀ q ∈ sides.a, IsInt64 q.time)
    {reference : Option (List PricePoint)} {filter : Option String}
    (hrows : IsInt64 (ofQuotes s sides reference filter).observations.length) :
    (ofQuotes s sides reference filter).Fits := by
  have hlevels : ∀ o ∈ align sides.a sides.b reference, o.Fits :=
    Observation.fits_align hA reference
  refine ⟨?observations, ?results, ?summary⟩
  case observations =>
    change ∀ o ∈ observed s sides reference, o.Fits
    unfold observed
    by_cases hreturns : s.alignment.compareReturns
    · rw [if_pos hreturns]
      exact Returns.fits_ofLevels hlevels
    · rw [if_neg hreturns]
      exact hlevels
  case results =>
    intro c hc
    exact Comparison.fits_of_mem_ofObservations hrows c ((mem_sortBy _).1 hc)
  case summary =>
    refine Summary.fits_ofComparisons ?_
    have hle := Comparison.length_ofObservations_le s.correlation filter (observed s sides reference)
    rw [Comparison.rank, length_sortBy]
    exact hrows.of_natAbs_le hle

theorem PresenceReport.fits_ofLevels (s : PresenceSettings) (targets : List Size)
    {levels : List BookLevel} (hlevels : levels.length < UInt64.size) :
    (ofLevels s targets levels).Fits := by
  -- all counts are of columns of the matrix, which are different times of the book
  let m := PresenceMatrix.ofSeries (PresenceSeries.ofLevels s targets levels)
  have htimes : m.times.length < UInt64.size := by
    have hsubset := PresenceMatrix.times_ofLevels_subset s targets levels
    have hle := (List.subperm_of_subset (PresenceMatrix.nodup_times _) hsubset).length_le
    rw [List.length_map] at hle
    exact hle.trans_lt hlevels
  have hrow : ∀ row ∈ m.sizes.zip m.rows, row.2.length = m.times.length := by
    rintro ⟨size, row⟩ hmem
    obtain ⟨sightings, -, rfl⟩ := List.mem_map.1 (List.of_mem_zip hmem).2
    exact List.length_map _
  refine ⟨?stats, ?coOccurrences⟩
  case stats =>
    intro r hr
    obtain ⟨⟨size, row⟩, hmem, rfl⟩ := List.mem_map.1 hr
    refine ⟨?_, htimes⟩
    exact (List.countP_le_length.trans_eq (hrow _ hmem)).trans_lt htimes
  case coOccurrences =>
    intro c hc
    obtain ⟨⟨⟨x, rowX⟩, y, rowY⟩, hmem, rfl⟩ := List.mem_map.1 hc
    have hzip : (rowX.zip rowY).length < UInt64.size := by
      rw [List.length_zip, hrow _ (mem_of_mem_laterPairs hmem).1]
      exact (Nat.min_le_left ..).trans_lt htimes
    exact ⟨List.countP_le_length.trans_lt hzip, List.countP_le_length.trans_lt hzip⟩

end TwoVenues

import TwoVenues.Proofs.Grouping
import TwoVenues.Proofs.Presence.Pairs
import TwoVenues.Proofs.Presence.SizeMap

/-!
# The tables of arbitrary sightings

Sightings need not come from a book: the times of a size may stand in any order, and one time may be
there several times, of presence and of absence. The matrix has a column for each time and counts a
size as present if any sighting then is one of presence.

* `HasPresence sightings time` : one of the sightings at the time is one of presence;
* `PresenceMatrix.IsMatrixOf` : what the matrix has to say about the sightings;
* `PresenceReport.IsTablesOf` : what the tables have to say about the matrix;
* `PresenceMatrix.zip_rows`, `PresenceReport.correlations_ofSeries` : the rows with their sizes, and
  a table as made of pairs of rows;
* `countP_and_add_countP_or` : what two rows have in common and together;
* `PresenceReport.ofSeries_isTablesOf` : both hold of every map of sightings.
-/

namespace TwoVenues

/-- Some sighting at the time is one of presence. -/
def HasPresence (sightings : List Sighting) (time : Time) : Prop :=
  ∃ x ∈ sightings, x.present = true ∧ x.time = time

instance (sightings : List Sighting) : DecidablePred (HasPresence sightings) := fun time =>
  inferInstanceAs (Decidable (∃ x ∈ sightings, x.present = true ∧ x.time = time))

/-- The matrix of a map of sightings: a row for each size and a column for each time. -/
structure PresenceMatrix.IsMatrixOf (series : PresenceSeries) (m : PresenceMatrix) : Prop where
  columns_ascending : m.times.Pairwise (· < ·)
  columns : ∀ time, time ∈ m.times ↔ ∃ e ∈ series.entries, ∃ x ∈ e.2, x.time = time
  sizes_ascending : m.sizes.Pairwise fun x y => x.valueKey < y.valueKey
  sizes : m.sizes = series.entries.map Prod.fst
  rows : m.rows.length = series.entries.length
  width : ∀ row ∈ m.rows, row.length = m.times.length
  cells : ∀ (i t : Nat) e row time, series.entries[i]? = some e → m.rows[i]? = some row →
    m.times[t]? = some time → (row[t]? = some true ↔ HasPresence e.2 time)

/-- The tables of a map of sightings whose matrix is given. -/
structure PresenceReport.IsTablesOf (series : PresenceSeries) (m : PresenceMatrix)
    (report : PresenceReport) : Prop where
  sizes : report.stats.map (·.size) = m.sizes
  total : ∀ r ∈ report.stats, r.totalCount = m.times.length
  present : ∀ r ∈ report.stats, ∀ e ∈ series.entries, e.1 = r.size →
    r.presentCount = m.times.countP (HasPresence e.2)
  /-- Every two sizes have an entry, the smaller one first. -/
  pairs : ∀ x y, (x, y) ∈ report.correlations.map (fun c => (c.size1, c.size2)) ↔
    x ∈ m.sizes ∧ y ∈ m.sizes ∧ x.valueKey < y.valueKey
  /-- Entries are strictly ascending, so no two sizes have more than one. -/
  order : (report.correlations.map fun c => (c.size1, c.size2)).Pairwise
    (Prod.Lex (fun x y => x.valueKey < y.valueKey) fun x y => x.valueKey < y.valueKey)
  same_pairs : report.coOccurrences.map (fun c => (c.size1, c.size2)) =
    report.correlations.map fun c => (c.size1, c.size2)
  length : report.correlations.length = m.sizes.length * (m.sizes.length - 1) / 2
  both : ∀ c ∈ report.coOccurrences, ∀ e₁ ∈ series.entries, ∀ e₂ ∈ series.entries,
    e₁.1 = c.size1 → e₂.1 = c.size2 →
    c.bothPresent = m.times.countP fun time => HasPresence e₁.2 time ∧ HasPresence e₂.2 time
  counts : ∀ c ∈ report.coOccurrences, ∀ r₁ ∈ report.stats, ∀ r₂ ∈ report.stats,
    r₁.size = c.size1 → r₂.size = c.size2 →
    c.bothPresent + c.eitherPresent = r₁.presentCount + r₂.presentCount ∧
    c.bothPresent ≤ min r₁.presentCount r₂.presentCount ∧ c.eitherPresent ≤ r₁.totalCount

/-! ## Counting along two rows -/

theorem countP_and_add_countP_or {α : Type} (p q : α → Bool) (xs : List α) :
    (xs.countP fun x => p x && q x) + (xs.countP fun x => p x || q x) =
      xs.countP p + xs.countP q := by
  induction xs with
  | nil => rfl
  | cons x xs ih =>
    simp only [List.countP_cons]
    cases p x <;> cases q x <;> simp <;> omega

namespace PresenceRow
variable (x y : Size) (p q : Time → Bool) (times : List Time)

theorem presentCount_eq (total : Nat) :
    (stats total (x, times.map p)).presentCount = times.countP p := by
  change List.countP id _ = _
  rw [List.countP_map]
  rfl

theorem bothPresent_eq : (coOccurrence ((x, times.map p), (y, times.map q))).bothPresent =
    times.countP fun time => p time && q time := by
  change List.countP _ (List.zip _ _) = _
  rw [List.zip_map', List.countP_map]
  rfl

theorem eitherPresent_eq : (coOccurrence ((x, times.map p), (y, times.map q))).eitherPresent =
    times.countP fun time => p time || q time := by
  change List.countP _ (List.zip _ _) = _
  rw [List.zip_map', List.countP_map]
  rfl

end PresenceRow

/-! ## The matrix -/

namespace PresenceMatrix
variable {series : PresenceSeries}

theorem presentAt_eq (sightings : List Sighting) (time : Time) :
    presentAt sightings time = decide (HasPresence sightings time) := by
  rw [Bool.eq_iff_iff, presentAt, List.any_eq_true, decide_eq_true_iff]
  simp only [Bool.and_eq_true, decide_eq_true_eq, HasPresence]

theorem pairwise_times (series : PresenceSeries) : (ofSeries series).times.Pairwise (· < ·) :=
  (pairwise_sortedKeys _).imp fun h => Int.compare_eq_lt.1 h

theorem mem_times {time : Time} :
    time ∈ (ofSeries series).times ↔ ∃ seen ∈ series.values, ∃ x ∈ seen, x.time = time := by
  simp only [ofSeries, mem_sortedKeys, List.mem_map, List.mem_flatten]
  grind

def rowOf (series : PresenceSeries) (e : Size × List Sighting) : PresenceRow :=
  (e.1, (ofSeries series).times.map fun time => decide (HasPresence e.2 time))

theorem length_rowOf (series : PresenceSeries) (e : Size × List Sighting) :
    (rowOf series e).2.length = (ofSeries series).times.length :=
  List.length_map _

theorem rows_ofSeries (series : PresenceSeries) :
    (ofSeries series).rows = series.entries.map fun e => (rowOf series e).2 := by
  show List.map _ (List.map _ _) = _
  rw [List.map_map]
  refine List.map_congr_left fun e _ => ?_
  exact List.map_congr_left fun time _ => presentAt_eq e.2 time

theorem zip_rows (series : PresenceSeries) :
    (ofSeries series).sizes.zip (ofSeries series).rows = series.entries.map (rowOf series) := by
  rw [rows_ofSeries]
  exact List.zip_map' ..

theorem ofSeries_isMatrix (series : PresenceSeries) : IsMatrixOf series (ofSeries series) where
  columns_ascending := pairwise_times series
  columns time := by
    rw [mem_times, SizeMap.values]
    simp only [List.mem_map, exists_exists_and_eq_and]
  sizes_ascending := series.pairwise_sizes
  sizes := rfl
  rows := by rw [rows_ofSeries, List.length_map]
  width := by
    intro row hrow
    rw [rows_ofSeries] at hrow
    obtain ⟨e, -, rfl⟩ := List.mem_map.1 hrow
    exact List.length_map _
  cells := by
    intro i t e row time he hrow htime
    rw [rows_ofSeries, List.getElem?_map, he] at hrow
    obtain rfl := Option.some.inj hrow
    change (List.map _ _)[t]? = some true ↔ _
    rw [List.getElem?_map, htime, Option.map_some, Option.some_inj, decide_eq_true_iff]

end PresenceMatrix

/-! ## The tables -/

namespace PresenceReport
open PresenceMatrix
variable (s : PresenceSettings) (series : PresenceSeries)

theorem stats_ofSeries : (ofSeries s series).stats = series.entries.map fun e =>
    PresenceRow.stats (PresenceMatrix.ofSeries series).times.length (rowOf series e) := by
  change List.map _ _ = _
  rw [zip_rows, List.map_map]
  rfl

theorem correlations_ofSeries : (ofSeries s series).correlations =
    (laterPairs series.entries).map fun pair =>
      PresenceRow.correlation (rowOf series pair.1, rowOf series pair.2) := by
  change List.map _ _ = _
  rw [zip_rows, laterPairs_map, List.map_map]
  rfl

theorem coOccurrences_ofSeries : (ofSeries s series).coOccurrences =
    (laterPairs series.entries).map fun pair =>
      PresenceRow.coOccurrence (rowOf series pair.1, rowOf series pair.2) := by
  change List.map _ _ = _
  rw [zip_rows, laterPairs_map, List.map_map]
  rfl

variable {s series}

theorem mem_stats_ofSeries {r : SizeStats} : r ∈ (ofSeries s series).stats ↔
    ∃ e ∈ series.entries,
      r = PresenceRow.stats (PresenceMatrix.ofSeries series).times.length (rowOf series e) := by
  rw [stats_ofSeries, List.mem_map]
  simp only [eq_comm]

theorem eq_stats_of_valueKey_eq {r : SizeStats} (hr : r ∈ (ofSeries s series).stats)
    {e : Size × List Sighting} (he : e ∈ series.entries) (h : e.1.valueKey = r.size.valueKey) :
    r = PresenceRow.stats (PresenceMatrix.ofSeries series).times.length (rowOf series e) := by
  obtain ⟨d, hd, rfl⟩ := mem_stats_ofSeries.1 hr
  rw [SizeMap.eq_of_valueKey_eq he hd h]

theorem presentCount_ofSeries {r : SizeStats} (hr : r ∈ (ofSeries s series).stats)
    {e : Size × List Sighting} (he : e ∈ series.entries) (h : e.1 = r.size) :
    r.presentCount = (PresenceMatrix.ofSeries series).times.countP (HasPresence e.2) := by
  rw [eq_stats_of_valueKey_eq hr he (congrArg (·.valueKey) h)]
  exact PresenceRow.presentCount_eq ..

theorem pairs_correlations :
    ((ofSeries s series).correlations.map fun c => (c.size1, c.size2)) = laterPairs series.sizes := by
  rw [correlations_ofSeries, SizeMap.sizes, laterPairs_map, List.map_map]
  rfl

theorem pairs_coOccurrences :
    ((ofSeries s series).coOccurrences.map fun c => (c.size1, c.size2)) =
      laterPairs series.sizes := by
  rw [coOccurrences_ofSeries, SizeMap.sizes, laterPairs_map, List.map_map]
  rfl

theorem ofSeries_isTables (s : PresenceSettings) (series : PresenceSeries) :
    IsTablesOf series (PresenceMatrix.ofSeries series) (ofSeries s series) where
  sizes := by
    rw [stats_ofSeries, List.map_map]
    rfl
  total := by
    intro r hr
    obtain ⟨e, -, rfl⟩ := mem_stats_ofSeries.1 hr
    rfl
  present := fun r hr e he h => presentCount_ofSeries hr he h
  pairs := by
    intro x y
    rw [pairs_correlations]
    exact mem_laterPairs_iff (fun _ _ h => Int.not_lt.2 (Int.le_of_lt h)) series.pairwise_sizes
  order := by
    rw [pairs_correlations]
    exact pairwise_laterPairs series.pairwise_sizes
  same_pairs := by rw [pairs_correlations, pairs_coOccurrences]
  length := by
    have hsizes : (PresenceMatrix.ofSeries series).sizes.length = series.entries.length :=
      List.length_map _
    rw [correlations_ofSeries, List.length_map, length_laterPairs, hsizes]
  both := by
    intro c hc e₁ he₁ e₂ he₂ h₁ h₂
    rw [coOccurrences_ofSeries] at hc
    obtain ⟨d₁, hd₁, d₂, hd₂, rfl⟩ := exists_of_mem_map_laterPairs hc
    obtain rfl := SizeMap.eq_of_fst_eq he₁ hd₁ h₁
    obtain rfl := SizeMap.eq_of_fst_eq he₂ hd₂ h₂
    rw [rowOf, rowOf, PresenceRow.bothPresent_eq]
    simp only [Bool.decide_and]
  counts := by
    intro c hc r₁ hr₁ r₂ hr₂ h₁ h₂
    rw [coOccurrences_ofSeries] at hc
    obtain ⟨d₁, hd₁, d₂, hd₂, rfl⟩ := exists_of_mem_map_laterPairs hc
    rw [presentCount_ofSeries hr₁ hd₁ h₁.symm, presentCount_ofSeries hr₂ hd₂ h₂.symm]
    obtain ⟨e, -, rfl⟩ := mem_stats_ofSeries.1 hr₁
    rw [rowOf, rowOf, PresenceRow.bothPresent_eq, PresenceRow.eitherPresent_eq]
    refine ⟨countP_and_add_countP_or .., Nat.le_min.2 ⟨?_, ?_⟩, List.countP_le_length⟩
    · exact List.countP_mono_left fun time _ h => (Bool.and_eq_true_iff.1 h).1
    · exact List.countP_mono_left fun time _ h => (Bool.and_eq_true_iff.1 h).2

/-- **Matrix and tables of arbitrary sightings.** Whatever the order of the sightings, and however
often a time is there, the matrix has one column for each time, ascending, and says of each size
whether some sighting then is one of presence; and both tables of pairs have one entry for every two
sizes, in one order, whose counts add up to those of the two sizes. -/
theorem ofSeries_isTablesOf (s : PresenceSettings) (series : PresenceSeries) :
    IsMatrixOf series (PresenceMatrix.ofSeries series) ∧
      IsTablesOf series (PresenceMatrix.ofSeries series) (ofSeries s series) :=
  ⟨ofSeries_isMatrix series, ofSeries_isTables s series⟩

end PresenceReport

end TwoVenues

import Mathlib.Data.Finset.Card
import TwoVenues.Proofs.Presence.Pairs
import TwoVenues.Proofs.Presence.Sightings

/-!
# The presence report counts times of the book

* `countTimes levels p` : how many different times of the book satisfy a condition;
* `PresenceReport.IsCountOf` : what the tables of a report have to say about a book;
* `countP_eq_countTimes` : counting along the columns of the matrix counts times of the book;
* `PresenceReport.ofLevels_isCountOf` : the tables are such counts.
-/

namespace TwoVenues

/-- How many different times of the book satisfy a condition. -/
def countTimes (levels : List BookLevel) (p : Time → Prop) [DecidablePred p] : Nat :=
  ((levels.map (·.time)).toFinset.filter p).card

namespace PresenceReport

/-- The tables of a report agree with the book, for the sizes that are followed. -/
structure IsCountOf (s : PresenceSettings) (targets : List Size) (levels : List BookLevel)
    (report : PresenceReport) : Prop where
  /-- Every size has one row. -/
  sizes : (report.stats.map (·.size)).Perm targets
  ascending : report.stats.Pairwise fun x y => x.size.valueKey < y.size.valueKey
  total : ∀ r ∈ report.stats, r.totalCount =
    countTimes levels fun time => ∃ target ∈ targets, SightedAt s levels target time
  present : ∀ r ∈ report.stats, r.presentCount = countTimes levels (PresentAt s levels r.size)
  /-- Every two sizes have one record, the smaller one first. -/
  pairs : ∀ x y, (∃ c ∈ report.coOccurrences, c.size1 = x ∧ c.size2 = y) ↔
    x ∈ targets ∧ y ∈ targets ∧ x.valueKey < y.valueKey
  pairs_nodup : (report.coOccurrences.map fun c => (c.size1, c.size2)).Nodup
  both : ∀ c ∈ report.coOccurrences, c.bothPresent =
    countTimes levels fun time => PresentAt s levels c.size1 time ∧ PresentAt s levels c.size2 time
  either : ∀ c ∈ report.coOccurrences, c.eitherPresent =
    countTimes levels fun time => PresentAt s levels c.size1 time ∨ PresentAt s levels c.size2 time

variable {s : PresenceSettings} {levels : List BookLevel} {targets : List Size}

/-! ## Columns of the matrix -/

/-- A condition on times that are columns of the matrix holds at as many columns as times. -/
theorem countP_eq_countTimes {times : List Time} (hnodup : times.Nodup)
    (hbook : ∀ time ∈ times, time ∈ levels.map (·.time)) {p : Time → Prop} [DecidablePred p]
    (hp : ∀ time, p time → time ∈ times) : times.countP p = countTimes levels p := by
  rw [List.countP_eq_length_filter, ← List.toFinset_card_of_nodup (hnodup.filter _), countTimes]
  congr 1
  ext time
  simp only [List.mem_toFinset, List.mem_filter, Finset.mem_filter, decide_eq_true_eq]
  exact ⟨fun h => ⟨hbook time h.1, h.2⟩, fun h => ⟨hp time h.2, h.2⟩⟩

/-- The times at which any of the sizes is sighted. -/
abbrev times (s : PresenceSettings) (targets : List Size) (levels : List BookLevel) : List Time :=
  (PresenceMatrix.ofSeries (PresenceSeries.ofLevels s targets levels)).times

abbrev row (s : PresenceSettings) (targets : List Size) (levels : List BookLevel) (target : Size) :
    PresenceRow :=
  (target, (times s targets levels).map fun time => decide (PresentAt s levels target time))

section Columns
variable (htargets : (targets.map (·.valueKey)).Nodup)
include htargets

theorem mem_times_of_presentAt {target : Size} (htarget : target ∈ targets) {time : Time}
    (h : PresentAt s levels target time) : time ∈ times s targets levels :=
  (PresenceMatrix.mem_times_ofLevels htargets).2 ⟨target, htarget, h.sightedAt⟩

theorem length_times : (times s targets levels).length =
    countTimes levels fun time => ∃ target ∈ targets, SightedAt s levels target time := by
  have hall : ∀ time ∈ times s targets levels,
      decide (∃ target ∈ targets, SightedAt s levels target time) = true := fun time h =>
    decide_eq_true ((PresenceMatrix.mem_times_ofLevels htargets).1 h)
  rw [← List.countP_eq_length.2 hall]
  exact countP_eq_countTimes (PresenceMatrix.nodup_times _)
    (PresenceMatrix.times_ofLevels_subset s targets levels)
    fun time h => (PresenceMatrix.mem_times_ofLevels htargets).2 h

theorem countP_times {p : Time → Prop} [DecidablePred p]
    (hp : ∀ time, p time → ∃ target ∈ targets, PresentAt s levels target time) :
    (times s targets levels).countP p = countTimes levels p := by
  refine countP_eq_countTimes (PresenceMatrix.nodup_times _)
    (PresenceMatrix.times_ofLevels_subset s targets levels) fun time h => ?_
  obtain ⟨target, htarget, hpresent⟩ := hp time h
  exact mem_times_of_presentAt htargets htarget hpresent

/-! ## Rows of the tables -/

theorem stats_ofLevels : (ofLevels s targets levels).stats =
    (PresenceSeries.ofLevels s targets levels).sizes.map fun target =>
      PresenceRow.stats (times s targets levels).length (row s targets levels target) := by
  change List.map _ _ = _
  rw [PresenceMatrix.zip_rows_ofLevels htargets, List.map_map]
  rfl

theorem coOccurrences_ofLevels : (ofLevels s targets levels).coOccurrences =
    (laterPairs (PresenceSeries.ofLevels s targets levels).sizes).map fun pair =>
      PresenceRow.coOccurrence (row s targets levels pair.1, row s targets levels pair.2) := by
  change List.map _ _ = _
  rw [PresenceMatrix.zip_rows_ofLevels htargets, laterPairs_map, List.map_map]
  rfl

theorem presentCount_row {target : Size} (htarget : target ∈ targets) (total : Nat) :
    (PresenceRow.stats total (row s targets levels target)).presentCount =
      countTimes levels (PresentAt s levels target) := by
  rw [row, PresenceRow.presentCount_eq]
  exact countP_times htargets fun time h => ⟨target, htarget, h⟩

theorem bothPresent_rows {x y : Size} (hx : x ∈ targets) :
    (PresenceRow.coOccurrence (row s targets levels x, row s targets levels y)).bothPresent =
      countTimes levels fun time => PresentAt s levels x time ∧ PresentAt s levels y time := by
  rw [row, row, PresenceRow.bothPresent_eq, ← countP_times htargets fun time h => ⟨x, hx, h.1⟩]
  simp only [Bool.decide_and]

theorem eitherPresent_rows {x y : Size} (hx : x ∈ targets) (hy : y ∈ targets) :
    (PresenceRow.coOccurrence (row s targets levels x, row s targets levels y)).eitherPresent =
      countTimes levels fun time => PresentAt s levels x time ∨ PresentAt s levels y time := by
  have hp : ∀ time, PresentAt s levels x time ∨ PresentAt s levels y time →
      ∃ target ∈ targets, PresentAt s levels target time := by
    rintro time (h | h)
    · exact ⟨x, hx, h⟩
    · exact ⟨y, hy, h⟩
  rw [row, row, PresenceRow.eitherPresent_eq, ← countP_times htargets hp]
  simp only [Bool.decide_or]

theorem mem_stats {r : SizeStats} : r ∈ (ofLevels s targets levels).stats ↔
    ∃ target ∈ targets,
      r = PresenceRow.stats (times s targets levels).length (row s targets levels target) := by
  rw [stats_ofLevels htargets, List.mem_map]
  simp only [(PresenceSeries.perm_sizes_ofLevels htargets).mem_iff, eq_comm]

theorem mem_laterPairs_sizes {x y : Size} :
    (x, y) ∈ laterPairs (PresenceSeries.ofLevels s targets levels).sizes ↔
      x ∈ targets ∧ y ∈ targets ∧ x.valueKey < y.valueKey := by
  have hperm : (PresenceSeries.ofLevels s targets levels).sizes.Perm targets :=
    PresenceSeries.perm_sizes_ofLevels htargets
  rw [mem_laterPairs_iff (fun _ _ h => Int.not_lt.2 (Int.le_of_lt h)) (SizeMap.pairwise_sizes _),
    hperm.mem_iff, hperm.mem_iff]

theorem mem_coOccurrences {c : CoOccurrence} : c ∈ (ofLevels s targets levels).coOccurrences ↔
    ∃ x y, (x ∈ targets ∧ y ∈ targets ∧ x.valueKey < y.valueKey) ∧
      c = PresenceRow.coOccurrence (row s targets levels x, row s targets levels y) := by
  rw [coOccurrences_ofLevels htargets, List.mem_map, Prod.exists]
  simp only [mem_laterPairs_sizes htargets, eq_comm]

end Columns

/-- **The presence tables agree with the book.** Each size that is followed has one row, ascending,
which counts the times at which any of the sizes is sighted and those at which this one is present;
each two sizes have one record of the times at which both are present and at which either is. A size
that matches no level keeps its row, with the count zero. -/
theorem ofLevels_isCountOf (s : PresenceSettings) {targets : List Size}
    (htargets : (targets.map (·.valueKey)).Nodup) (levels : List BookLevel) :
    IsCountOf s targets levels (ofLevels s targets levels) ∧
    ∀ target ∈ targets, (∀ l ∈ levels, s.isMatch l.size target.toFloat = false) →
      ∃ r ∈ (ofLevels s targets levels).stats, r.size = target ∧ r.presentCount = 0 := by
  have htables := ofSeries_isTables s (PresenceSeries.ofLevels s targets levels)
  refine ⟨⟨?sizes, ?ascending, ?total, ?present, ?pairs, ?pairs_nodup, ?both, ?either⟩, ?zero⟩
  case sizes =>
    exact htables.sizes ▸ PresenceSeries.perm_sizes_ofLevels htargets
  case ascending =>
    have hsizes := (PresenceMatrix.ofSeries_isMatrix
      (PresenceSeries.ofLevels s targets levels)).sizes_ascending
    rw [← htables.sizes] at hsizes
    exact hsizes.of_map SizeStats.size fun _ _ hlt => hlt
  case total =>
    intro r hr
    obtain ⟨target, -, rfl⟩ := (mem_stats htargets).1 hr
    exact length_times htargets
  case present =>
    intro r hr
    obtain ⟨target, htarget, rfl⟩ := (mem_stats htargets).1 hr
    exact presentCount_row htargets htarget _
  case pairs =>
    intro x y
    constructor
    · rintro ⟨c, hc, rfl, rfl⟩
      obtain ⟨x, y, hxy, rfl⟩ := (mem_coOccurrences htargets).1 hc
      exact hxy
    · intro hxy
      exact ⟨_, (mem_coOccurrences htargets).2 ⟨x, y, hxy, rfl⟩, rfl, rfl⟩
  case pairs_nodup =>
    rw [ofLevels, pairs_coOccurrences]
    exact nodup_laterPairs (SizeMap.nodup_sizes _)
  case both =>
    intro c hc
    obtain ⟨x, y, ⟨hx, -⟩, rfl⟩ := (mem_coOccurrences htargets).1 hc
    exact bothPresent_rows htargets hx
  case either =>
    intro c hc
    obtain ⟨x, y, ⟨hx, hy, -⟩, rfl⟩ := (mem_coOccurrences htargets).1 hc
    exact eitherPresent_rows htargets hx hy
  case zero =>
    intro target htarget hnone
    refine ⟨_, (mem_stats htargets).2 ⟨target, htarget, rfl⟩, rfl, ?_⟩
    rw [presentCount_row htargets htarget]
    refine Finset.card_eq_zero.2 (Finset.filter_eq_empty_iff.2 ?_)
    rintro time - ⟨l, hl, -, hmatch, -⟩
    rw [hnone l hl] at hmatch
    cases hmatch

/-- A book in which 10 is sighted at three times, but present at two of them. -/
theorem ofLevels_isCountOf_ten :
    let targets : List Size := [.ofFloat 50.0, .ofFloat 10.0]
    let levels : List BookLevel :=
      [⟨15000, 9.97, 9.97⟩, ⟨0, 10.0, 10.0⟩, ⟨0, 10.0, 2.5⟩, ⟨5000, 10.0, 0.0⟩, ⟨10000, 7.0, 7.0⟩]
    (targets.map (·.valueKey)).Nodup ∧
      (∃ r ∈ (ofLevels {} targets levels).stats,
        r.size = .ofFloat 10.0 ∧ r.presentCount = 2 ∧ r.totalCount = 3) ∧
      (∀ l ∈ levels, PresenceSettings.isMatch {} l.size 50.0 = false) ∧
      ∃ r ∈ (ofLevels {} targets levels).stats, r.size = .ofFloat 50.0 ∧ r.presentCount = 0 := by
  intro targets levels
  have htargets : (targets.map (·.valueKey)).Nodup := by decide +kernel
  have hnone : ∀ l ∈ levels, PresenceSettings.isMatch {} l.size 50.0 = false := by decide +kernel
  obtain ⟨hcount, hzero⟩ := ofLevels_isCountOf {} htargets levels
  obtain ⟨r, hr, hsize⟩ := List.mem_map.1 (hcount.sizes.mem_iff.2 (List.mem_cons_of_mem _
    (List.mem_cons_self : Double.Signed.ofFloat 10.0 ∈ _)))
  refine ⟨htargets, ⟨r, hr, hsize, ?_, ?_⟩, hnone, hzero _ List.mem_cons_self hnone⟩
  · rw [hcount.present r hr, hsize]
    decide +kernel
  · rw [hcount.total r hr]
    decide +kernel

end PresenceReport

end TwoVenues

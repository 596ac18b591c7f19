import TwoVenues.Presence.Report
import TwoVenues.Proofs.Checked.Groups
import TwoVenues.Proofs.Checked.Series
import TwoVenues.Proofs.Presence.Pairs
import TwoVenues.Proofs.Presence.Sightings

/-!
# Presence, with checked places

A row of the presence matrix starts with absence at every time, and presence is written at the places
of the times at which the size was present. The pairs of sizes are taken by their places in the list
of sizes and in the list of rows, of which there are equally many. Groups need fewer than `2 ^ 255`
sizes, and there are not as many doubles.

* `row_eq`, `matrix_eq` : the presence matrix;
* `pairTables_eq` : the correlation and the coincidence of every pair;
* `reportOfMatrix_eq`, `report_eq` : the presence report.
-/

namespace TwoVenues.Checked

/-! ## The matrix -/

/-- Writes presence at the place of a time, if the time has one. -/
def mark (times : List Time) (row : List Bool) (time : Time) : Option (List Bool) :=
  match times.idxOf? time with
  | some i => set? row i true
  | none => some row

/-- The row of a size, with presence at the times at which the size was present. -/
def row (times : List Time) (sightings : List Sighting) : Option (List Bool) :=
  ((sightings.filter (·.present)).map (·.time)).foldlM (mark times)
    (List.replicate times.length false)

def matrix (series : PresenceSeries) : Option PresenceMatrix := do
  let times := sortedKeys (series.values.flatten.map (·.time))
  let rows ← series.values.mapM (row times)
  return { times, sizes := series.sizes, rows }

section Rows
variable {times : List Time} (hnodup : times.Nodup)
include hnodup

theorem mark_eq (present : Time → Bool) (time : Time) :
    mark times (times.map present) time =
      some (times.map fun t => present t || decide (time = t)) := by
  unfold mark
  cases hplace : times.idxOf? time with
  | none =>
    have hmem : time ∉ times := List.idxOf?_eq_none_iff.1 hplace
    refine congrArg some (List.map_congr_left fun t ht => ?_)
    have hne : time ≠ t := fun heq => hmem (heq ▸ ht)
    simp [hne]
  | some i =>
    obtain ⟨hi, htime, -⟩ := List.idxOf?_eq_some_iff.1 hplace
    show set? (times.map present) i true = _
    rw [set?_of_lt (by rwa [List.length_map])]
    refine congrArg some (List.ext_getElem (by simp) fun j hj _ => ?_)
    have hjlt : j < times.length := by simpa using hj
    by_cases hij : i = j
    · obtain rfl := hij
      simp [htime]
    · -- a time that is there once has no other place
      have hne : time ≠ times[j] := fun heq => hij (hnodup.getElem_inj_iff.1 (htime.trans heq))
      simp [hij, hne]

theorem row_eq (sightings : List Sighting) :
    row times sightings = some (times.map (PresenceMatrix.presentAt sightings)) := by
  have hfold : ∀ (seen : List Time) (present : Time → Bool),
      seen.foldlM (mark times) (times.map present) =
        some (times.map fun t => present t || seen.any (· = t)) := by
    intro seen
    induction seen with
    | nil => simp
    | cons time seen ih =>
      intro present
      rw [List.foldlM_cons, mark_eq hnodup, Option.bind_eq_bind, Option.bind_some, ih]
      simp only [List.any_cons, Bool.or_assoc]
  have hstart : List.replicate times.length false = times.map fun _ => false := by simp
  unfold row
  rw [hstart, hfold]
  simp only [Bool.false_or, List.any_map, List.any_filter]
  rfl

end Rows

theorem matrix_eq (series : PresenceSeries) :
    matrix series = some (PresenceMatrix.ofSeries series) := by
  have hrows : ∀ times : List Time, times.Nodup → series.values.mapM (row times) =
      some (series.values.map fun sightings => times.map (PresenceMatrix.presentAt sightings)) :=
    fun _ hnodup => mapM_eq_some_map fun sightings _ => row_eq hnodup sightings
  unfold matrix
  simp only [hrows _ (nodup_sortedKeys _)]
  rfl

/-! ## Pairs -/

/-- The places of all pairs in a list of `n` members, the earlier place first. -/
def laterPlaces (n : Nat) : List (Nat × Nat) :=
  (List.range n).flatMap fun i => (List.range' (i + 1) (n - (i + 1))).map (i, ·)

/-- The correlation and the coincidence of the sizes at two places. -/
def pairTable (m : PresenceMatrix) (i j : Nat) : Option (SizeCorrelation × CoOccurrence) := do
  let size1 ← m.sizes[i]?
  let size2 ← m.sizes[j]?
  let row1 ← m.rows[i]?
  let row2 ← m.rows[j]?
  let c ← pearson (PresenceRow.toNumbers row1) (PresenceRow.toNumbers row2)
  return (⟨size1, size2, c.r, c.p⟩, PresenceRow.coOccurrence ((size1, row1), (size2, row2)))

def pairTables (m : PresenceMatrix) : Option (List (SizeCorrelation × CoOccurrence)) :=
  (laterPlaces m.sizes.length).mapM fun p => pairTable m p.1 p.2

theorem laterPlaces_eq (n : Nat) : laterPlaces n = laterPairs (List.range n) := by
  have hfrom : ∀ n start : Nat, laterPairs (List.range' start n) =
      (List.range' start n).flatMap fun i =>
        (List.range' (i + 1) (start + n - (i + 1))).map (i, ·) := by
    intro n
    induction n with
    | zero => exact fun _ => rfl
    | succ n ih =>
      intro start
      have hcount : start + (n + 1) - (start + 1) = n := by omega
      have hend : start + 1 + n = start + (n + 1) := by omega
      rw [List.range'_succ, laterPairs, List.flatMap_cons, ih, hcount, hend]
  rw [List.range_eq_range', hfrom, laterPlaces, List.range_eq_range', Nat.zero_add]

theorem pairTables_eq {m : PresenceMatrix} (h : m.rows.length = m.sizes.length) :
    pairTables m = some ((laterPairs (m.sizes.zip m.rows)).map fun rows =>
      (PresenceRow.correlation rows, PresenceRow.coOccurrence rows)) := by
  let rowAt (i : Fin m.sizes.length) : PresenceRow := (m.sizes[i], m.rows[i])
  have hzip : m.sizes.zip m.rows = (List.finRange m.sizes.length).map rowAt :=
    List.ext_getElem (by simp [h]) fun i _ _ => by simp [rowAt]
  have hplaces : laterPlaces m.sizes.length =
      (laterPairs (List.finRange m.sizes.length)).map (Prod.map Fin.val Fin.val) := by
    rw [laterPlaces_eq, ← laterPairs_map, List.map_coe_finRange_eq_range]
  have hget : ∀ i : Fin m.sizes.length, m.sizes[i.val]? = some (rowAt i).1 ∧
      m.rows[i.val]? = some (rowAt i).2 := by
    intro i
    simp [rowAt, h]
  unfold pairTables
  rw [hplaces, hzip, laterPairs_map, List.mapM_map, List.map_map]
  refine mapM_eq_some_map fun p _ => ?_
  show pairTable m p.1 p.2 = _
  unfold pairTable
  simp only [(hget p.1).1, (hget p.1).2, (hget p.2).1, (hget p.2).2, pearson_eq]
  rfl

/-! ## The report -/

def reportOfMatrix (s : PresenceSettings) (m : PresenceMatrix) : Option PresenceReport := do
  let stats := (m.sizes.zip m.rows).map (PresenceRow.stats m.times.length)
  let tables ← pairTables m
  let correlations := tables.map Prod.fst
  let groups ← groups stats correlations s.clusterMinCorrelation s.clusterMaxPValue
  return { stats, correlations, coOccurrences := tables.map Prod.snd, groups }

def report (s : PresenceSettings) (targets : List Size) (levels : List BookLevel) :
    Option PresenceReport := do
  reportOfMatrix s (← matrix (PresenceSeries.ofLevels s targets levels))

theorem reportOfMatrix_eq (s : PresenceSettings) {m : PresenceMatrix}
    (hrows : m.rows.length = m.sizes.length) (hsizes : m.sizes.length < 2 ^ 255) :
    reportOfMatrix s m = some (PresenceReport.ofMatrix s m) := by
  have hstats : ((m.sizes.zip m.rows).map (PresenceRow.stats m.times.length)).length < 2 ^ 255 := by
    rwa [List.length_map, List.length_zip, hrows, Nat.min_self]
  unfold reportOfMatrix
  simp only [pairTables_eq hrows, groups_eq hstats, Option.bind_eq_bind, Option.bind_some,
    List.map_map]
  rfl

theorem report_eq (s : PresenceSettings) (targets : List Size) (levels : List BookLevel) :
    report s targets levels = some (PresenceReport.ofLevels s targets levels) := by
  let series := PresenceSeries.ofLevels s targets levels
  have hrows : (PresenceMatrix.ofSeries series).rows.length = series.sizes.length := by
    simp [PresenceMatrix.ofSeries, SizeMap.values, SizeMap.sizes]
  unfold report
  rw [matrix_eq]
  exact reportOfMatrix_eq s hrows (series.length_sizes_le.trans_lt (by decide))

end TwoVenues.Checked

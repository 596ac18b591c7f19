import TwoVenues.Proofs.Presence.Tables

/-!
# What is sighted in the book

Of the levels of a book it only matters which sizes they match at which times, and with a positive
quantity at which.

* `SightedAt`, `PresentAt` : a level matches the size at the time, or even rests there;
* `PresenceSeries.mem_sightings` : one sighting for each time at which the size is sighted;
* `PresenceMatrix.times_ofLevels_subset` : columns of the matrix are times of the book;
* `PresenceMatrix.mem_times_ofLevels` : the times at which any size is sighted;
* `PresenceMatrix.zip_rows_ofLevels` : the rows of the matrix, as presence at these times.
-/

namespace TwoVenues

/-- Some level matches the size at the time. -/
def SightedAt (s : PresenceSettings) (levels : List BookLevel) (target : Size) (time : Time) :
    Prop :=
  ∃ l ∈ levels, l.time = time ∧ s.isMatch l.size target.toFloat = true

/-- Some level matches the size at the time and rests with a positive quantity. -/
def PresentAt (s : PresenceSettings) (levels : List BookLevel) (target : Size) (time : Time) :
    Prop :=
  ∃ l ∈ levels, l.time = time ∧ s.isMatch l.size target.toFloat = true ∧ l.quantity > 0.0

variable {s : PresenceSettings} {levels : List BookLevel} {targets : List Size} {target : Size}
  {time : Time}

instance : DecidablePred (SightedAt s levels target) := fun time =>
  inferInstanceAs (Decidable (∃ l ∈ levels, l.time = time ∧ s.isMatch l.size target.toFloat = true))

instance : DecidablePred (PresentAt s levels target) := fun time =>
  inferInstanceAs (Decidable (∃ l ∈ levels,
    l.time = time ∧ s.isMatch l.size target.toFloat = true ∧ l.quantity > 0.0))

theorem PresentAt.sightedAt (h : PresentAt s levels target time) :
    SightedAt s levels target time := by
  obtain ⟨l, hl, htime, hmatch, -⟩ := h
  exact ⟨l, hl, htime, hmatch⟩

theorem SightedAt.mem_times (h : SightedAt s levels target time) : time ∈ levels.map (·.time) := by
  obtain ⟨l, hl, htime, -⟩ := h
  exact List.mem_map.2 ⟨l, hl, htime⟩

namespace PresenceSeries

/-! ## Sightings of one size -/

/-- A size has one sighting for each time at which it is sighted, which tells its presence then. -/
theorem mem_sightings {x : Sighting} : x ∈ sightings s levels target ↔
    x.size = target ∧ SightedAt s levels target x.time ∧
      x.present = decide (PresentAt s levels target x.time) := by
  -- the group of a time holds the matching levels of that time
  have hany : ∀ time, ((levels.filter fun l => s.isMatch l.size target.toFloat).filter
      (·.time = time)).any (·.quantity > 0.0) = decide (PresentAt s levels target time) := by
    intro time
    rw [Bool.eq_iff_iff, List.any_eq_true, decide_eq_true_iff]
    simp only [List.mem_filter, decide_eq_true_eq, PresentAt]
    grind
  have hne : ∀ time, (levels.filter fun l => s.isMatch l.size target.toFloat).filter
      (·.time = time) ≠ [] ↔ SightedAt s levels target time := by
    intro time
    rw [ne_eq, List.filter_eq_nil_iff]
    simp only [List.mem_filter, decide_eq_true_eq, SightedAt]
    grind
  simp only [sightings, List.mem_map, Prod.exists, mem_groupsBy]
  constructor
  · rintro ⟨time, _, ⟨rfl, hsome⟩, rfl⟩
    exact ⟨rfl, (hne time).1 hsome, hany time⟩
  · rintro ⟨hsize, hsighted, hpresent⟩
    refine ⟨x.time, _, ⟨rfl, (hne x.time).2 hsighted⟩, ?_⟩
    rw [hany, ← hpresent, ← hsize]

/-! ## Sightings of all sizes -/

theorem perm_entries_ofLevels (htargets : (targets.map (·.valueKey)).Nodup) :
    (ofLevels s targets levels).entries.Perm
      (targets.map fun target => (target, sightings s levels target)) := by
  refine SizeMap.perm_entries_ofList ?_
  rw [List.map_map]
  exact htargets

theorem perm_sizes_ofLevels (htargets : (targets.map (·.valueKey)).Nodup) :
    (ofLevels s targets levels).sizes.Perm targets := by
  have h : (ofLevels s targets levels).sizes.Perm _ :=
    (perm_entries_ofLevels htargets).map Prod.fst
  rwa [List.map_map, Function.comp_def, List.map_id'] at h

theorem values_ofLevels (htargets : (targets.map (·.valueKey)).Nodup) :
    (ofLevels s targets levels).values =
      (ofLevels s targets levels).sizes.map (sightings s levels) := by
  rw [SizeMap.values, SizeMap.sizes, List.map_map]
  refine List.map_congr_left fun e he => ?_
  obtain ⟨target, -, rfl⟩ := List.mem_map.1 ((perm_entries_ofLevels htargets).mem_iff.1 he)
  rfl

end PresenceSeries

namespace PresenceMatrix
open PresenceSeries

/-! ## The matrix -/

theorem nodup_times (series : PresenceSeries) : (ofSeries series).times.Nodup :=
  nodup_sortedKeys _

/-- Whatever sizes are followed, all columns are times of the book. -/
theorem times_ofLevels_subset (s : PresenceSettings) (targets : List Size)
    (levels : List BookLevel) :
    (ofSeries (PresenceSeries.ofLevels s targets levels)).times ⊆ levels.map (·.time) := by
  intro time htime
  obtain ⟨seen, hseen, x, hx, rfl⟩ := mem_times.1 htime
  have hgiven := SizeMap.values_ofList_subset _ hseen
  rw [List.map_map] at hgiven
  obtain ⟨target, -, rfl⟩ := List.mem_map.1 hgiven
  exact (PresenceSeries.mem_sightings.1 hx).2.1.mem_times

theorem mem_times_ofLevels (htargets : (targets.map (·.valueKey)).Nodup) :
    time ∈ (ofSeries (ofLevels s targets levels)).times ↔
      ∃ target ∈ targets, SightedAt s levels target time := by
  rw [mem_times, values_ofLevels htargets]
  simp only [List.mem_map, (perm_sizes_ofLevels htargets).mem_iff]
  constructor
  · rintro ⟨_, ⟨target, htarget, rfl⟩, x, hx, rfl⟩
    exact ⟨target, htarget, (mem_sightings.1 hx).2.1⟩
  · rintro ⟨target, htarget, hsighted⟩
    exact ⟨_, ⟨target, htarget, rfl⟩, ⟨target, time, decide (PresentAt s levels target time)⟩,
      mem_sightings.2 ⟨rfl, hsighted, rfl⟩, rfl⟩

theorem hasPresence_sightings :
    HasPresence (sightings s levels target) time ↔ PresentAt s levels target time := by
  simp only [HasPresence, mem_sightings]
  constructor
  · rintro ⟨x, ⟨-, -, hx⟩, hpresent, rfl⟩
    exact of_decide_eq_true (hx ▸ hpresent)
  · intro h
    exact ⟨⟨target, time, true⟩, ⟨rfl, h.sightedAt, (decide_eq_true h).symm⟩, rfl, rfl⟩

/-- The rows of the matrix with their sizes. -/
theorem zip_rows_ofLevels (htargets : (targets.map (·.valueKey)).Nodup) :
    let m := ofSeries (ofLevels s targets levels)
    m.sizes.zip m.rows =
      m.sizes.map fun target => (target, m.times.map fun time =>
        decide (PresentAt s levels target time)) := by
  intro m
  change _ = (List.map _ _).map _
  rw [zip_rows, List.map_map]
  refine List.map_congr_left fun e he => ?_
  obtain ⟨target, -, rfl⟩ := List.mem_map.1 ((perm_entries_ofLevels htargets).mem_iff.1 he)
  simp only [rowOf, hasPresence_sightings, m, Function.comp_apply]

end PresenceMatrix

end TwoVenues

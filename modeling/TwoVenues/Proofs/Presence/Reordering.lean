import TwoVenues.Presence.Bands
import TwoVenues.Presence.Report
import TwoVenues.Proofs.Presence.Sightings

/-!
# Books in another order lead to the same report

A report is made of doubles that are added up one after the other, along the rows of the matrix and
over the members of a group, so it is the same to the last bit only if these stand in one order. They
do, because the sightings do: those of one size are grouped by their times, which come out ascending,
and whether one of several levels at a time rests there is a question without an order. The sizes
come out ascending as well.

* `PresenceSeries.sightings_perm`, `PresenceSeries.ofLevels_perm` : the same sightings;
* `PresenceReport.ofLevels_order_irrelevant` : the same report.
-/

namespace TwoVenues

variable {s : PresenceSettings} {targets targets' : List Size} {levels levels' : List BookLevel}

namespace PresenceSeries

theorem sightings_perm (h : levels.Perm levels') (target : Size) :
    sightings s levels target = sightings s levels' target := by
  have hmatching := h.filter fun l => s.isMatch l.size target.toFloat
  simp only [sightings, groupsBy, List.map_map]
  rw [sortedKeys_perm (hmatching.map (·.time))]
  apply List.map_congr_left
  intro time _
  simp only [Function.comp_apply, Sighting.mk.injEq, true_and]
  exact (hmatching.filter _).any_eq

theorem ofLevels_perm (htargets : (targets.map (·.valueKey)).Nodup) (ht : targets.Perm targets')
    (hl : levels.Perm levels') : ofLevels s targets levels = ofLevels s targets' levels' := by
  have hseen : sightings s levels = sightings s levels' := by
    funext target
    exact sightings_perm hl target
  unfold ofLevels
  rw [hseen]
  refine SizeMap.ofList_perm ?_ (ht.map _)
  rw [List.map_map]
  exact htargets

end PresenceSeries

/-- **The order of sizes and levels does not show.** If no two of the sizes that are followed are
equal, they and the levels of the book may be given in any order: the report is the same, with all
its tables and groups, and so are the bands of its sizes. -/
theorem PresenceReport.ofLevels_order_irrelevant (s : PresenceSettings)
    (htargets : (targets.map (·.valueKey)).Nodup) (ht : targets.Perm targets')
    (hl : levels.Perm levels') :
    PresenceReport.ofLevels s targets levels = PresenceReport.ofLevels s targets' levels' ∧
    Band.ofStats s (PresenceReport.ofLevels s targets levels).stats =
      Band.ofStats s (PresenceReport.ofLevels s targets' levels').stats := by
  have hreport : PresenceReport.ofLevels s targets levels =
      PresenceReport.ofLevels s targets' levels' := by
    unfold ofLevels
    rw [PresenceSeries.ofLevels_perm htargets ht hl]
  exact ⟨hreport, by rw [hreport]⟩

/-- At the time 0 the size 10 is matched by a level that rests there and by one that does not. -/
theorem PresenceReport.ofLevels_order_irrelevant_of_mixed :
    let targets : List Size := [.ofFloat 25.0, .ofFloat 10.0]
    let levels : List BookLevel :=
      [⟨5000, 25.0, 1.0⟩, ⟨0, 10.0, 0.0⟩, ⟨0, 9.97, 2.5⟩, ⟨0, 24.95, 0.0⟩]
    (targets.map (·.valueKey)).Nodup ∧
      (ofLevels {} targets levels).stats.map (·.presentCount) = [1, 1] ∧
      ofLevels {} targets levels = ofLevels {} targets.reverse levels.reverse ∧
      Band.ofStats {} (ofLevels {} targets levels).stats =
        Band.ofStats {} (ofLevels {} targets.reverse levels.reverse).stats := by
  intro targets levels
  have htargets : (targets.map (·.valueKey)).Nodup := by decide +kernel
  exact ⟨htargets, by decide +kernel, ofLevels_order_irrelevant {} htargets
    (List.reverse_perm targets).symm (List.reverse_perm levels).symm⟩

end TwoVenues

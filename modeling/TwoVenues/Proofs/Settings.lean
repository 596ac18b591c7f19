import TwoVenues.Settings.Basic

/-!
# Settings without fault

* `isWithin_iff` : lying between two bounds, as two comparisons;
* `CorrelationSettings.fault?_eq_none_iff` : what the checks of the correlation admit;
* `Settings.fault?_correlation` : settings without fault have none in the correlation.
-/

namespace TwoVenues

theorem isWithin_iff {low high x : Float} : isWithin low high x = true ↔ low ≤ x ∧ x ≤ high := by
  rw [isWithin, Bool.and_eq_true, decide_eq_true_iff, decide_eq_true_iff]

theorem CorrelationSettings.fault?_eq_none_iff {s : CorrelationSettings} :
    s.fault? = none ↔ 2 ≤ s.minSamples ∧ 3 ≤ s.minOverlap ∧ 0 < s.lagDivisor ∧
      (0.0 ≤ s.significanceLevel ∧ s.significanceLevel ≤ 1.0) ∧ 3 ≤ s.rollingWindow := by
  rw [← isWithin_iff]
  unfold fault?
  by_cases hsamples : s.minSamples < 2
  · rw [if_pos hsamples]
    exact ⟨fun h => (by cases h), fun h => by omega⟩
  rw [if_neg hsamples]
  by_cases hoverlap : s.minOverlap < 3
  · rw [if_pos hoverlap]
    exact ⟨fun h => (by cases h), fun h => by omega⟩
  rw [if_neg hoverlap]
  by_cases hdivisor : s.lagDivisor = 0
  · rw [if_pos hdivisor]
    exact ⟨fun h => (by cases h), fun h => by omega⟩
  rw [if_neg hdivisor]
  by_cases hlevel : isWithin 0.0 1.0 s.significanceLevel = true
  · rw [hlevel, Bool.not_true, if_neg Bool.false_ne_true]
    by_cases hwindow : s.rollingWindow < 3
    · rw [if_pos hwindow]
      exact ⟨fun h => (by cases h), fun h => by omega⟩
    · rw [if_neg hwindow]
      exact ⟨fun _ => ⟨by omega, by omega, by omega, rfl, by omega⟩, fun _ => rfl⟩
  · rw [if_pos (by rw [Bool.eq_false_iff.2 hlevel, Bool.not_false])]
    exact ⟨fun h => (by cases h), fun h => absurd h.2.2.2.1 hlevel⟩

theorem Settings.fault?_correlation {s : Settings} (h : s.fault? = none) :
    s.correlation.fault? = none := by
  simp only [fault?, Option.orElse_eq_orElse, Option.orElse_eq_or, Option.or_eq_none_iff] at h
  exact h.2.1

end TwoVenues

import TwoVenues.Archive.Results
import TwoVenues.Proofs.Archive.Fields

/-!
# Results that are written and read again

What is read from the written form of an observation, a comparison, a summary and a run: the record
itself if all its plain doubles are finite (`IsFinite`), and nothing otherwise. That whole numbers
are within the range of their fields, and that an optional double is finite where the others are,
is what a record must have in common with those that a run makes (`Fits`).
-/

namespace TwoVenues

open Json (ReadsBack IsInt64 slots?_object optional?_ofFloat filter_isFinite_eq_self)

namespace Observation

/-- The time is within its range, and the optional doubles are finite if the converted value is. -/
structure Fits (o : Observation) : Prop where
  time : IsInt64 o.time
  referencePrice : o.valueB.isFinite → ∀ p ∈ o.referencePrice, p.isFinite
  nativeB : o.valueB.isFinite → ∀ v ∈ o.nativeB, v.isFinite

def IsFinite (o : Observation) : Prop := o.valueA.isFinite ∧ o.valueB.isFinite

instance (o : Observation) : Decidable o.IsFinite :=
  inferInstanceAs (Decidable (o.valueA.isFinite ∧ o.valueB.isFinite))

theorem readsBack : ReadsBack toJson ofJson? Fits IsFinite := by
  intro o ho p
  rw [ofJson?, toJson, slots?_object, Option.bind_eq_bind, Option.bind_some]
  · simp only [List.map_cons, List.map_nil, ReadsBack.int64.required? ho.time,
      ReadsBack.text.required? trivial, ReadsBack.float.required? trivial, optional?_ofFloat, pure,
      Option.some.injEq, true_and]
    rw [IsFinite, and_assoc]
    refine and_congr_right fun _ => and_congr_right fun hvalueB => ?_
    rw [filter_isFinite_eq_self (ho.referencePrice hvalueB),
      filter_isFinite_eq_self (ho.nativeB hvalueB)]
  · rfl
  · decide

end Observation

namespace Comparison

/-- The number of observations and the lag are within their range. -/
structure Fits (c : Comparison) : Prop where
  n : c.n < UInt64.size
  bestLag : IsInt64 c.bestLag

def IsFinite (c : Comparison) : Prop :=
  ∀ x ∈ [c.correlation, c.pValue, c.meanDiff, c.stdDiff, c.meanPctDiff, c.bestLagCorrelation,
    c.bestLagPValue, c.meanA, c.meanB, c.stdA, c.stdB], x.isFinite

instance (c : Comparison) : Decidable c.IsFinite :=
  inferInstanceAs (Decidable (∀ x ∈ [c.correlation, c.pValue, c.meanDiff, c.stdDiff, c.meanPctDiff,
    c.bestLagCorrelation, c.bestLagPValue, c.meanA, c.meanB, c.stdA, c.stdB], x.isFinite))

theorem readsBack : ReadsBack toJson ofJson? Fits IsFinite := by
  intro c hc d
  rw [ofJson?, toJson, slots?_object, Option.bind_eq_bind, Option.bind_some]
  · -- Top down, as the rest of the record stands under each field that is read.
    simp only [List.map_cons, List.map_nil,
      ↓ReadsBack.count.required? hc.n, ↓ReadsBack.int64.required? hc.bestLag,
      ↓ReadsBack.text.required? trivial, ↓ReadsBack.float.required? trivial, pure,
      Option.some.injEq, true_and]
    simp only [IsFinite, List.forall_mem_cons, List.not_mem_nil, false_implies, implies_true,
      and_true, and_assoc]
  · rfl
  · decide

end Comparison

namespace Summary

/-- The counts are within their range. -/
structure Fits (s : Summary) : Prop where
  instruments : s.instruments < UInt64.size
  above90 : s.above90 < UInt64.size
  above95 : s.above95 < UInt64.size

def IsFinite (s : Summary) : Prop :=
  s.avgCorrelation.isFinite ∧ s.avgAbsMeanDiff.isFinite ∧ s.avgAbsPctDiff.isFinite

instance (s : Summary) : Decidable s.IsFinite :=
  inferInstanceAs (Decidable
    (s.avgCorrelation.isFinite ∧ s.avgAbsMeanDiff.isFinite ∧ s.avgAbsPctDiff.isFinite))

theorem readsBack : ReadsBack toJson ofJson? Fits IsFinite := by
  intro s hs t
  rw [ofJson?, toJson, slots?_object, Option.bind_eq_bind, Option.bind_some]
  · simp only [List.map_cons, List.map_nil,
      ReadsBack.count.required? hs.instruments, ReadsBack.count.required? hs.above90,
      ReadsBack.count.required? hs.above95, ReadsBack.float.required? trivial, pure,
      Option.some.injEq, true_and]
    rw [IsFinite, and_assoc, and_assoc]
  · rfl
  · decide

end Summary

namespace Run

/-- All parts of the run fit. -/
structure Fits (r : Run) : Prop where
  observations : ∀ o ∈ r.observations, o.Fits
  results : ∀ c ∈ r.results, c.Fits
  summary : r.summary.Fits

def IsFinite (r : Run) : Prop :=
  (∀ o ∈ r.observations, o.IsFinite) ∧ (∀ c ∈ r.results, c.IsFinite) ∧ r.summary.IsFinite

instance (r : Run) : Decidable r.IsFinite :=
  inferInstanceAs (Decidable ((∀ o ∈ r.observations, o.IsFinite) ∧ (∀ c ∈ r.results, c.IsFinite) ∧
    r.summary.IsFinite))

theorem readsBack : ReadsBack toJson ofJson? Fits IsFinite := by
  intro r hr t
  rw [ofJson?, toJson, slots?_object, Option.bind_eq_bind, Option.bind_some]
  · simp only [List.map_cons, List.map_nil,
      Observation.readsBack.ofList.required? hr.observations,
      Comparison.readsBack.ofList.required? hr.results, Summary.readsBack.required? hr.summary, pure,
      Option.some.injEq]
    rw [IsFinite, and_assoc, and_assoc]
  · rfl
  · decide

end Run

end TwoVenues

import TwoVenues.Archive.Presence
import TwoVenues.Proofs.Archive.Fields

/-!
# Presence reports that are written and read again

What is read from the written form of the rows of a presence report and of the whole report: the
record itself if all its sizes and all its numbers are finite (`IsFinite`), and nothing otherwise.
Counts must be within the range of their fields (`Fits`).
-/

namespace TwoVenues

open Json (ReadsBack slots?_object)

theorem Size.readsBack :
    ReadsBack toJson ofJson? (fun _ => True) fun size => size.toFloat.isFinite := by
  intro size _ other
  change (Json.toFloat? (.ofFloat size.toFloat)).map .ofFloat = some other ↔ _
  rw [Option.map_eq_some_iff]
  constructor
  · rintro ⟨x, hread, rfl⟩
    obtain ⟨hfinite, rfl⟩ := (ReadsBack.float _ trivial x).1 hread
    cases size with
    | ofFloat x => exact ⟨hfinite, rfl⟩
    | negativeNan => cases hfinite
  · rintro ⟨hfinite, rfl⟩
    cases size with
    | ofFloat x => exact ⟨x, (ReadsBack.float x trivial x).2 ⟨hfinite, rfl⟩, rfl⟩
    | negativeNan => cases hfinite

/-! ## Rows -/

namespace SizeStats

/-- The counts are within their range. -/
structure Fits (s : SizeStats) : Prop where
  present : s.presentCount < UInt64.size
  total : s.totalCount < UInt64.size

def IsFinite (s : SizeStats) : Prop := s.size.toFloat.isFinite ∧ s.presenceFraction.isFinite

instance (s : SizeStats) : Decidable s.IsFinite :=
  inferInstanceAs (Decidable (s.size.toFloat.isFinite ∧ s.presenceFraction.isFinite))

theorem readsBack : ReadsBack toJson ofJson? Fits IsFinite := by
  intro s hs t
  rw [ofJson?, toJson, slots?_object, Option.bind_eq_bind, Option.bind_some]
  · simp only [List.map_cons, List.map_nil, Size.readsBack.required? trivial,
      ReadsBack.float.required? trivial, ReadsBack.count.required? hs.present,
      ReadsBack.count.required? hs.total, pure, Option.some.injEq, true_and]
    rw [IsFinite, and_assoc]
  · rfl
  · decide

end SizeStats

namespace SizeCorrelation

def IsFinite (c : SizeCorrelation) : Prop :=
  c.size1.toFloat.isFinite ∧ c.size2.toFloat.isFinite ∧ c.correlation.isFinite ∧ c.pValue.isFinite

instance (c : SizeCorrelation) : Decidable c.IsFinite :=
  inferInstanceAs (Decidable (c.size1.toFloat.isFinite ∧ c.size2.toFloat.isFinite ∧
    c.correlation.isFinite ∧ c.pValue.isFinite))

theorem readsBack : ReadsBack toJson ofJson? (fun _ => True) IsFinite := by
  intro c _ d
  rw [ofJson?, toJson, slots?_object, Option.bind_eq_bind, Option.bind_some]
  · simp only [List.map_cons, List.map_nil, Size.readsBack.required? trivial,
      ReadsBack.float.required? trivial, pure, Option.some.injEq]
    rw [IsFinite, and_assoc, and_assoc, and_assoc]
  · rfl
  · decide

end SizeCorrelation

namespace CoOccurrence

/-- The counts are within their range. -/
structure Fits (c : CoOccurrence) : Prop where
  both : c.bothPresent < UInt64.size
  either : c.eitherPresent < UInt64.size

def IsFinite (c : CoOccurrence) : Prop :=
  c.size1.toFloat.isFinite ∧ c.size2.toFloat.isFinite ∧ c.rate.isFinite

instance (c : CoOccurrence) : Decidable c.IsFinite :=
  inferInstanceAs (Decidable
    (c.size1.toFloat.isFinite ∧ c.size2.toFloat.isFinite ∧ c.rate.isFinite))

theorem readsBack : ReadsBack toJson ofJson? Fits IsFinite := by
  intro c hc d
  rw [ofJson?, toJson, slots?_object, Option.bind_eq_bind, Option.bind_some]
  · simp only [List.map_cons, List.map_nil, Size.readsBack.required? trivial,
      ReadsBack.float.required? trivial, ReadsBack.count.required? hc.both,
      ReadsBack.count.required? hc.either, pure, Option.some.injEq, true_and]
    rw [IsFinite, and_assoc, and_assoc]
  · rfl
  · decide

end CoOccurrence

namespace SizeGroup

def IsFinite (g : SizeGroup) : Prop :=
  (∀ size ∈ g.sizes, size.toFloat.isFinite) ∧ g.avgPresenceFraction.isFinite

instance (g : SizeGroup) : Decidable g.IsFinite :=
  inferInstanceAs (Decidable
    ((∀ size ∈ g.sizes, size.toFloat.isFinite) ∧ g.avgPresenceFraction.isFinite))

theorem readsBack : ReadsBack toJson ofJson? (fun _ => True) IsFinite := by
  intro g _ h
  rw [ofJson?, toJson, slots?_object, Option.bind_eq_bind, Option.bind_some]
  · simp only [List.map_cons, List.map_nil,
      Size.readsBack.ofList.required? fun _ _ => trivial, ReadsBack.float.required? trivial, pure,
      Option.some.injEq]
    rw [IsFinite, and_assoc]
  · rfl
  · decide

end SizeGroup

/-! ## Reports -/

namespace PresenceReport

/-- All rows of the report fit. -/
structure Fits (r : PresenceReport) : Prop where
  stats : ∀ s ∈ r.stats, s.Fits
  coOccurrences : ∀ c ∈ r.coOccurrences, c.Fits

def IsFinite (r : PresenceReport) : Prop :=
  (∀ s ∈ r.stats, s.IsFinite) ∧ (∀ c ∈ r.correlations, c.IsFinite) ∧
    (∀ c ∈ r.coOccurrences, c.IsFinite) ∧ ∀ g ∈ r.groups, g.IsFinite

instance (r : PresenceReport) : Decidable r.IsFinite :=
  inferInstanceAs (Decidable ((∀ s ∈ r.stats, s.IsFinite) ∧ (∀ c ∈ r.correlations, c.IsFinite) ∧
    (∀ c ∈ r.coOccurrences, c.IsFinite) ∧ ∀ g ∈ r.groups, g.IsFinite))

theorem readsBack : ReadsBack toJson ofJson? Fits IsFinite := by
  intro r hr t
  rw [ofJson?, toJson, slots?_object, Option.bind_eq_bind, Option.bind_some]
  · simp only [List.map_cons, List.map_nil,
      SizeStats.readsBack.ofList.required? hr.stats,
      SizeCorrelation.readsBack.ofList.required? fun _ _ => trivial,
      CoOccurrence.readsBack.ofList.required? hr.coOccurrences,
      SizeGroup.readsBack.ofList.required? fun _ _ => trivial, pure, Option.some.injEq]
    rw [IsFinite, and_assoc, and_assoc, and_assoc]
  · rfl
  · decide

end PresenceReport

end TwoVenues

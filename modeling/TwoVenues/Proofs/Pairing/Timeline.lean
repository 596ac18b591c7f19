import TwoVenues.Proofs.Comparison.Batch

/-!
# The observations of one instrument in order of time

Observations of one time stay as they stand, so that there is one order of time and not only some
order that agrees with the times.

* `Observation.IsTimeline levels rows` : `levels` are the observations `rows` in order of time;
* `Observation.IsTimeline.unique`, `Observation.isTimeline_ofInstrument` : there is one such list,
  and it is the one that an instrument is compared by;
* `Observation.length_ofInstrument` : it has all observations of the instrument.
-/

namespace TwoVenues.Observation
variable {levels levels' rows : List Observation}

/-- `levels` are the observations `rows` in order of time, those of one time as they stand. -/
structure IsTimeline (levels rows : List Observation) : Prop where
  perm : levels.Perm rows
  ascending : levels.Pairwise (·.time ≤ ·.time)
  ties : ∀ time, levels.filter (·.time = time) = rows.filter (·.time = time)

theorem isTimeline_byTime (rows : List Observation) : IsTimeline (byTime rows) rows where
  perm := perm_sortBy _ rows
  ascending := pairwise_key_sortBy (·.time) rows
  ties := filter_key_sortBy (·.time) rows

theorem isTimeline_ofInstrument (instrument : String) (rows : List Observation) :
    IsTimeline (ofInstrument instrument rows) (rows.filter (·.instrument = instrument)) :=
  isTimeline_byTime _

theorem IsTimeline.unique (h : IsTimeline levels rows) (h' : IsTimeline levels' rows) :
    levels = levels' :=
  eq_of_filter_key (·.time) h.ascending h'.ascending fun time =>
    (h.ties time).trans (h'.ties time).symm

theorem length_ofInstrument (instrument : String) (rows : List Observation) :
    (ofInstrument instrument rows).length = rows.countP (·.instrument = instrument) := by
  rw [(isTimeline_ofInstrument instrument rows).perm.length_eq, List.countP_eq_length_filter]

end TwoVenues.Observation

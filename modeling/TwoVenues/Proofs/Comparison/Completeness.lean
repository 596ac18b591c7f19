import TwoVenues.Proofs.Pairing.Timeline

/-!
# A batch compares each instrument by itself

An instrument is compared if it passes the filter and has enough observations. What it lacks is no
fault of the batch, and what the other instruments have is no part of its comparison.

* `Comparison.length_of_ofGroup`, `Comparison.exists_ofGroup` : the comparison of one instrument
  exists exactly if there are enough observations, and counts all of them;
* `Comparison.IsBatch` : one comparison for each such instrument, in ascending order, made of the
  observations of that instrument in order of time;
* `Comparison.filter_ofObservations`, `Comparison.ofObservations_congr` : of a batch, the part of
  one instrument;
* `Comparison.ofObservations_isBatch` : batches of observations.
-/

namespace TwoVenues.Comparison
variable {s : CorrelationSettings} {filter : Option String} {rows rows' group : List Observation}
  {instrument : String} {c : Comparison}

theorem length_of_ofGroup (hc : ofGroup s instrument group = .ok c) :
    s.minSamples ≤ group.length ∧ c.n = group.length := by
  obtain ⟨hn, rfl⟩ := ofSeries_eq_ok_iff.1 hc
  rw [List.length_map, List.length_map, Nat.min_self] at hn
  exact ⟨hn, by simp [ofEqualSeries]⟩

theorem exists_ofGroup (s : CorrelationSettings) (instrument : String)
    (hn : s.minSamples ≤ group.length) : ∃ c, ofGroup s instrument group = .ok c :=
  exists_ofSeries s instrument (by simpa using hn)

/-! ## One comparison for each instrument -/

/-- `batch` has one comparison for each instrument that passes the filter and has enough
observations, and it is that of the observations of the instrument in order of time. -/
structure IsBatch (s : CorrelationSettings) (filter : Option String) (rows : List Observation)
    (batch : List Comparison) : Prop where
  ascending : batch.Pairwise (·.instrument < ·.instrument)
  complete : ∀ instrument, (∃ c ∈ batch, c.instrument = instrument) ↔
    (∀ name ∈ filter, name = instrument) ∧ s.minSamples ≤ rows.countP (·.instrument = instrument)
  isolated : ∀ c ∈ batch, c.n = rows.countP (·.instrument = c.instrument) ∧
    ∃ levels, Observation.IsTimeline levels (rows.filter (·.instrument = c.instrument)) ∧
      ofSeries s c.instrument (levels.map (·.valueA)) (levels.map (·.valueB)) = .ok c

theorem exists_mem_ofObservations_iff (hs : s.fault? = none) :
    (∃ c ∈ ofObservations s filter rows, c.instrument = instrument) ↔
      (∀ name ∈ filter, name = instrument) ∧
        s.minSamples ≤ rows.countP (·.instrument = instrument) := by
  have hsamples : 2 ≤ s.minSamples := (CorrelationSettings.fault?_eq_none_iff.1 hs).1
  have hfilter : filter.all (· = instrument) = true ↔ ∀ name ∈ filter, name = instrument := by
    simp only [Option.all_eq_true, Option.mem_def, decide_eq_true_iff]
  rw [← Observation.length_ofInstrument, ← hfilter]
  constructor
  · rintro ⟨c, hc, rfl⟩
    obtain ⟨hall, -, hgroup⟩ := mem_ofObservations.1 hc
    exact ⟨hall, (length_of_ofGroup hgroup).1⟩
  · rintro ⟨hall, hn⟩
    obtain ⟨c, hc⟩ := exists_ofGroup s instrument hn
    obtain rfl := instrument_of_ofGroup hc
    -- settings without fault ask for observations, so that there is a group
    have hne : Observation.ofInstrument c.instrument rows ≠ [] :=
      List.ne_nil_of_length_pos (by omega)
    exact ⟨c, mem_ofObservations.2 ⟨hall, hne, hc⟩, rfl⟩

/-! ## The part of one instrument -/

theorem filter_ofObservations (s : CorrelationSettings) (filter : Option String)
    (rows : List Observation) (instrument : String) :
    (ofObservations s filter rows).filter (·.instrument = instrument) =
      (ofObservations s (some instrument) rows).filter fun c => filter.all (· = c.instrument) := by
  rw [ofObservations_filter s filter, ofObservations_filter s (some instrument), List.filter_filter,
    List.filter_filter]
  refine List.filter_congr fun c _ => ?_
  rw [Bool.and_comm, Option.all_some, decide_eq_decide.2 eq_comm]

theorem ofObservations_congr (filter : Option String)
    (h : rows.filter (·.instrument = instrument) = rows'.filter (·.instrument = instrument)) :
    (ofObservations s filter rows).filter (·.instrument = instrument) =
      (ofObservations s filter rows').filter (·.instrument = instrument) := by
  have hpassing : passing (some instrument) rows = passing (some instrument) rows' := by
    simpa only [passing, Option.all_some, eq_comm] using h
  rw [filter_ofObservations, filter_ofObservations, ofObservations, ofObservations, groups, groups,
    hpassing]

/-- **A batch is complete, and its instruments are isolated from each other**: it compares the
instruments that pass the filter and have enough observations, each by its own observations in order
of time. Observations of other instruments may be added, taken away or replaced. -/
theorem ofObservations_isBatch (hs : s.fault? = none) (filter : Option String)
    (rows : List Observation) :
    IsBatch s filter rows (ofObservations s filter rows) ∧
    ∀ rows' instrument,
      rows.filter (·.instrument = instrument) = rows'.filter (·.instrument = instrument) →
      (ofObservations s filter rows).filter (·.instrument = instrument) =
        (ofObservations s filter rows').filter (·.instrument = instrument) := by
  refine ⟨⟨?_, fun instrument => exists_mem_ofObservations_iff hs, ?_⟩, ?_⟩
  · exact (pairwise_instrument s filter rows).imp compareOfLessAndEq_eq_lt.1
  · intro c hc
    obtain ⟨-, -, hgroup⟩ := mem_ofObservations.1 hc
    rw [← Observation.length_ofInstrument]
    exact ⟨(length_of_ofGroup hgroup).2, _, Observation.isTimeline_ofInstrument _ _, hgroup⟩
  · intro rows' instrument h
    exact ofObservations_congr filter h

/-- Two observations of one instrument, the later one first, and between them one of another, which
has too few. -/
theorem ofObservations_isBatch_around_short :
    let s : CorrelationSettings := { minSamples := 2 }
    let row := fun time instrument a b =>
      (⟨time, instrument, a, b, instrument, instrument, none, none⟩ : Observation)
    let rows := [row 20 "X" 3.0 1.0, row 10 "Y" 5.0 5.0, row 0 "X" 2.0 4.0]
    s.fault? = none ∧
      (∃ c ∈ ofObservations s none rows, c.instrument = "X" ∧ c.n = 2 ∧
        ofSeries s "X" [2.0, 3.0] [4.0, 1.0] = .ok c) ∧
      ¬∃ c ∈ ofObservations s none rows, c.instrument = "Y" := by
  intro s row rows
  have hs : s.fault? = none := by decide +kernel
  obtain ⟨hbatch, -⟩ := ofObservations_isBatch hs none rows
  refine ⟨hs, ?_, ?_⟩
  · obtain ⟨c, hc, hX⟩ := (hbatch.complete "X").2 ⟨by simp, by decide⟩
    obtain ⟨hn, levels, hlevels, hseries⟩ := hbatch.isolated c hc
    rw [hX] at hn hlevels hseries
    obtain rfl := hlevels.unique (Observation.isTimeline_ofInstrument "X" rows)
    exact ⟨c, hc, hX, hn, hseries⟩
  · intro hY
    exact absurd ((hbatch.complete "Y").1 hY).2 (by decide)

end TwoVenues.Comparison

import TwoVenues.Comparison.Summary
import TwoVenues.Proofs.Comparison.Lead
import TwoVenues.Proofs.Grouping
import TwoVenues.Proofs.Outcome
import TwoVenues.Proofs.Sorting

/-!
# The comparisons of a batch

* `Observation.ofInstrument` : the observations that one instrument is compared by;
* `Comparison.filter_passing` : a filter keeps all observations of its instrument, and no others;
* `Comparison.mem_groups` : the groups are the instruments that pass the filter;
* `Comparison.mem_ofObservations` : a comparison of the batch is one of its instrument alone;
* `Comparison.ofObservations_filter`, `Comparison.filter_rank` : leaving instruments out before the
  comparison or after it, and before the ranking or after it;
* `Comparison.pairwise_instrument`, `Comparison.nodup_instrument` : instruments are ascending, hence
  compared once.
-/

namespace TwoVenues

/-- The observations of an instrument in order of time. -/
def Observation.ofInstrument (instrument : String) (rows : List Observation) : List Observation :=
  byTime (rows.filter (·.instrument = instrument))

theorem Observation.mem_ofInstrument {o : Observation} {instrument : String}
    {rows : List Observation} :
    o ∈ ofInstrument instrument rows ↔ o ∈ rows ∧ o.instrument = instrument := by
  rw [ofInstrument, byTime, mem_sortBy, List.mem_filter, decide_eq_true_iff]

namespace Comparison
variable {s : CorrelationSettings} {filter : Option String} {rows group : List Observation}
  {instrument : String} {c : Comparison}

theorem filter_passing (filter : Option String) (rows : List Observation) (instrument : String) :
    (passing filter rows).filter (·.instrument = instrument) =
      if filter.all (· = instrument) then rows.filter (·.instrument = instrument) else [] := by
  rw [passing, List.filter_filter]
  by_cases hall : filter.all (· = instrument)
  · rw [if_pos hall]
    refine List.filter_congr fun o _ => ?_
    by_cases ho : o.instrument = instrument
    · simp [ho, hall]
    · simp [ho]
  · rw [if_neg hall, List.filter_eq_nil_iff]
    intro o _ ho
    obtain ⟨rfl, hpass⟩ : o.instrument = instrument ∧ filter.all (· = o.instrument) := by
      simpa using ho
    exact hall hpass

theorem mem_groups : (instrument, group) ∈ groups filter rows ↔
    filter.all (· = instrument) ∧ group ≠ [] ∧
      group = Observation.ofInstrument instrument rows := by
  have hmem : (instrument, group) ∈ groups filter rows ↔
      ∃ own, (instrument, own) ∈ groupsBy (·.instrument) (passing filter rows) ∧
        Observation.byTime own = group := by
    simp [groups]
  have hnil : ∀ own : List Observation, Observation.byTime own = [] ↔ own = [] := by
    intro own
    rw [Observation.byTime, ← List.length_eq_zero_iff, length_sortBy, List.length_eq_zero_iff]
  rw [hmem]
  constructor
  · rintro ⟨own, hown, rfl⟩
    obtain ⟨rfl, hne⟩ := mem_groupsBy.1 hown
    rw [filter_passing] at hne ⊢
    by_cases hall : filter.all (· = instrument)
    · rw [if_pos hall] at hne ⊢
      exact ⟨hall, fun h => hne ((hnil _).1 h), rfl⟩
    · rw [if_neg hall] at hne
      exact absurd rfl hne
  · rintro ⟨hall, hne, rfl⟩
    refine ⟨rows.filter (·.instrument = instrument), mem_groupsBy.2 ⟨?_, ?_⟩, rfl⟩
    · rw [filter_passing, if_pos hall]
    · intro h
      exact hne ((hnil _).2 h)

theorem instrument_of_ofGroup (h : ofGroup s instrument group = .ok c) :
    c.instrument = instrument := by
  obtain ⟨-, rfl⟩ := ofSeries_eq_ok_iff.1 h
  rfl

/-- Other instruments have no part in a comparison. -/
theorem mem_ofObservations : c ∈ ofObservations s filter rows ↔
    filter.all (· = c.instrument) ∧ Observation.ofInstrument c.instrument rows ≠ [] ∧
      ofGroup s c.instrument (Observation.ofInstrument c.instrument rows) = .ok c := by
  have hmem : c ∈ ofObservations s filter rows ↔
      ∃ instrument group, (instrument, group) ∈ groups filter rows ∧
        ofGroup s instrument group = .ok c := by
    simp [ofObservations, toOption_eq_some_iff]
  rw [hmem]
  constructor
  · rintro ⟨instrument, group, hgroup, hc⟩
    obtain rfl := instrument_of_ofGroup hc
    obtain ⟨hall, hne, rfl⟩ := mem_groups.1 hgroup
    exact ⟨hall, hne, hc⟩
  · rintro ⟨hall, hne, hc⟩
    exact ⟨_, _, mem_groups.2 ⟨hall, hne, rfl⟩, hc⟩

/-! ## Leaving instruments out -/

theorem groups_filter (filter : Option String) (rows : List Observation) :
    groups filter rows = (groups none rows).filter fun group => filter.all (· = group.1) := by
  have hnone : passing none rows = rows := List.filter_eq_self.2 fun _ _ => rfl
  have hpassing : groupsBy (·.instrument) (passing filter rows) =
      (groupsBy (·.instrument) rows).filter fun group => filter.all (· = group.1) :=
    groupsBy_filter (·.instrument) (fun instrument => filter.all (· = instrument)) rows
  rw [groups, groups, hnone, hpassing, List.filter_map]
  rfl

theorem ofObservations_filter (s : CorrelationSettings) (filter : Option String)
    (rows : List Observation) : ofObservations s filter rows =
      (ofObservations s none rows).filter fun c => filter.all (· = c.instrument) := by
  rw [ofObservations, ofObservations, groups_filter, List.filterMap_filter, List.filter_filterMap]
  refine List.filterMap_congr fun ⟨instrument, group⟩ _ => ?_
  change (if filter.all (· = instrument) then (ofGroup s instrument group).toOption else none) =
    (ofGroup s instrument group).toOption.filter fun c => filter.all (· = c.instrument)
  cases hc : ofGroup s instrument group with
  | error fault => simp [Except.toOption]
  | ok c => simp [Except.toOption, Option.filter, instrument_of_ofGroup hc]

theorem pairwise_instrument (s : CorrelationSettings) (filter : Option String)
    (rows : List Observation) : (ofObservations s filter rows).Pairwise fun c d =>
      compare c.instrument d.instrument = .lt := by
  have hkeys : (groups filter rows).map Prod.fst =
      sortedKeys ((passing filter rows).map (·.instrument)) := by
    rw [← map_fst_groupsBy, groups, List.map_map]
    rfl
  have hgroups : ((groups filter rows).map Prod.fst).Pairwise fun x y => compare x y = .lt := by
    rw [hkeys]
    exact pairwise_sortedKeys _
  refine (List.pairwise_map.1 hgroups).filterMap _ fun g h hgh c hc d hd => ?_
  rw [instrument_of_ofGroup (toOption_eq_some_iff.1 hc),
    instrument_of_ofGroup (toOption_eq_some_iff.1 hd)]
  exact hgh

/-- No instrument is compared twice. -/
theorem nodup_instrument (s : CorrelationSettings) (filter : Option String)
    (rows : List Observation) : ((ofObservations s filter rows).map (·.instrument)).Nodup := by
  refine List.pairwise_map.2 ((pairwise_instrument s filter rows).imp fun hlt heq => ?_)
  rw [heq, Std.ReflOrd.compare_self] at hlt
  cases hlt

/-- There are no more comparisons than observations. -/
theorem length_ofObservations_le (s : CorrelationSettings) (filter : Option String)
    (rows : List Observation) : (ofObservations s filter rows).length ≤ rows.length := by
  have hsubset : (ofObservations s filter rows).map (·.instrument) ⊆ rows.map (·.instrument) := by
    intro instrument hinstrument
    obtain ⟨c, hc, rfl⟩ := List.mem_map.1 hinstrument
    obtain ⟨-, hne, -⟩ := mem_ofObservations.1 hc
    obtain ⟨o, ho⟩ := List.exists_mem_of_ne_nil _ hne
    obtain ⟨ho, heq⟩ := Observation.mem_ofInstrument.1 ho
    exact List.mem_map.2 ⟨o, ho, heq⟩
  have hle := (List.subperm_of_subset (nodup_instrument s filter rows) hsubset).length_le
  rwa [List.length_map, List.length_map] at hle

/-! ## Ranking -/

theorem ranksBefore_trans (b c d : Comparison) (hbc : ranksBefore b c) (hcd : ranksBefore c d) :
    ranksBefore b d := by
  unfold ranksBefore at *
  by_cases hb : b.correlation.isNaN
  · rw [if_pos hb] at hbc ⊢
    rwa [if_pos hbc] at hcd
  · rw [if_neg hb] at hbc ⊢
    by_cases hc : c.correlation.isNaN
    · rw [if_pos hc] at hcd
      rw [hcd, Bool.true_or]
    · rw [if_neg hc] at hcd
      by_cases hd : d.correlation.isNaN
      · rw [hd, Bool.true_or]
      · simp only [hc, hd, Bool.false_or] at hbc hcd ⊢
        exact Double.totalLe_trans hcd hbc

theorem ranksBefore_total (c d : Comparison) : ranksBefore c d ∨ ranksBefore d c := by
  unfold ranksBefore
  by_cases hc : c.correlation.isNaN
  · by_cases hd : d.correlation.isNaN
    · exact .inl (by rw [if_pos hc, hd])
    · exact .inr (by rw [if_neg hd, hc, Bool.true_or])
  · by_cases hd : d.correlation.isNaN
    · exact .inl (by rw [if_neg hc, hd, Bool.true_or])
    · rw [if_neg hc, if_neg hd, Bool.or_eq_true, Bool.or_eq_true]
      exact (Double.totalLe_total d.correlation c.correlation).imp .inr .inr

theorem filter_rank (keep : Comparison → Bool) (rows : List Comparison) :
    (rank rows).filter keep = rank (rows.filter keep) :=
  filter_sortBy ranksBefore_trans ranksBefore_total rows

end Comparison

end TwoVenues

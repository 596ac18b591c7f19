import TwoVenues.Proofs.Pairing.Returns
import TwoVenues.Proofs.Pairing.Timeline

/-!
# Returns, place by place

In the observations of one instrument in order of time, each place but the first has an observation
just before it. The return at a place is the change between these two, whether or not there is a
return at the place before.

* `Returns.IsReturnAt levels k o` : `o` is the return at place `k`;
* `Returns.returnAt?`, `Returns.changes_eq` : the changes are the returns at all places;
* `Returns.IsReturns levels returns` : `returns` holds the return at each place that has one, in
  order of places, and nothing else;
* `Returns.isReturns_changes` : changes do;
* `Returns.pairwise_instrument_ofLevels` : instruments are ascending;
* `Returns.ofLevels_isReturns` : the returns of all instruments.
-/

namespace TwoVenues.Returns
variable {levels rows : List Observation} {k : Nat} {o : Observation}

/-! ## One place -/

/-- `o` is the later of two neighbours, of which place `k` has the later one, with the changes in
percent for values, and both changes are numbers. -/
def IsReturnAt (levels : List Observation) (k : Nat) (o : Observation) : Prop :=
  1 ≤ k ∧ ∃ before after, levels[k - 1]? = some before ∧ levels[k]? = some after ∧
    o = { after with
      valueA := (after.valueA - before.valueA) / before.valueA * 100.0
      valueB := (after.valueB - before.valueB) / before.valueB * 100.0 } ∧
    o.valueA.isNaN = false ∧ o.valueB.isNaN = false

def returnAt? (levels : List Observation) : Nat → Option Observation
  | 0 => none
  | k + 1 => do step? (← levels[k]?) (← levels[k + 1]?)

theorem returnAt?_eq_some_iff : returnAt? levels k = some o ↔ IsReturnAt levels k o := by
  cases k with
  | zero => simp [returnAt?, IsReturnAt]
  | succ k =>
    simp only [returnAt?, Option.bind_eq_bind, Option.bind_eq_some_iff, step?_eq_some_iff,
      IsReturnAt, Nat.add_sub_cancel]
    constructor
    · rintro ⟨before, hbefore, after, hafter, hdefined, rfl⟩
      exact ⟨Nat.succ_pos k, before, after, hbefore, hafter, rfl, hdefined⟩
    · rintro ⟨-, before, after, hbefore, hafter, rfl, hdefined⟩
      exact ⟨before, hbefore, after, hafter, hdefined, rfl⟩

theorem lt_length_of_isReturnAt (h : IsReturnAt levels k o) : k < levels.length := by
  obtain ⟨-, -, after, -, hafter, -⟩ := h
  exact (List.getElem?_eq_some_iff.1 hafter).1

/-! ## All places -/

theorem changes_eq (levels : List Observation) :
    changes levels = (List.range levels.length).filterMap (returnAt? levels) := by
  induction levels with
  | nil => rfl
  | cons before rest ih =>
    cases rest with
    | nil => rfl
    | cons after rest =>
      have hone : returnAt? (before :: after :: rest) (Nat.succ 0) = step? before after := rfl
      -- no return at the first place, neither with nor without the observation in front
      rw [List.length_cons, List.range_succ_eq_map, List.filterMap_cons_none rfl,
        List.filterMap_map] at ih
      rw [changes_cons_cons, ih, List.length_cons, List.length_cons, List.range_succ_eq_map,
        List.filterMap_cons_none rfl, List.range_succ_eq_map, List.map_cons, List.filterMap_cons,
        List.filterMap_map, List.filterMap_map, hone]
      cases step? before after <;> rfl

/-- `returns` holds the return at each place of `levels` that has one, in order of places, and
nothing else. -/
def IsReturns (levels returns : List Observation) : Prop :=
  ∃ places : List Nat, places.Pairwise (· < ·) ∧
    List.Forall₂ (IsReturnAt levels) places returns ∧
    ∀ k o, IsReturnAt levels k o → k ∈ places

theorem isReturns_changes (levels : List Observation) : IsReturns levels (changes levels) := by
  refine ⟨(List.range levels.length).filter fun k => (returnAt? levels k).isSome, ?_, ?_, ?_⟩
  · exact List.pairwise_lt_range.filter _
  · rw [changes_eq]
    exact (forall₂_filterMap (returnAt? levels) _).imp fun k o => returnAt?_eq_some_iff.1
  · intro k o h
    refine List.mem_filter.2 ⟨List.mem_range.2 (lt_length_of_isReturnAt h), ?_⟩
    rw [returnAt?_eq_some_iff.2 h]
    rfl

theorem length_changes_le (levels : List Observation) :
    (changes levels).length ≤ levels.length - 1 := by
  calc (changes levels).length
      ≤ (levels.zip levels.tail).length := List.length_filterMap_le _ _
    _ ≤ levels.tail.length := by simp [List.length_zip]
    _ = levels.length - 1 := List.length_tail

/-! ## All instruments -/

theorem instrument_of_mem_changes {instrument : String}
    (h : o ∈ changes (Observation.ofInstrument instrument rows)) : o.instrument = instrument := by
  obtain ⟨x, hx, hinstrument⟩ := exists_instrument_of_mem_changes h
  rw [← hinstrument, (Observation.mem_ofInstrument.1 hx).2]

theorem pairwise_instrument_ofLevels (rows : List Observation) :
    (ofLevels rows).Pairwise (·.instrument ≤ ·.instrument) := by
  rw [ofLevels_eq, List.pairwise_flatMap]
  constructor
  · intro instrument _
    refine List.pairwise_of_forall_mem_list fun x hx y hy => ?_
    simp only [instrument_of_mem_changes hx, instrument_of_mem_changes hy, Std.le_refl]
  · refine (pairwise_sortedKeys _).imp fun hlt x hx y hy => ?_
    rw [instrument_of_mem_changes hx, instrument_of_mem_changes hy]
    exact Std.le_of_lt (compareOfLessAndEq_eq_lt.1 hlt)

/-- **Returns are the changes between neighbours of one instrument.** Instruments are ascending. Of
each one the returns are those at the places of its observations in order of time, of which the
first has none. -/
theorem ofLevels_isReturns (rows : List Observation) :
    (ofLevels rows).Pairwise (·.instrument ≤ ·.instrument) ∧
    ∀ instrument, ∃ levels,
      Observation.IsTimeline levels (rows.filter (·.instrument = instrument)) ∧
      IsReturns levels ((ofLevels rows).filter (·.instrument = instrument)) ∧
      ((ofLevels rows).filter (·.instrument = instrument)).length ≤ levels.length - 1 := by
  refine ⟨pairwise_instrument_ofLevels rows, fun instrument => ?_⟩
  rw [filter_ofLevels]
  exact ⟨_, Observation.isTimeline_ofInstrument instrument rows, isReturns_changes _,
    length_changes_le _⟩

/-- A missing value leaves out its own return and the next one, which leads from it. -/
example :
    let row := fun time b => (⟨time, "X", 1.0, b, "X", "X", none, none⟩ : Observation)
    (ofLevels [row 40 8.0, row 0 1.0, row 10 2.0, row 20 Double.nan, row 30 4.0]).map
      (fun o => (o.time, o.valueB)) = [(10, 100.0), (40, 100.0)] := by decide +kernel

end TwoVenues.Returns

import TwoVenues.Pairing.Returns
import TwoVenues.Proofs.Comparison.Batch
import TwoVenues.Proofs.Double.Undefined

/-!
# Where returns come from

* `isNaN_change` : a change from or to not-a-number is not a number;
* `mem_changes`, `changes_cons_cons` : the changes between neighbours;
* `exists_of_mem_ofLevels` : a return is the change between two of the observations;
* `ofLevels_eq` : instrument by instrument, all returns;
* `filter_ofLevels` : the returns of an instrument are the changes between its own observations.
-/

namespace TwoVenues.Returns
variable {rows : List Observation} {o : Observation}

theorem isNaN_change {x y : Float} (h : x.isNaN ∨ y.isNaN) : (change x y).isNaN :=
  Double.isNaN_mul (Double.isNaN_div (Double.isNaN_sub h.symm))

theorem mem_changes : o ∈ changes rows ↔
    ∃ before after, (before, after) ∈ rows.zip rows.tail ∧ step? before after = some o := by
  simp [changes, List.mem_filterMap]

theorem step?_eq_some_iff {before after : Observation} : step? before after = some o ↔
    ((change before.valueA after.valueA).isNaN = false ∧
      (change before.valueB after.valueB).isNaN = false) ∧
    { after with
      valueA := change before.valueA after.valueA
      valueB := change before.valueB after.valueB } = o := by
  cases hA : (change before.valueA after.valueA).isNaN <;>
    cases hB : (change before.valueB after.valueB).isNaN <;> simp only [step?, hA, hB] <;> simp

theorem changes_cons_cons (before after : Observation) (rows : List Observation) :
    changes (before :: after :: rows) =
      (step? before after).toList ++ changes (after :: rows) := by
  simp only [changes, List.tail_cons, List.zip_cons_cons, List.filterMap_cons]
  cases step? before after <;> rfl

theorem exists_instrument_of_mem_changes (h : o ∈ changes rows) :
    ∃ x ∈ rows, x.instrument = o.instrument := by
  obtain ⟨before, after, hpair, hstep⟩ := mem_changes.1 h
  obtain ⟨-, rfl⟩ := step?_eq_some_iff.1 hstep
  exact ⟨after, List.mem_of_mem_tail (List.of_mem_zip hpair).2, rfl⟩

theorem exists_of_mem_ofLevels (h : o ∈ ofLevels rows) :
    ∃ before ∈ rows, ∃ after ∈ rows, step? before after = some o := by
  obtain ⟨⟨instrument, group⟩, hgroup, ho⟩ := List.mem_flatMap.1 h
  obtain ⟨rfl, -⟩ := mem_groupsBy.1 hgroup
  obtain ⟨before, after, hpair, hstep⟩ := mem_changes.1 ho
  have hrows : ∀ x ∈ Observation.byTime (rows.filter (·.instrument = instrument)), x ∈ rows :=
    fun x hx => (List.mem_filter.1 ((mem_sortBy _).1 hx)).1
  obtain ⟨hbefore, hafter⟩ := List.of_mem_zip hpair
  exact ⟨before, hrows _ hbefore, after, hrows _ (List.mem_of_mem_tail hafter), hstep⟩

/-- The returns of one instrument after those of another. -/
theorem ofLevels_eq (rows : List Observation) : ofLevels rows =
    (sortedKeys (rows.map (·.instrument))).flatMap fun instrument =>
      changes (Observation.ofInstrument instrument rows) := by
  rw [ofLevels, groupsBy, List.flatMap_map]
  rfl

theorem filter_ofLevels (rows : List Observation) (instrument : String) :
    (ofLevels rows).filter (·.instrument = instrument) =
      changes (Observation.ofInstrument instrument rows) := by
  refine filter_flatMap_groupsBy (f := fun group => changes (Observation.byTime group)) rfl ?_ rows
    instrument
  intro group o ho
  obtain ⟨x, hx, hinstrument⟩ := exists_instrument_of_mem_changes ho
  exact ⟨x, (mem_sortBy _).1 hx, hinstrument⟩

end TwoVenues.Returns

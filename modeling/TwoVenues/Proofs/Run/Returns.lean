import TwoVenues.Proofs.Pairing.Names
import TwoVenues.Proofs.Pairing.Returns
import TwoVenues.Proofs.Run.Missing

/-!
# Returns are changes between converted values

The only mark of a level without a reference price is that its value is not a number, and a change
from or to such a value is left out. So of an instrument the levels before the first price leave no
returns, and neither does the first level with a price, which has nothing to be a change from.

* `Observation.origin` : what a return keeps of the level that it leads to;
* `Returns.origin_changes_sublist` : changes lead to marked levels after the first of them;
* `Run.returns_are_converted` : the returns of a run.
-/

namespace TwoVenues

/-- All of an observation but its two values. -/
def Observation.origin (o : Observation) :
    (JoinKey × String × String) × Option Float × Option Float :=
  (o.label, o.referencePrice, o.nativeB)

/-! ## Converted levels -/

theorem Conversion.exists_of_mem_forward {reference : List PricePoint} {last : Option Float}
    {rows : List Observation} {o : Observation} (ho : o ∈ forward reference last rows) :
    ∃ price, ∃ row ∈ rows, applyPrice price row = o := by
  induction rows generalizing last with
  | nil => cases ho
  | cons row rows ih =>
    rcases List.mem_cons.1 ho with rfl | ho
    · exact ⟨_, row, List.mem_cons_self, rfl⟩
    · obtain ⟨price, row', hrow', hprice⟩ := ih ho
      exact ⟨price, row', List.mem_cons_of_mem _ hrow', hprice⟩

/-- Observations come in order of time, with a reference or without one. -/
theorem pairwise_time_align_some (quotesA quotesB : List Quote) (points : List PricePoint) :
    (align quotesA quotesB (some points)).Pairwise (·.time ≤ ·.time) := by
  have htimes : (align quotesA quotesB (some points)).map (·.time) =
      (align quotesA quotesB none).map (·.time) :=
    Conversion.map_forward (fun _ _ => rfl) points none _
  have hsorted : ((align quotesA quotesB none).map (·.time)).Pairwise (· ≤ ·) :=
    List.pairwise_map.2 (pairwise_time_align quotesA quotesB)
  rw [← htimes] at hsorted
  exact List.pairwise_map.1 hsorted

/-! ## Changes between levels with a price -/

namespace Returns
variable {rows : List Observation} {resolved : Observation → Bool}

/-- If all other levels have no value at venue B, a change joins two resolved levels. -/
theorem resolved_of_step? (resolved : Observation → Bool) {before after o : Observation}
    (hbefore : resolved before = false → before.valueB.isNaN)
    (hafter : resolved after = false → after.valueB.isNaN) (ho : step? before after = some o) :
    resolved before = true ∧ resolved after = true ∧ o.origin = after.origin := by
  obtain ⟨⟨-, hdefined⟩, rfl⟩ := step?_eq_some_iff.1 ho
  have hnone : ¬(before.valueB.isNaN ∨ after.valueB.isNaN) := fun h =>
    Bool.eq_false_iff.1 hdefined (isNaN_change h)
  refine ⟨?_, ?_, rfl⟩
  · by_contra hgap
    exact hnone (Or.inl (hbefore (by simpa using hgap)))
  · by_contra hgap
    exact hnone (Or.inr (hafter (by simpa using hgap)))

theorem origin_changes_sublist
    (hrows : ∀ o ∈ rows, resolved o = false → o.valueB.isNaN) :
    ((changes rows).map Observation.origin).Sublist
      ((rows.filter resolved).tail.map Observation.origin) := by
  induction rows with
  | nil => exact List.Sublist.refl _
  | cons first rest ih =>
    cases rest with
    | nil => exact List.nil_sublist _
    | cons second rest =>
      have hrest := ih fun o ho => hrows o (List.mem_cons_of_mem _ ho)
      rw [changes_cons_cons]
      cases hstep : step? first second with
      | none =>
        rw [Option.toList_none, List.nil_append]
        refine hrest.trans (List.Sublist.map _ ?_)
        by_cases hfirst : resolved first
        · rw [List.filter_cons_of_pos hfirst]
          exact List.tail_sublist _
        · rw [List.filter_cons_of_neg hfirst]
      | some o =>
        -- both are resolved, so that the second is not the first resolved level
        obtain ⟨hfirst, hsecond, horigin⟩ := resolved_of_step? resolved (hrows _ List.mem_cons_self)
          (hrows _ (List.mem_cons_of_mem _ List.mem_cons_self)) hstep
        rw [List.filter_cons_of_pos hsecond, List.tail_cons] at hrest
        rw [List.filter_cons_of_pos hfirst, List.filter_cons_of_pos hsecond, List.tail_cons]
        simpa [horigin] using hrest

end Returns

/-! ## Runs -/

namespace Run
variable {s : Settings} {sides : Sides} {points : List PricePoint} {filter : Option String}

theorem observations_of_returns (h : s.alignment.compareReturns = true)
    (reference : Option (List PricePoint)) :
    (ofQuotes s sides reference filter).observations =
      Returns.ofLevels (align sides.a sides.b reference) := by
  simp [ofQuotes, observed, h]

/-- **Returns never mix in values that were not converted.** In a run on returns with a reference
each observation has a reference price, a value before conversion and two changes that are numbers.
The observations of an instrument lead to its levels with a price, in their order and without the
first of them, so that there is at least one less. -/
theorem returns_are_converted (hreturns : s.alignment.compareReturns = true) (sides : Sides)
    (points : List PricePoint) (filter : Option String) :
    let levels := align sides.a sides.b (some points)
    let returns := (ofQuotes s sides (some points) filter).observations
    (∀ o ∈ returns, (o.referencePrice.isSome ∧ o.nativeB.isSome) ∧
      o.valueA.isNaN = false ∧ o.valueB.isNaN = false) ∧
    ∀ instrument,
      let own := returns.filter (·.instrument = instrument)
      let resolved := levels.filter fun o => o.instrument = instrument && o.referencePrice.isSome
      (own.map Observation.origin).Sublist (resolved.tail.map Observation.origin) ∧
      own.length ≤ resolved.length - 1 := by
  intro levels returns
  have hlevels : returns = Returns.ofLevels levels := observations_of_returns hreturns _
  have hgap : ∀ o ∈ levels, o.referencePrice.isSome = false → o.valueB.isNaN := by
    intro o ho hprice
    rw [Conversion.valueB_of_unresolved points none _ ho (by simpa using hprice)]
    decide
  refine ⟨?_, ?_⟩
  · intro o ho
    rw [hlevels] at ho
    obtain ⟨before, hbefore, after, hafter, hstep⟩ := Returns.exists_of_mem_ofLevels ho
    obtain ⟨-, hresolved, -⟩ := Returns.resolved_of_step? (·.referencePrice.isSome)
      (hgap before hbefore) (hgap after hafter) hstep
    obtain ⟨hdefined, rfl⟩ := Returns.step?_eq_some_iff.1 hstep
    obtain ⟨price, row, -, rfl⟩ := Conversion.exists_of_mem_forward hafter
    exact ⟨⟨hresolved, rfl⟩, hdefined⟩
  · intro instrument own resolved
    have hown : own = Returns.changes (levels.filter (·.instrument = instrument)) := by
      have hsorted : (levels.filter (·.instrument = instrument)).Pairwise fun x y =>
          decide (x.time ≤ y.time) :=
        ((pairwise_time_align_some _ _ _).filter _).imp fun h => decide_eq_true h
      show returns.filter _ = _
      rw [hlevels, Returns.filter_ofLevels, Observation.ofInstrument, Observation.byTime,
        sortBy_eq_self hsorted]
    have hresolved : (levels.filter (·.instrument = instrument)).filter (·.referencePrice.isSome) =
        resolved := by
      rw [List.filter_filter]
      exact List.filter_congr fun o _ => Bool.and_comm _ _
    have hsublist : (own.map Observation.origin).Sublist (resolved.tail.map Observation.origin) := by
      rw [hown, ← hresolved]
      exact Returns.origin_changes_sublist fun o ho => hgap o (List.mem_filter.1 ho).1
    refine ⟨hsublist, ?_⟩
    simpa using hsublist.length_le

/-- A gap of one level before the first price: of the three levels with a price, the two later ones
lead to returns. -/
theorem returns_are_converted_after_gap :
    let s : Settings := { alignment := { compareReturns := true } }
    let name := "ETH-20250531-2700-C"
    let sides : Sides :=
      ⟨[⟨0, .a, name, .ofFloat 1.0⟩, ⟨10, .a, name, .ofFloat 2.0⟩, ⟨20, .a, name, .ofFloat 4.0⟩,
        ⟨30, .a, name, .ofFloat 3.0⟩],
      [⟨0, .b, name, .ofFloat 1.0⟩, ⟨10, .b, name, .ofFloat 2.0⟩, ⟨20, .b, name, .ofFloat 3.0⟩,
        ⟨30, .b, name, .ofFloat 6.0⟩]⟩
    let points : List PricePoint := [⟨10, 5.0⟩, ⟨30, 7.0⟩]
    let returns := (ofQuotes s sides (some points) none).observations
    s.alignment.compareReturns = true ∧
      returns.map (fun o => (o.time, o.referencePrice, o.nativeB, o.valueA)) =
        [(20, some 5.0, some 3.0, 100.0), (30, some 7.0, some 6.0, -25.0)] ∧
      (returns.filter (·.instrument = name)).length ≤ 3 - 1 := by
  intro s name sides points returns
  have hreturns : s.alignment.compareReturns = true := rfl
  have hbound := ((returns_are_converted hreturns sides points none).2 name).2
  have hresolved : ((align sides.a sides.b (some points)).filter fun o =>
      o.instrument = name && o.referencePrice.isSome).length = 3 := by decide +kernel
  simp only [hresolved] at hbound
  exact ⟨hreturns, by decide +kernel, hbound⟩

end Run

end TwoVenues

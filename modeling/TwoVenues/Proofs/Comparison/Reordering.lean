import TwoVenues.Proofs.Pairing.Returns
import TwoVenues.Proofs.Pairing.Timeline

/-!
# Observations in another order

Observations are taken apart by instrument and put in order of time before anything is computed from
them. So it does not matter how instruments and times are interleaved; only the order of what one
instrument has at one time comes through.

* `Observation.IsReordering rows rows'` : the same observations, in another order except for ties;
* `Observation.IsReordering.swap`, `Observation.IsReordering.cons` : neighbours that differ in
  instrument or time change places;
* `Comparison.groups_none` : the groups are the instruments, each with its observations in order of
  time;
* `Observation.IsReordering.ofInstrument_eq` : each instrument has the same order of time;
* `Observation.IsReordering.ofLevels_eq`, `Observation.IsReordering.groups_eq`,
  `Observation.IsReordering.rolling_eq` : hence the same returns, the same group and the same
  windows;
* `order_matters_only_among_ties` : returns, comparisons and windows.
-/

namespace TwoVenues

/-! ## Changing places -/

/-- The same observations, those of one instrument at one time in the same order. -/
structure Observation.IsReordering (rows rows' : List Observation) : Prop where
  perm : rows.Perm rows'
  ties : ∀ instrument time,
    rows.filter (fun o => o.instrument = instrument ∧ o.time = time) =
      rows'.filter (fun o => o.instrument = instrument ∧ o.time = time)

namespace Observation.IsReordering
variable {rows rows' rows'' : List Observation}

theorem trans (h : IsReordering rows rows') (h' : IsReordering rows' rows'') :
    IsReordering rows rows'' :=
  ⟨h.perm.trans h'.perm, fun instrument time =>
    (h.ties instrument time).trans (h'.ties instrument time)⟩

theorem cons (o : Observation) (h : IsReordering rows rows') :
    IsReordering (o :: rows) (o :: rows') where
  perm := h.perm.cons o
  ties instrument time := by
    rw [List.filter_cons, List.filter_cons, h.ties]

theorem swap {x y : Observation} (h : x.instrument ≠ y.instrument ∨ x.time ≠ y.time)
    (rows : List Observation) : IsReordering (x :: y :: rows) (y :: x :: rows) where
  perm := .swap y x rows
  ties instrument time := by
    by_cases hx : x.instrument = instrument ∧ x.time = time
    · have hy : ¬(y.instrument = instrument ∧ y.time = time) := by
        rintro ⟨hi, ht⟩
        rcases h with h | h
        · exact h (hx.1.trans hi.symm)
        · exact h (hx.2.trans ht.symm)
      simp [hx, hy]
    · simp [List.filter_cons, hx]

end Observation.IsReordering

/-! ## Groups -/

theorem Comparison.groups_none (rows : List Observation) : groups none rows =
    (sortedKeys (rows.map (·.instrument))).map fun instrument =>
      (instrument, Observation.ofInstrument instrument rows) := by
  have hpassing : passing none rows = rows := List.filter_eq_self.2 fun _ _ => rfl
  rw [groups, hpassing, groupsBy, List.map_map]
  rfl

namespace Observation.IsReordering
variable {rows rows' : List Observation}

theorem ofInstrument_eq (h : IsReordering rows rows') (instrument : String) :
    ofInstrument instrument rows = ofInstrument instrument rows' := by
  have hfilter : ∀ (xs : List Observation) (time : Time),
      (xs.filter (·.instrument = instrument)).filter (·.time = time) =
        xs.filter fun o => o.instrument = instrument ∧ o.time = time := by
    intro xs time
    rw [List.filter_filter]
    exact List.filter_congr fun o _ => by rw [Bool.decide_and, Bool.and_comm]
  have hrows' := isTimeline_ofInstrument instrument rows'
  refine (isTimeline_ofInstrument instrument rows).unique { hrows' with perm := ?_, ties := ?_ }
  · exact hrows'.perm.trans (h.perm.symm.filter _)
  · intro time
    rw [hrows'.ties, hfilter, hfilter, h.ties]

theorem ofLevels_eq (h : IsReordering rows rows') :
    Returns.ofLevels rows = Returns.ofLevels rows' := by
  rw [Returns.ofLevels_eq, Returns.ofLevels_eq, sortedKeys_perm (h.perm.map _)]
  exact List.flatMap_congr fun instrument _ => by rw [h.ofInstrument_eq]

theorem groups_eq (h : IsReordering rows rows') (filter : Option String) :
    Comparison.groups filter rows = Comparison.groups filter rows' := by
  have hnone : Comparison.groups none rows = Comparison.groups none rows' := by
    rw [Comparison.groups_none, Comparison.groups_none, sortedKeys_perm (h.perm.map _)]
    exact List.map_congr_left fun instrument _ => by rw [h.ofInstrument_eq]
  rw [Comparison.groups_filter, hnone, ← Comparison.groups_filter]

theorem rolling_eq (h : IsReordering rows rows') (s : CorrelationSettings) (instrument : String) :
    Comparison.rolling s instrument rows = Comparison.rolling s instrument rows' := by
  unfold Comparison.rolling
  rw [← Observation.ofInstrument, ← Observation.ofInstrument, h.ofInstrument_eq]

end Observation.IsReordering

/-- **The order of observations matters only among ties.** If the same observations stand in another
order, but those of one instrument at one time in the same one, then all returns, comparisons and
windows are the same, in the same order. -/
theorem order_matters_only_among_ties {rows rows' : List Observation}
    (h : Observation.IsReordering rows rows') :
    Returns.ofLevels rows = Returns.ofLevels rows' ∧
    ∀ s : CorrelationSettings,
      (∀ filter, Comparison.ofObservations s filter rows =
        Comparison.ofObservations s filter rows') ∧
      ∀ instrument, Comparison.rolling s instrument rows =
        Comparison.rolling s instrument rows' := by
  refine ⟨h.ofLevels_eq, fun s => ⟨fun filter => ?_, h.rolling_eq s⟩⟩
  rw [Comparison.ofObservations, Comparison.ofObservations, h.groups_eq]

/-- Two observations at one time, which one of a later time and one of another instrument are moved
around. -/
theorem order_matters_only_among_ties_around_tie :
    let row := fun time instrument a =>
      (⟨time, instrument, a, 1.0, instrument, instrument, none, none⟩ : Observation)
    let rows := [row 20 "X" 5.0, row 10 "Y" 3.0, row 10 "X" 1.0, row 10 "X" 2.0]
    let rows' := [row 10 "Y" 3.0, row 10 "X" 1.0, row 10 "X" 2.0, row 20 "X" 5.0]
    Observation.IsReordering rows rows' ∧
      (Comparison.ofObservations { minSamples := 2 } none rows =
        Comparison.ofObservations { minSamples := 2 } none rows') ∧
      (Returns.ofLevels rows).map (·.valueA) = [100.0, 150.0] ∧
      (Returns.ofLevels rows').map (·.valueA) = [100.0, 150.0] := by
  intro row rows rows'
  have h : Observation.IsReordering rows rows' :=
    (Observation.IsReordering.swap (.inl (by decide)) _).trans
      (.cons _ ((Observation.IsReordering.swap (.inr (by decide)) _).trans
        (.cons _ (.swap (.inr (by decide)) _))))
  obtain ⟨hreturns, hcompared⟩ := order_matters_only_among_ties h
  have hvalues : (Returns.ofLevels rows').map (·.valueA) = [100.0, 150.0] := by decide +kernel
  exact ⟨h, (hcompared _).1 none, by rw [hreturns, hvalues], hvalues⟩

end TwoVenues

import Mathlib.Data.List.TakeWhile
import TwoVenues.Proofs.Comparison.Batch
import TwoVenues.Proofs.Double.NumericOrder
import TwoVenues.Run

/-!
# The ranking of a run

The comparisons of a run stand in the order of their correlations, the highest first and the
undefined ones last, and ties by instrument. Whatever the summary counts therefore stands at the
front: the correlations above a bound, and those that are numbers at all.

* `AreFirst` : the members of a list with some property are the first so many;
* `areFirst_countP`, `filter_eq_takeWhile`, `not_of_mem_dropWhile` : a property that no member gains
  behind one that lacks it;
* `Comparison.IsRanking`, `Comparison.isRanking_rank` : what a ranking is, and that a batch with
  ascending instruments is put into one;
* `Comparison.pairwise_defined`, `Comparison.pairwise_above` : such properties of ranked comparisons;
* `Run.results_isRanking` : the results of a run and their summary.
-/

namespace TwoVenues

/-! ## What stands at the front -/

section Front
variable {α : Type} {p : α → Bool} {x : α} {rows : List α}

/-- The members that satisfy `p` are the first `k`. -/
structure AreFirst (p : α → Prop) (k : Nat) (rows : List α) : Prop where
  le : k ≤ rows.length
  iff : ∀ i : Fin rows.length, p (rows.get i) ↔ i.val < k

theorem not_of_not_front (h : (x :: rows).Pairwise fun y z => p z → p y) (hx : ¬p x) :
    ∀ y ∈ x :: rows, ¬p y := by
  intro y hy hpy
  rcases List.mem_cons.1 hy with rfl | hy
  · exact hx hpy
  · exact hx ((List.pairwise_cons.1 h).1 y hy hpy)

theorem areFirst_countP (h : rows.Pairwise fun y z => p z → p y) :
    AreFirst (p ·) (rows.countP p) rows := by
  refine ⟨List.countP_le_length, ?_⟩
  induction rows with
  | nil => exact fun i => i.elim0
  | cons x xs ih =>
    intro i
    by_cases hx : p x
    · rw [List.countP_cons_of_pos hx]
      cases i using Fin.cases with
      | zero => simp [hx]
      | succ i => simpa using ih h.of_cons i
    · have hnone := not_of_not_front h hx
      rw [List.countP_eq_zero.2 hnone]
      simpa using hnone _ (List.get_mem _ i)

theorem filter_eq_takeWhile (h : rows.Pairwise fun y z => p z → p y) :
    rows.filter p = rows.takeWhile p := by
  induction rows with
  | nil => rfl
  | cons x xs ih =>
    by_cases hx : p x
    · rw [List.filter_cons_of_pos hx, List.takeWhile_cons_of_pos hx, ih h.of_cons]
    · rw [List.takeWhile_cons_of_neg hx]
      exact List.filter_eq_nil_iff.2 (not_of_not_front h hx)

theorem not_of_mem_dropWhile (h : rows.Pairwise fun y z => p z → p y) :
    ∀ y ∈ rows.dropWhile p, ¬p y := by
  induction rows with
  | nil => simp
  | cons x xs ih =>
    by_cases hx : p x
    · rw [List.dropWhile_cons_of_pos hx]
      exact ih h.of_cons
    · rw [List.dropWhile_cons_of_neg hx]
      exact not_of_not_front h hx

end Front

/-! ## Ranking -/

namespace Comparison
variable {rows : List Comparison} {c d : Comparison}

/-- The correlation is a number. -/
def isDefined (c : Comparison) : Bool := !c.correlation.isNaN

/-- Neither comes before the other: the correlations are equal, or there are none. -/
def Ties (c d : Comparison) : Prop :=
  c.correlation = d.correlation ∨ c.isDefined = false ∧ d.isDefined = false

/-- `ranked` has the comparisons of `rows`: first those whose correlation is a number, descending in
the total order, then the others; among ties the instruments are ascending. -/
structure IsRanking (rows ranked : List Comparison) : Prop where
  perm : ranked.Perm rows
  descending : (ranked.takeWhile isDefined).Pairwise fun c d =>
    Double.totalLe d.correlation c.correlation
  undefinedLast : ∀ c ∈ ranked.dropWhile isDefined, c.correlation.isNaN
  ties : ranked.Pairwise fun c d => c.Ties d → c.instrument < d.instrument

theorem ranksBefore_iff : ranksBefore c d ↔
    (d.isDefined → c.isDefined ∧ Double.totalLe d.correlation c.correlation) := by
  unfold ranksBefore isDefined
  cases c.correlation.isNaN <;> cases d.correlation.isNaN <;> simp

theorem Ties.ranksBefore (h : c.Ties d) : d.ranksBefore c := by
  rw [ranksBefore_iff]
  intro hc
  rcases h with heq | ⟨hundefined, -⟩
  · rw [isDefined, ← heq]
    exact ⟨hc, Double.totalLe_refl _⟩
  · rw [hundefined] at hc
    cases hc

theorem pairwise_rank (rows : List Comparison) : (rank rows).Pairwise fun c d => ranksBefore c d :=
  pairwise_sortBy _ ranksBefore_trans ranksBefore_total rows

/-- No number stands behind a correlation that is undefined. -/
theorem pairwise_defined (rows : List Comparison) :
    (rank rows).Pairwise fun c d => d.isDefined → c.isDefined :=
  (pairwise_rank rows).imp fun hcd hd => (ranksBefore_iff.1 hcd hd).1

theorem isRanking_rank (h : rows.Pairwise (·.instrument < ·.instrument)) :
    IsRanking rows (rank rows) := by
  refine ⟨perm_sortBy _ rows, ?descending, ?undefinedLast, ?ties⟩
  case descending =>
    refine ((pairwise_rank rows).sublist (List.takeWhile_sublist _)).imp_of_mem ?_
    intro c d _ hd hcd
    exact (ranksBefore_iff.1 hcd (List.mem_takeWhile_imp hd)).2
  case undefinedLast =>
    intro c hc
    simpa [isDefined] using not_of_mem_dropWhile (pairwise_defined rows) c hc
  case ties =>
    exact (pairwise_ties_sortBy h).imp fun htie hcd => htie hcd.ranksBefore

/-- No correlation above a bound stands behind one that is not. -/
theorem pairwise_above (t : Float) (rows : List Comparison) :
    (rank rows).Pairwise fun c d => t < d.correlation → t < c.correlation := by
  refine (pairwise_rank rows).imp fun {c d} hcd hd => ?_
  have hnumber : d.isDefined := by rw [isDefined, (Double.lt_iff.1 hd).2.1, Bool.not_false]
  obtain ⟨hc, hle⟩ := ranksBefore_iff.1 hcd hnumber
  exact Double.lt_of_lt_of_totalLe (by simpa only [isDefined, Bool.not_eq_true'] using hc) hd hle

end Comparison

/-! ## Summary -/

namespace Summary
variable (rows : List Comparison)

theorem defined_correlations : defined (rows.map (·.correlation)) =
    (rows.filter Comparison.isDefined).map (·.correlation) := by
  rw [defined, List.filter_map]
  rfl

/-- What is above a bound is a number, so that leaving out the others first changes no count. -/
theorem countP_defined (t : Float) : (defined (rows.map (·.correlation))).countP (t < ·) =
    rows.countP fun c => t < c.correlation := by
  rw [defined_correlations, List.countP_map, List.countP_filter]
  refine List.countP_congr fun c _ => ?_
  simp only [Function.comp_apply, Bool.and_eq_true, decide_eq_true_iff, and_iff_left_iff_imp]
  intro hc
  rw [Comparison.isDefined, (Double.lt_iff.1 hc).2.1, Bool.not_false]

end Summary

/-! ## Runs -/

namespace Run
variable (s : Settings) (sides : Sides) (reference : Option (List PricePoint))
  (filter : Option String)

/-- **The results of a run are a ranking, and the summary counts its front**: the comparisons of what
is observed are ranked by correlation, with the undefined ones last and ties by instrument; the
correlations above each bound are the first ones, as many as the summary says, and the average is
that of the numbers in front, in this order. -/
theorem results_isRanking :
    let run := ofQuotes s sides reference filter
    Comparison.IsRanking
      (Comparison.ofObservations s.correlation filter (observed s sides reference)) run.results ∧
    run.summary.instruments = run.results.length ∧
    AreFirst (fun c => c.correlation > 0.95) run.summary.above95 run.results ∧
    AreFirst (fun c => c.correlation > 0.9) run.summary.above90 run.results ∧
    run.summary.avgCorrelation =
      Statistics.mean ((run.results.takeWhile Comparison.isDefined).map (·.correlation)) := by
  intro run
  let batch := Comparison.ofObservations s.correlation filter (observed s sides reference)
  have hresults : run.results = Comparison.rank batch := rfl
  have hsummary : run.summary = Summary.ofComparisons run.results := rfl
  have hbatch : batch.Pairwise (·.instrument < ·.instrument) :=
    (Comparison.pairwise_instrument _ _ _).imp compareOfLessAndEq_eq_lt.1
  have habove : ∀ t, AreFirst (fun c => t < c.correlation)
      ((Summary.defined (run.results.map (·.correlation))).countP (t < ·)) run.results := by
    intro t
    rw [Summary.countP_defined, hresults]
    have hfront := areFirst_countP (p := fun c => decide (t < c.correlation)) <|
      (Comparison.pairwise_above t batch).imp fun h => by simpa only [decide_eq_true_iff] using h
    simpa only [decide_eq_true_iff] using hfront
  refine ⟨hresults ▸ Comparison.isRanking_rank hbatch, rfl, habove 0.95, habove 0.9, ?average⟩
  case average =>
    have hmean : run.summary.avgCorrelation =
        Statistics.mean (Summary.defined (run.results.map (·.correlation))) := rfl
    rw [hmean, Summary.defined_correlations, hresults, filter_eq_takeWhile]
    exact Comparison.pairwise_defined batch

end Run

end TwoVenues

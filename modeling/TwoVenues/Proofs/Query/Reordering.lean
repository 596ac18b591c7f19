import Mathlib.Data.Option.Basic
import TwoVenues.Proofs.Query.Quotes

/-!
# Responses in another order

The data source promises no order: the series of a response may come in any order, and so may the
values of a series. Only the order of the quotes depends on it, and the quotes of either venue.

* `Series.IsReordering`, `Response.IsReordering` : the same series and values in some other order;
* `Response.quotes_perm` : a response that is reordered yields the same quotes in some order;
* `Sides.split_perm` : the quotes are split in the same way.
-/

namespace TwoVenues

deriving instance DecidableEq for Series
deriving instance DecidableEq for Response

/-! ## Series -/

namespace Series

/-- The labels agree, and the values are the same in some order. -/
structure IsReordering (x y : Series) : Prop where
  labels : ∀ name, x.label? name = y.label? name
  values : x.values.Perm y.values

theorem IsReordering.symm {x y : Series} (h : x.IsReordering y) : y.IsReordering x :=
  ⟨fun name => (h.labels name).symm, h.values.symm⟩

theorem quotes_perm {x y : Series} (h : x.IsReordering y) {quotes : List LabelledQuote}
    (hx : x.quotes = .ok quotes) : ∃ quotes', y.quotes = .ok quotes' ∧ quotes.Perm quotes' := by
  obtain ⟨instrument, hinstrument, hvalues⟩ := quotes_eq_ok_iff.1 hx
  obtain ⟨quotes', hquotes', hperm⟩ := mapM_perm h.values hvalues
  rw [h.labels] at hinstrument hquotes'
  exact ⟨quotes', quotes_eq_ok_iff.2 ⟨instrument, hinstrument, hquotes'⟩, hperm⟩

end Series

/-! ## Responses -/

namespace Response

/-- Two responses to a query that succeeded, with the same series in some order and the values of
each series in some order. -/
structure IsReordering (r r' : Response) : Prop where
  success : r.status = "success"
  success' : r'.status = "success"
  data : Option.Rel (Relation.Comp (List.Forall₂ Series.IsReordering) List.Perm) r.data r'.data

theorem IsReordering.symm {r r' : Response} (h : r.IsReordering r') : r'.IsReordering r := by
  obtain ⟨hsuccess, hsuccess', hdata⟩ := h
  refine ⟨hsuccess', hsuccess, ?_⟩
  generalize r.data = data, r'.data = data' at hdata ⊢
  cases hdata with
  | none => exact .none
  | some hseries =>
    obtain ⟨mid, hmid, hperm⟩ := hseries
    have hmid' : List.Forall₂ Series.IsReordering mid _ :=
      (hmid.imp fun _ _ => Series.IsReordering.symm).flip
    exact .some (List.perm_comp_forall₂ hperm.symm hmid')

theorem mapM_quotes_perm {series series' : List Series} {parts : List (List LabelledQuote)}
    (h : List.Forall₂ Series.IsReordering series series')
    (hparts : series.mapM Series.quotes = .ok parts) :
    ∃ parts', series'.mapM Series.quotes = .ok parts' ∧ List.Forall₂ List.Perm parts parts' := by
  simp only [mapM_eq_ok_iff] at hparts ⊢
  induction h generalizing parts with
  | nil =>
    cases hparts
    exact ⟨[], .nil, .nil⟩
  | cons hxy _ ih =>
    cases hparts with
    | cons hx hxs =>
      obtain ⟨quotes', hy, hperm⟩ := Series.quotes_perm hxy hx
      obtain ⟨parts', hys, hperms⟩ := ih hxs
      exact ⟨quotes' :: parts', .cons hy hys, .cons hperm hperms⟩

theorem quotes_perm {r r' : Response} (h : r.IsReordering r') {quotes : List LabelledQuote}
    (hr : r.quotes = .ok quotes) : ∃ quotes', r'.quotes = .ok quotes' ∧ quotes.Perm quotes' := by
  obtain ⟨-, series, hseries, parts, hparts, rfl⟩ := quotes_eq_ok_iff.1 hr
  have hdata := h.data
  rw [hseries] at hdata
  obtain ⟨series', ⟨mid, hmid, hperm⟩, hseries'⟩ : ∃ series',
      Relation.Comp (List.Forall₂ Series.IsReordering) List.Perm series series' ∧
        r'.data = some series' := by
    generalize r'.data = data at hdata
    cases hdata with
    | some hcomp => exact ⟨_, hcomp, rfl⟩
  -- first the values within each series, then the series
  obtain ⟨midParts, hmidParts, hperms⟩ := mapM_quotes_perm hmid hparts
  obtain ⟨parts', hparts', hpartsPerm⟩ := mapM_perm hperm hmidParts
  exact ⟨parts'.flatten,
    quotes_eq_ok_iff.2 ⟨h.success', series', hseries', parts', hparts', rfl⟩,
    (List.Perm.flatten_congr hperms).trans hpartsPerm.flatten⟩

end Response

/-! ## Sides -/

namespace Sides
variable {settings : AlignmentSettings} {quotes quotes' : List LabelledQuote}

theorem side_perm (h : quotes.Perm quotes') (venue : Venue) :
    (side settings quotes venue).Perm (side settings quotes' venue) :=
  h.filterMap _

theorem split_perm (h : quotes.Perm quotes') {sides : Sides}
    (hsides : split settings quotes = .ok sides) : ∃ sides', split settings quotes' = .ok sides' ∧
      sides.a.Perm sides'.a ∧ sides.b.Perm sides'.b := by
  obtain ⟨hlabels, rfl⟩ := split_eq_ok_iff.1 hsides
  have hlabels' : ∀ q ∈ quotes', q.label.isSome := fun q hq => hlabels q (h.mem_iff.2 hq)
  exact ⟨_, split_eq_ok_iff.2 ⟨hlabels', rfl⟩, side_perm h .a, side_perm h .b⟩

end Sides

end TwoVenues

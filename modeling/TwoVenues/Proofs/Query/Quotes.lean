import TwoVenues.Proofs.Outcome
import TwoVenues.Query.Response
import TwoVenues.Query.Sides

/-!
# The quotes of a response

* `Fault.mapError_source_eq_error_iff` : a fault of the source, as a run reports it;
* `Series.quote_eq_ok_iff`, `Series.quotes_eq_ok_iff`, `Response.quotes_eq_ok_iff` : values, series
  and responses that yield quotes, and which ones;
* `Response.exists_of_mem_quotes` : where a quote of a response comes from;
* `Sides.IsFirstUnlabelled`, `Sides.split_eq_ok_iff`, `Sides.split_eq_error_iff` : quotes that are
  split, and the quote that keeps others from it;
* `Sides.mem_side` : the quotes of a venue.
-/

namespace TwoVenues

theorem Fault.mapError_source_eq_error_iff {α : Type} {x : Except SourceFault α} {fault : Fault} :
    x.mapError Fault.source = .error fault ↔
      fault.kind = .source ∧ ∃ cause, x = .error cause ∧ fault = .source cause := by
  rw [mapError_eq_error_iff]
  constructor
  · rintro ⟨cause, hcause, rfl⟩
    exact ⟨rfl, cause, hcause, rfl⟩
  · rintro ⟨-, cause, hcause, rfl⟩
    exact ⟨cause, hcause, rfl⟩

namespace Series

theorem quote_eq_ok_iff {instrument : String} {label : Option String} {seconds : Float}
    {text : String} {q : LabelledQuote} : quote instrument label (seconds, text) = .ok q ↔
      seconds.isFinite ∧ ∃ value, Double.ofText? text = some value ∧
        ⟨millis seconds, label, instrument, value⟩ = q := by
  unfold quote
  by_cases hfinite : seconds.isFinite
  · cases htext : Double.ofText? text <;> simp [hfinite, htext]
  · simp [hfinite]

theorem quotes_eq_ok_iff {x : Series} {quotes : List LabelledQuote} : x.quotes = .ok quotes ↔
    ∃ instrument, x.label? "instrument" = some instrument ∧
      x.values.mapM (quote instrument (x.label? "exchange")) = .ok quotes := by
  unfold Series.quotes
  cases x.label? "instrument" <;> simp

end Series

namespace Response

theorem quotes_eq_ok_iff {r : Response} {quotes : List LabelledQuote} : r.quotes = .ok quotes ↔
    r.status = "success" ∧ ∃ series, r.data = some series ∧
      ∃ parts, series.mapM Series.quotes = .ok parts ∧ parts.flatten = quotes := by
  unfold Response.quotes
  by_cases hstatus : r.status = "success"
  · cases r.data with
    | none => simp [hstatus]
    | some series => cases h : series.mapM Series.quotes <;> simp [hstatus, h, Except.map]
  · simp [hstatus]

/-- A quote of a response is that of some value of some series. -/
theorem exists_of_mem_quotes {r : Response} {quotes : List LabelledQuote}
    (h : r.quotes = .ok quotes) {q : LabelledQuote} (hq : q ∈ quotes) :
    ∃ series, r.data = some series ∧ ∃ x ∈ series, ∃ v ∈ x.values,
      ∃ instrument, x.label? "instrument" = some instrument ∧
        Series.quote instrument (x.label? "exchange") v = .ok q := by
  obtain ⟨-, series, hseries, parts, hparts, rfl⟩ := quotes_eq_ok_iff.1 h
  obtain ⟨part, hpart, hq⟩ := List.mem_flatten.1 hq
  obtain ⟨x, hx, hquotes⟩ := exists_of_mem_mapM hparts hpart
  obtain ⟨instrument, hinstrument, hvalues⟩ := Series.quotes_eq_ok_iff.1 hquotes
  obtain ⟨v, hv, hquote⟩ := exists_of_mem_mapM hvalues hq
  exact ⟨series, hseries, x, hx, v, hv, instrument, hinstrument, hquote⟩

end Response

namespace Sides
variable {settings : AlignmentSettings} {quotes : List LabelledQuote} {q : LabelledQuote}
  {cause : SourceFault}

theorem split_eq_ok_iff {sides : Sides} : split settings quotes = .ok sides ↔
    (∀ q ∈ quotes, q.label.isSome) ∧ ⟨side settings quotes .a, side settings quotes .b⟩ = sides := by
  unfold split
  cases hfind : quotes.find? fun q => q.label.isNone with
  | none =>
    have hall : ∀ q ∈ quotes, q.label.isSome := by
      intro q hq
      simpa [Option.isSome_iff_ne_none] using List.find?_eq_none.1 hfind q hq
    simp only [Except.ok.injEq]
    exact (and_iff_right hall).symm
  | some q =>
    have hnone : q.label = none := by simpa using List.find?_some hfind
    have hmem : q ∈ quotes := List.mem_of_find?_eq_some hfind
    refine iff_of_false (by simp) fun ⟨hall, _⟩ => ?_
    simpa [hnone] using hall q hmem

/-- `q` is the first quote without a label. -/
def IsFirstUnlabelled (quotes : List LabelledQuote) (q : LabelledQuote) : Prop :=
  q.label = none ∧ ∃ before after, quotes = before ++ q :: after ∧ ∀ l ∈ before, l.label.isSome

theorem isFirstUnlabelled_iff : IsFirstUnlabelled quotes q ↔
    quotes.find? (fun q => q.label.isNone) = some q := by
  rw [List.find?_eq_some_iff_append]
  simp [IsFirstUnlabelled]

theorem split_eq_error_iff : split settings quotes = .error cause ↔
    ∃ q, IsFirstUnlabelled quotes q ∧ cause = .unlabelledVenue q.instrument := by
  simp only [isFirstUnlabelled_iff]
  unfold split
  cases quotes.find? fun q => q.label.isNone <;> simp [eq_comm]

theorem mem_side {venue : Venue} {q : Quote} : q ∈ side settings quotes venue ↔
    ∃ l ∈ quotes, l.label.bind settings.venue? = some venue ∧ l.atVenue venue = q := by
  simp [side]

end Sides

end TwoVenues

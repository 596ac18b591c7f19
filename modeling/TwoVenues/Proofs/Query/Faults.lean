import TwoVenues.Proofs.Query.FirstFault

/-!
# Faults of a response

What can be wrong with a response, said of the response itself and not of the order in which it is
read. A series may have several faults; reading stops at the first of them, and a missing venue
comes to light only when all quotes are read.

* `Series.HasFault`, `Response.HasFault` : the faults of a series and of a response;
* `Series.FirstFault.hasFault`, `Response.FirstFault.hasFault` : the first fault is one of them;
* `Response.hasFault_of_quotes`, `Response.hasFault_of_split` : a fault that is reported is one of
  the response;
* `Response.not_hasFault_of_split` : a response that is read and split has none.
-/

namespace TwoVenues

/-- What makes a series unusable. Without a value there is no quote that lacks a venue. -/
inductive Series.HasFault (x : Series) : SourceFault → Prop
  | unnamed (hname : x.label? "instrument" = none) : x.HasFault .unnamedSeries
  | time {instrument text : String} {seconds : Float}
      (hname : x.label? "instrument" = some instrument) (hvalue : (seconds, text) ∈ x.values)
      (hseconds : ¬seconds.isFinite) : x.HasFault (.badTime instrument)
  | value {instrument text : String} {seconds : Float}
      (hname : x.label? "instrument" = some instrument) (hvalue : (seconds, text) ∈ x.values)
      (htext : Double.ofText? text = none) : x.HasFault (.badValue text instrument)
  | venue {instrument : String} (hname : x.label? "instrument" = some instrument)
      (hvalues : x.values ≠ []) (hvenue : x.label? "exchange" = none) :
      x.HasFault (.unlabelledVenue instrument)

/-- What makes a response unusable. -/
inductive Response.HasFault (r : Response) : SourceFault → Prop
  | failed (hstatus : r.status ≠ "success") : r.HasFault (.failed r.status r.error)
  | noData (hdata : r.data = none) : r.HasFault .noData
  | series {all : List Series} {x : Series} {cause : SourceFault} (hdata : r.data = some all)
      (hx : x ∈ all) (hcause : x.HasFault cause) : r.HasFault cause

/-! ## Series -/

namespace Series
variable {x : Series} {instrument : String} {cause : SourceFault}

theorem FirstFault.hasFault (h : x.FirstFault cause) : x.HasFault cause := by
  cases h with
  | unnamed hname => exact .unnamed hname
  | value hname hvalues _ hv =>
    have hmem := hvalues ▸ List.mem_append_right _ List.mem_cons_self
    cases hv with
    | time hseconds => exact .time hname hmem hseconds
    | text _ htext => exact .value hname hmem htext

theorem hasFault_of_quotes (h : x.quotes = .error cause) : x.HasFault cause :=
  (quotes_eq_error_iff.1 h).hasFault

/-- A series that can be read has at most the fault that its quotes lack a venue. -/
theorem venue_of_quotes {quotes : List LabelledQuote} (h : x.quotes = .ok quotes)
    (hcause : x.HasFault cause) : ∃ q ∈ quotes, q.label = none := by
  obtain ⟨instrument, hname, hquotes⟩ := quotes_eq_ok_iff.1 h
  cases hcause with
  | unnamed hunnamed => simp [hname] at hunnamed
  | time _ hvalue hseconds =>
    obtain ⟨q, -, hq⟩ := exists_mem_of_mapM hquotes hvalue
    exact absurd (quote_eq_ok_iff.1 hq).1 hseconds
  | value _ hvalue htext =>
    obtain ⟨q, -, hq⟩ := exists_mem_of_mapM hquotes hvalue
    obtain ⟨-, value, hvalue, -⟩ := quote_eq_ok_iff.1 hq
    simp [htext] at hvalue
  | venue _ hvalues hvenue =>
    obtain ⟨v, hv⟩ := List.exists_mem_of_ne_nil _ hvalues
    obtain ⟨q, hq, hquote⟩ := exists_mem_of_mapM hquotes hv
    obtain ⟨-, value, -, rfl⟩ := quote_eq_ok_iff.1 hquote
    exact ⟨_, hq, hvenue⟩

end Series

/-! ## Responses -/

namespace Response
variable {r : Response} {quotes : List LabelledQuote} {settings : AlignmentSettings}
  {cause : SourceFault}

theorem FirstFault.hasFault (h : r.FirstFault cause) : r.HasFault cause := by
  cases h with
  | failed hstatus => exact .failed hstatus
  | noData _ hdata => exact .noData hdata
  | series _ hdata hall _ hx =>
    exact .series hdata (hall ▸ List.mem_append_right _ List.mem_cons_self) hx.hasFault

theorem hasFault_of_quotes (h : r.quotes = .error cause) : r.HasFault cause :=
  (quotes_eq_error_iff.1 h).hasFault

theorem hasFault_of_split (h : r.quotes = .ok quotes)
    (hsplit : Sides.split settings quotes = .error cause) : r.HasFault cause := by
  obtain ⟨q, ⟨hlabel, hmem⟩, rfl⟩ := Sides.split_eq_error_iff.1 hsplit
  have hq : q ∈ quotes := by
    obtain ⟨before, after, rfl, -⟩ := hmem
    simp
  obtain ⟨all, hdata, x, hx, v, hv, instrument, hname, hquote⟩ := exists_of_mem_quotes h hq
  obtain ⟨-, value, -, rfl⟩ := Series.quote_eq_ok_iff.1 hquote
  exact .series hdata hx (.venue hname (List.ne_nil_of_mem hv) hlabel)

theorem not_hasFault_of_split {sides : Sides} (h : r.quotes = .ok quotes)
    (hsplit : Sides.split settings quotes = .ok sides) : ¬r.HasFault cause := by
  obtain ⟨hstatus, all, hdata, parts, hparts, rfl⟩ := quotes_eq_ok_iff.1 h
  intro hcause
  cases hcause with
  | failed hfailed => exact hfailed hstatus
  | noData hnone => simp [hdata] at hnone
  | series hall hx hcause =>
    obtain rfl : all = _ := Option.some.inj (hdata.symm.trans hall)
    -- the series was read, so that only its venue can be missing, but the split has seen it
    obtain ⟨part, hpart, hquotes⟩ := exists_mem_of_mapM hparts hx
    obtain ⟨q, hq, hlabel⟩ := Series.venue_of_quotes hquotes hcause
    have hlabelled := (Sides.split_eq_ok_iff.1 hsplit).1 q (List.mem_flatten.2 ⟨part, hpart, hq⟩)
    simp [hlabel] at hlabelled

end Response

end TwoVenues

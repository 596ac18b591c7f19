import TwoVenues.Proofs.Query.Quotes

/-!
# A response is read as a whole or not at all

The values of a response are read in order: series by series, and in each series value by value. The
first fault on the way is the fault of the response, whatever is wrong further on; without a fault
every value makes one quote, with the labels of its own series.

* `Series.IsReadable`, `Series.IsSound`, `Response.IsSound` : values, series and responses without
  fault;
* `Series.ValueFault`, `Series.FirstFault`, `Response.FirstFault` : the first fault in the order of
  reading;
* `Series.IsQuoteOf` : the quote that a value of a series makes;
* `Series.quotes_eq_error_iff`, `Response.quotes_eq_error_iff` : which fault is reported;
* `Response.quotes_all_or_first_fault` : what is read of a response.
-/

namespace TwoVenues

/-! ## Series -/

namespace Series

/-- The time is finite and the text is decimal. -/
def IsReadable (v : Float × String) : Prop := v.1.isFinite ∧ (Double.ofText? v.2).isSome

/-- What is wrong with a value in a series of this instrument; the time comes before the text. -/
inductive ValueFault (instrument : String) : Float × String → SourceFault → Prop
  | time {seconds : Float} {text : String} (hseconds : ¬seconds.isFinite) :
      ValueFault instrument (seconds, text) (.badTime instrument)
  | text {seconds : Float} {text : String} (hseconds : seconds.isFinite)
      (htext : Double.ofText? text = none) :
      ValueFault instrument (seconds, text) (.badValue text instrument)

/-- The series names its instrument, and all its values can be read. -/
structure IsSound (x : Series) : Prop where
  named : (x.label? "instrument").isSome
  values : ∀ v ∈ x.values, IsReadable v

/-- The first thing wrong with a series: a missing name comes before the values. -/
inductive FirstFault (x : Series) : SourceFault → Prop
  | unnamed (hname : x.label? "instrument" = none) : x.FirstFault .unnamedSeries
  | value {instrument : String} {before after : List (Float × String)} {v : Float × String}
      {cause : SourceFault} (hname : x.label? "instrument" = some instrument)
      (hvalues : x.values = before ++ v :: after) (hbefore : ∀ w ∈ before, IsReadable w)
      (hv : ValueFault instrument v cause) : x.FirstFault cause

/-- The quote tells the time and the value of `v`, and the labels of the series. -/
structure IsQuoteOf (x : Series) (v : Float × String) (q : LabelledQuote) : Prop where
  time : q.time = millis v.1
  label : q.label = x.label? "exchange"
  instrument : x.label? "instrument" = some q.instrument
  value : Double.ofText? v.2 = some q.value

variable {x : Series} {v : Float × String} {instrument : String} {label : Option String}
  {cause : SourceFault} {quotes : List LabelledQuote}

theorem IsQuoteOf.unique {q q' : LabelledQuote} (h : x.IsQuoteOf v q) (h' : x.IsQuoteOf v q') :
    q = q' := by
  obtain ⟨time, label, instrument, value⟩ := q
  obtain ⟨time', label', instrument', value'⟩ := q'
  obtain rfl : time = time' := h.time.trans h'.time.symm
  obtain rfl : label = label' := h.label.trans h'.label.symm
  obtain rfl : instrument = instrument' := Option.some.inj (h.instrument.symm.trans h'.instrument)
  obtain rfl : value = value' := Option.some.inj (h.value.symm.trans h'.value)
  rfl

theorem exists_quote_iff : (∃ q, quote instrument label v = .ok q) ↔ IsReadable v := by
  obtain ⟨seconds, text⟩ := v
  simp [quote_eq_ok_iff, IsReadable, Option.isSome_iff_exists]

theorem quote_eq_error_iff :
    quote instrument label v = .error cause ↔ ValueFault instrument v cause := by
  obtain ⟨seconds, text⟩ := v
  unfold quote
  constructor
  · intro h
    by_cases hseconds : seconds.isFinite
    · cases htext : Double.ofText? text with
      | none =>
        obtain rfl : SourceFault.badValue text instrument = cause := by
          simpa [hseconds, htext] using h
        exact .text hseconds htext
      | some value => simp [hseconds, htext] at h
    · obtain rfl : SourceFault.badTime instrument = cause := by simpa [hseconds] using h
      exact .time hseconds
  · rintro (hseconds | ⟨hseconds, htext⟩)
    · simp [hseconds]
    · simp [hseconds, htext]

theorem exists_quotes_iff : (∃ quotes, x.quotes = .ok quotes) ↔ x.IsSound := by
  constructor
  · rintro ⟨quotes, hquotes⟩
    obtain ⟨instrument, hname, hvalues⟩ := quotes_eq_ok_iff.1 hquotes
    exact ⟨by simp [hname], fun v hv =>
      exists_quote_iff.1 (exists_mapM_eq_ok_iff.1 ⟨quotes, hvalues⟩ v hv)⟩
  · rintro ⟨hnamed, hvalues⟩
    obtain ⟨instrument, hname⟩ := Option.isSome_iff_exists.1 hnamed
    have hquote : ∀ v ∈ x.values, ∃ q, quote instrument (x.label? "exchange") v = .ok q :=
      fun v hv => exists_quote_iff.2 (hvalues v hv)
    obtain ⟨quotes, hquotes⟩ := exists_mapM_eq_ok_iff.2 hquote
    exact ⟨quotes, quotes_eq_ok_iff.2 ⟨instrument, hname, hquotes⟩⟩

theorem quotes_eq_error_iff : x.quotes = .error cause ↔ x.FirstFault cause := by
  unfold Series.quotes
  constructor
  · intro h
    cases hname : x.label? "instrument" with
    | none =>
      obtain rfl : SourceFault.unnamedSeries = cause := by simpa [hname] using h
      exact .unnamed hname
    | some instrument =>
      rw [hname] at h
      obtain ⟨before, v, after, hvalues, hbefore, hv⟩ := mapM_eq_error_iff.1 h
      exact .value hname hvalues (fun w hw => exists_quote_iff.1 (hbefore w hw))
        (quote_eq_error_iff.1 hv)
  · rintro (hname | ⟨hname, hvalues, hbefore, hv⟩)
    · rw [hname]
    · rw [hname]
      exact mapM_eq_error_iff.2 ⟨_, _, _, hvalues, fun w hw => exists_quote_iff.2 (hbefore w hw),
        quote_eq_error_iff.2 hv⟩

theorem forall₂_of_quotes (h : x.quotes = .ok quotes) :
    List.Forall₂ x.IsQuoteOf x.values quotes := by
  obtain ⟨instrument, hname, hquotes⟩ := quotes_eq_ok_iff.1 h
  refine (mapM_eq_ok_iff.1 hquotes).imp fun v q hq => ?_
  obtain ⟨-, value, hvalue, rfl⟩ := quote_eq_ok_iff.1 hq
  exact ⟨rfl, rfl, hname, hvalue⟩

end Series

/-! ## Responses -/

namespace Response

/-- The query succeeded and gave data, all of whose series are sound. -/
structure IsSound (r : Response) : Prop where
  success : r.status = "success"
  data : ∃ all, r.data = some all ∧ ∀ x ∈ all, x.IsSound

/-- The first thing wrong with a response: the status, the data, and then the series in order. -/
inductive FirstFault (r : Response) : SourceFault → Prop
  | failed (hstatus : r.status ≠ "success") : r.FirstFault (.failed r.status r.error)
  | noData (hstatus : r.status = "success") (hdata : r.data = none) : r.FirstFault .noData
  | series {all before after : List Series} {x : Series} {cause : SourceFault}
      (hstatus : r.status = "success") (hdata : r.data = some all)
      (hall : all = before ++ x :: after) (hbefore : ∀ y ∈ before, y.IsSound)
      (hx : x.FirstFault cause) : r.FirstFault cause

/-- The values of a response in the order of reading, each beside its series. -/
def values (r : Response) : List (Series × (Float × String)) :=
  (r.data.getD []).flatMap fun x => x.values.map (x, ·)

variable {r : Response} {cause : SourceFault} {quotes : List LabelledQuote}

theorem exists_quotes_iff : (∃ quotes, r.quotes = .ok quotes) ↔ r.IsSound := by
  constructor
  · rintro ⟨quotes, hquotes⟩
    obtain ⟨hstatus, all, hdata, parts, hparts, -⟩ := quotes_eq_ok_iff.1 hquotes
    exact ⟨hstatus, all, hdata, fun x hx =>
      Series.exists_quotes_iff.1 (exists_mapM_eq_ok_iff.1 ⟨parts, hparts⟩ x hx)⟩
  · rintro ⟨hstatus, all, hdata, hall⟩
    obtain ⟨parts, hparts⟩ := exists_mapM_eq_ok_iff.2 fun x hx =>
      Series.exists_quotes_iff.2 (hall x hx)
    exact ⟨parts.flatten, quotes_eq_ok_iff.2 ⟨hstatus, all, hdata, parts, hparts, rfl⟩⟩

theorem quotes_eq_error_iff : r.quotes = .error cause ↔ r.FirstFault cause := by
  unfold Response.quotes
  constructor
  · intro h
    by_cases hstatus : r.status = "success"
    · cases hdata : r.data with
      | none =>
        obtain rfl : SourceFault.noData = cause := by simpa [hstatus, hdata] using h
        exact .noData hstatus hdata
      | some all =>
        have hparts : all.mapM Series.quotes = .error cause :=
          map_eq_error_iff.1 (by simpa [hstatus, hdata] using h)
        obtain ⟨before, x, after, hall, hbefore, hx⟩ := mapM_eq_error_iff.1 hparts
        exact .series hstatus hdata hall (fun y hy => Series.exists_quotes_iff.1 (hbefore y hy))
          (Series.quotes_eq_error_iff.1 hx)
    · obtain rfl : SourceFault.failed r.status r.error = cause := by simpa [hstatus] using h
      exact .failed hstatus
  · rintro (hstatus | ⟨hstatus, hdata⟩ | ⟨hstatus, hdata, hall, hbefore, hx⟩)
    · simp [hstatus]
    · simp [hstatus, hdata]
    · have hparts := mapM_eq_error_iff.2 ⟨_, _, _, hall, fun y hy =>
        Series.exists_quotes_iff.2 (hbefore y hy), Series.quotes_eq_error_iff.2 hx⟩
      simp [hstatus, hdata, map_eq_error_iff.2 hparts]

theorem forall₂_of_quotes (h : r.quotes = .ok quotes) :
    List.Forall₂ (fun v q => v.1.IsQuoteOf v.2 q) r.values quotes := by
  obtain ⟨-, all, hdata, parts, hparts, rfl⟩ := quotes_eq_ok_iff.1 h
  rw [values, hdata, Option.getD_some, List.flatMap_def]
  refine List.rel_flatten (List.forall₂_map_left_iff.2 ?_)
  refine (mapM_eq_ok_iff.1 hparts).imp fun x part hx => ?_
  exact List.forall₂_map_left_iff.2 (Series.forall₂_of_quotes hx)

/-- **A response is read as a whole or not at all.** It yields quotes exactly if it is sound, and then
one quote for each value in the order of reading, with the labels of the series of the value. If it is
not sound, its fault is one of the source and the first in this order. -/
theorem quotes_all_or_first_fault (r : Response) :
    ((∃ quotes, r.quotes = .ok quotes) ↔ r.IsSound) ∧
    (∀ quotes, r.quotes = .ok quotes ↔
      r.IsSound ∧ List.Forall₂ (fun v q => v.1.IsQuoteOf v.2 q) r.values quotes) ∧
    ∀ fault, r.quotes.mapError Fault.source = .error fault ↔
      fault.kind = .source ∧ ∃ cause, r.FirstFault cause ∧ fault = .source cause := by
  refine ⟨exists_quotes_iff, fun quotes => ⟨fun h => ?quotes, ?unique⟩, fun fault => ?first⟩
  case quotes => exact ⟨exists_quotes_iff.1 ⟨quotes, h⟩, forall₂_of_quotes h⟩
  case unique =>
    rintro ⟨hsound, hquotes⟩
    obtain ⟨quotes', h'⟩ := exists_quotes_iff.2 hsound
    obtain rfl : quotes' = quotes :=
      List.right_unique_forall₂' (fun _ _ _ hq hq' => hq.unique hq') (forall₂_of_quotes h') hquotes
    exact h'
  case first =>
    rw [Fault.mapError_source_eq_error_iff]
    simp only [quotes_eq_error_iff]

end Response

end TwoVenues

import TwoVenues.Proofs.Query.Faults
import TwoVenues.Proofs.Query.Reference

/-!
# More series in a response

The data source knows more venues than the two, and a response may hold their series anywhere among
the others. Their quotes are read with the rest and then passed over: by the split always, and by
the choice of the reference unless their instruments qualify for it.

* `Inserted p xs ys` : `ys` is `xs` with further members, all of which satisfy `p`;
* `Inserted.mapM`, `Inserted.flatten` : one step for each member, and lists of lists;
* `Series.IsForeign`, `LabelledQuote.IsForeign` : series and quotes of a third venue;
* `Response.quotes_insert`, `Sides.split_insert`, `Reference.select?_insert` : what such series
  change.
-/

namespace TwoVenues

/-! ## Insertion -/

/-- The second list is the first with further members anywhere, which satisfy `p`. -/
inductive Inserted {α : Type} (p : α → Prop) : List α → List α → Prop
  | nil : Inserted p [] []
  | keep {x : α} {xs ys : List α} (h : Inserted p xs ys) : Inserted p (x :: xs) (x :: ys)
  | insert {y : α} {xs ys : List α} (hy : p y) (h : Inserted p xs ys) : Inserted p xs (y :: ys)

namespace Inserted
variable {α β ε : Type} {p : α → Prop} {q : β → Prop} {xs ys xs' ys' : List α}

theorem append (h : Inserted p xs ys) (h' : Inserted p xs' ys') :
    Inserted p (xs ++ xs') (ys ++ ys') := by
  induction h with
  | nil => exact h'
  | keep _ ih => exact .keep ih
  | insert hy _ ih => exact .insert hy ih

theorem refl (xs : List α) : Inserted p xs xs := by
  induction xs with
  | nil => exact .nil
  | cons _ _ ih => exact .keep ih

theorem of_forall (h : ∀ y ∈ ys, p y) : Inserted p [] ys := by
  induction ys with
  | nil => exact .nil
  | cons y ys ih =>
    exact .insert (h y List.mem_cons_self) (ih fun z hz => h z (List.mem_cons_of_mem _ hz))

theorem imp {p' : α → Prop} (hp : ∀ y, p y → p' y) (h : Inserted p xs ys) :
    Inserted p' xs ys := by
  induction h with
  | nil => exact .nil
  | keep _ ih => exact .keep ih
  | insert hy _ ih => exact .insert (hp _ hy) ih

theorem flatten {xss yss : List (List α)} (h : Inserted (fun ys => ∀ y ∈ ys, p y) xss yss) :
    Inserted p xss.flatten yss.flatten := by
  induction h with
  | nil => exact .nil
  | keep _ ih =>
    rw [List.flatten_cons, List.flatten_cons]
    exact (refl _).append ih
  | insert hy _ ih =>
    rw [List.flatten_cons]
    exact (of_forall hy).append ih

theorem map {f : α → β} (hp : ∀ y, p y → q (f y)) (h : Inserted p xs ys) :
    Inserted q (xs.map f) (ys.map f) := by
  induction h with
  | nil => exact .nil
  | keep _ ih => exact .keep ih
  | insert hy _ ih => exact .insert (hp _ hy) ih

theorem filterMap_eq {f : α → Option β} (hp : ∀ y, p y → f y = none) (h : Inserted p xs ys) :
    ys.filterMap f = xs.filterMap f := by
  induction h with
  | nil => rfl
  | keep _ ih => rw [List.filterMap_cons, List.filterMap_cons, ih]
  | insert hy _ ih => rw [List.filterMap_cons_none (hp _ hy), ih]

theorem filter_eq {f : α → Bool} (hp : ∀ y, p y → f y = false) (h : Inserted p xs ys) :
    ys.filter f = xs.filter f := by
  induction h with
  | nil => rfl
  | keep _ ih => rw [List.filter_cons, List.filter_cons, ih]
  | insert hy _ ih => rw [List.filter_cons_of_neg (by simp [hp _ hy]), ih]

theorem find?_eq {f : α → Bool} (hp : ∀ y, p y → f y = false) (h : Inserted p xs ys) :
    ys.find? f = xs.find? f := by
  rw [← List.head?_filter, ← List.head?_filter, filter_eq hp h]

theorem mem_iff {x : α} (hx : ¬p x) (h : Inserted p xs ys) : x ∈ ys ↔ x ∈ xs := by
  induction h with
  | nil => rfl
  | keep _ ih => rw [List.mem_cons, List.mem_cons, ih]
  | @insert y _ _ hy _ ih =>
    have hne : x ≠ y := fun hxy => hx (hxy ▸ hy)
    rw [List.mem_cons, or_iff_right hne, ih]

/-- Steps for further members that end well leave the first fault as it is. -/
theorem mapM {f : α → Except ε β} (hp : ∀ y, p y → ∃ b, f y = .ok b ∧ q b) (h : Inserted p xs ys) :
    (∃ e, xs.mapM f = .error e ∧ ys.mapM f = .error e) ∨
    ∃ bs bs', xs.mapM f = .ok bs ∧ ys.mapM f = .ok bs' ∧ Inserted q bs bs' := by
  induction h with
  | nil => exact .inr ⟨[], [], rfl, rfl, .nil⟩
  | @keep x xs ys _ ih =>
    rw [List.mapM_cons, List.mapM_cons]
    cases f x with
    | error e => exact .inl ⟨e, rfl, rfl⟩
    | ok b =>
      rcases ih with ⟨e, hxs, hys⟩ | ⟨bs, bs', hxs, hys, hbs⟩
      · exact .inl ⟨e, by rw [hxs]; rfl, by rw [hys]; rfl⟩
      · exact .inr ⟨b :: bs, b :: bs', by rw [hxs]; rfl, by rw [hys]; rfl, .keep hbs⟩
  | @insert y xs ys hy _ ih =>
    obtain ⟨b, hb, hq⟩ := hp y hy
    rw [List.mapM_cons, hb]
    rcases ih with ⟨e, hxs, hys⟩ | ⟨bs, bs', hxs, hys, hbs⟩
    · exact .inl ⟨e, hxs, by rw [hys]; rfl⟩
    · exact .inr ⟨bs, b :: bs', hxs, by rw [hys]; rfl, .insert hq hbs⟩

end Inserted

/-! ## Third venues -/

/-- Whether an instrument may become the reference. -/
def Reference.Qualifies (settings : AlignmentSettings) (instrument : String) : Prop :=
  instrument ∈ settings.referenceCandidates ∨ isPerpetual settings instrument

instance (settings : AlignmentSettings) (instrument : String) :
    Decidable (Reference.Qualifies settings instrument) :=
  inferInstanceAs (Decidable (_ ∨ _))

/-- A series without fault of a venue that is neither of the two. If values are converted, its
instrument is none that may become the reference. -/
structure Series.IsForeign (settings : AlignmentSettings) (x : Series) : Prop where
  sound : ∀ cause, ¬x.HasFault cause
  venue : ∃ label, x.label? "exchange" = some label ∧
    label ≠ settings.labelA ∧ label ≠ settings.labelB
  unqualified : settings.convertWithReference = true →
    ∀ instrument, x.label? "instrument" = some instrument →
      ¬Reference.Qualifies settings instrument

/-- A quote of such a series. -/
structure LabelledQuote.IsForeign (settings : AlignmentSettings) (q : LabelledQuote) : Prop where
  venue : ∃ label, q.label = some label ∧ label ≠ settings.labelA ∧ label ≠ settings.labelB
  unqualified : settings.convertWithReference = true →
    ¬Reference.Qualifies settings q.instrument

variable {settings : AlignmentSettings}

theorem Series.IsForeign.quotes {x : Series} (h : x.IsForeign settings) :
    ∃ quotes, x.quotes = .ok quotes ∧ ∀ q ∈ quotes, q.IsForeign settings := by
  cases hquotes : x.quotes with
  | error cause => exact absurd (hasFault_of_quotes hquotes) (h.sound cause)
  | ok quotes =>
    refine ⟨quotes, rfl, fun q hq => ?_⟩
    obtain ⟨instrument, hname, hvalues⟩ := quotes_eq_ok_iff.1 hquotes
    obtain ⟨v, -, hquote⟩ := exists_of_mem_mapM hvalues hq
    obtain ⟨-, value, -, rfl⟩ := quote_eq_ok_iff.1 hquote
    exact ⟨h.venue, fun hconvert => h.unqualified hconvert instrument hname⟩

/-- The converse for a single series: it has no fault if all its quotes name a venue. -/
theorem Series.sound_of_quotes {x : Series} {quotes : List LabelledQuote}
    (h : x.quotes = .ok quotes) (hlabels : ∀ q ∈ quotes, q.label.isSome) (cause : SourceFault) :
    ¬x.HasFault cause := by
  intro hcause
  obtain ⟨q, hq, hlabel⟩ := venue_of_quotes h hcause
  simpa [hlabel] using hlabels q hq

/-! ## Responses -/

/-- Two responses to a query that succeeded, the second with further series of third venues. -/
structure Response.IsExtension (settings : AlignmentSettings) (r r' : Response) : Prop where
  success : r.status = "success"
  success' : r'.status = "success"
  data : ∃ all all', r.data = some all ∧ r'.data = some all' ∧
    Inserted (Series.IsForeign settings) all all'

theorem Response.quotes_insert {r r' : Response} (h : r.IsExtension settings r') :
    (∃ cause, r.quotes = .error cause ∧ r'.quotes = .error cause) ∨
    ∃ quotes quotes', r.quotes = .ok quotes ∧ r'.quotes = .ok quotes' ∧
      Inserted (LabelledQuote.IsForeign settings) quotes quotes' := by
  obtain ⟨hsuccess, hsuccess', all, all', hdata, hdata', hinserted⟩ := h
  have hquotes : r.quotes = (all.mapM Series.quotes).map List.flatten := by
    simp [Response.quotes, hsuccess, hdata]
  have hquotes' : r'.quotes = (all'.mapM Series.quotes).map List.flatten := by
    simp [Response.quotes, hsuccess', hdata']
  rcases hinserted.mapM fun x hx => Series.IsForeign.quotes hx with
    ⟨cause, hall, hall'⟩ | ⟨parts, parts', hall, hall', hparts⟩
  · exact .inl ⟨cause, by rw [hquotes, hall]; rfl, by rw [hquotes', hall']; rfl⟩
  · exact .inr ⟨parts.flatten, parts'.flatten, by rw [hquotes, hall]; rfl,
      by rw [hquotes', hall']; rfl, hparts.flatten⟩

variable {quotes quotes' : List LabelledQuote}

theorem Sides.split_insert (h : Inserted (LabelledQuote.IsForeign settings) quotes quotes') :
    split settings quotes' = split settings quotes := by
  have hlabels : (quotes'.find? fun q => q.label.isNone) =
      quotes.find? fun q => q.label.isNone := by
    refine h.find?_eq fun q hq => ?_
    obtain ⟨label, hlabel, -, -⟩ := hq.venue
    rw [hlabel]
    rfl
  have hside : ∀ venue, side settings quotes' venue = side settings quotes venue := by
    intro venue
    refine h.filterMap_eq fun q hq => ?_
    obtain ⟨label, hlabel, hA, hB⟩ := hq.venue
    simp [hlabel, AlignmentSettings.venue?, hA, hB]
  unfold split
  rw [hlabels, hside, hside]

namespace Reference

theorem qualifies_of_choose? {instrument : String} (h : choose? settings quotes = some instrument) :
    Qualifies settings instrument := by
  rcases Option.or_eq_some_iff.1 h with hcandidate | ⟨-, hleast⟩
  · exact .inl (List.mem_of_find?_eq_some hcandidate)
  · exact .inr (List.mem_filter.1 (least?_eq_some_iff.1 hleast).1).2

theorem choose?_insert
    (h : Inserted (fun q => ¬Qualifies settings q.instrument) quotes quotes') :
    choose? settings quotes' = choose? settings quotes := by
  have hnames : Inserted (fun name => ¬Qualifies settings name) (quotes.map (·.instrument))
      (quotes'.map (·.instrument)) := h.map fun _ hq => hq
  have hcandidates : ∀ name ∈ settings.referenceCandidates,
      (quotes'.map (·.instrument)).contains name = (quotes.map (·.instrument)).contains name := by
    intro name hname
    rw [List.contains_eq_mem, List.contains_eq_mem]
    exact decide_eq_decide.2 (hnames.mem_iff fun hnot => hnot (.inl hname))
  have hperpetuals : (quotes'.map (·.instrument)).filter (isPerpetual settings) =
      (quotes.map (·.instrument)).filter (isPerpetual settings) :=
    hnames.filter_eq fun name hname => by simpa using fun hperpetual => hname (.inr hperpetual)
  unfold choose?
  simp only [hperpetuals]
  rw [← List.head?_filter, ← List.head?_filter, List.filter_congr hcandidates]

theorem select?_insert (h : Inserted (fun q => ¬Qualifies settings q.instrument) quotes quotes') :
    select? settings quotes' = select? settings quotes := by
  unfold select?
  rw [choose?_insert h]
  refine Option.map_congr fun instrument hinstrument => ?_
  -- the instrument that was chosen qualifies, so that no quote of it was inserted
  have hpoints : pointsOf quotes' instrument = pointsOf quotes instrument := by
    unfold pointsOf
    refine congrArg _ (h.filter_eq fun q hq => decide_eq_false ?_)
    rintro rfl
    exact hq (qualifies_of_choose? hinstrument)
  rw [hpoints]

end Reference

end TwoVenues

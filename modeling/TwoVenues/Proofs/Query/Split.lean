import TwoVenues.Proofs.Pairing.InnerJoin
import TwoVenues.Proofs.Query.Quotes

/-!
# The split between the venues

Quotes are split in one pass, which stops at the first quote without a label. What it has put on the
sides by then is lost; if there is no such quote, either side holds the quotes with its label, in the
order in which they came. The alignment takes each side for quotes of its venue and finds them to be
just that.

* `Sides.add` : one quote of the pass;
* `Sides.foldlM_add`, `Sides.foldlM_add_stops`, `Sides.split_eq_foldlM` : the pass up to a quote
  without label, at such a quote, and as a whole;
* `Sides.side_a_eq`, `Sides.side_b_eq` : the sides of settings with two labels;
* `Sides.alignmentCounts_side` : an alignment of the sides leaves no quote out;
* `Sides.split_partitions` : the split as a whole.
-/

namespace TwoVenues.Sides

variable {settings : AlignmentSettings} {quotes before after : List LabelledQuote}
  {q : LabelledQuote} {sides : Sides}

/-! ## One pass -/

/-- The sides with one more quote, which goes to the end of the side of its venue. -/
def add (settings : AlignmentSettings) (sides : Sides) (q : LabelledQuote) :
    Except SourceFault Sides :=
  match q.label with
  | none => .error (.unlabelledVenue q.instrument)
  | some label =>
    match settings.venue? label with
    | none => .ok sides
    | some .a => .ok { sides with a := sides.a ++ [q.atVenue .a] }
    | some .b => .ok { sides with b := sides.b ++ [q.atVenue .b] }

/-- The sides with the quotes of both venues behind what they hold. -/
def extend (settings : AlignmentSettings) (sides : Sides) (quotes : List LabelledQuote) : Sides :=
  ⟨sides.a ++ side settings quotes .a, sides.b ++ side settings quotes .b⟩

theorem extend_append : (sides.extend settings before).extend settings after =
    sides.extend settings (before ++ after) := by
  simp [extend, side]

theorem add_of_unlabelled (h : q.label = none) :
    add settings sides q = .error (.unlabelledVenue q.instrument) := by
  unfold add
  rw [h]

theorem add_of_labelled (h : q.label.isSome) :
    add settings sides q = .ok (sides.extend settings [q]) := by
  obtain ⟨label, hlabel⟩ := Option.isSome_iff_exists.1 h
  unfold add
  rw [hlabel]
  cases hvenue : settings.venue? label with
  | none => simp [extend, side, hlabel, hvenue]
  | some venue => cases venue <;> simp [extend, side, hlabel, hvenue]

/-- What the pass holds as long as it has not stopped: the quotes of both venues so far. -/
theorem foldlM_add (h : ∀ q ∈ quotes, q.label.isSome) (sides : Sides) :
    quotes.foldlM (add settings) sides = .ok (sides.extend settings quotes) := by
  induction quotes generalizing sides with
  | nil => simp [extend, side, pure, Except.pure]
  | cons q quotes ih =>
    rw [List.foldlM_cons, add_of_labelled (h q List.mem_cons_self)]
    refine (ih (fun q hq => h q (List.mem_cons_of_mem _ hq)) _).trans ?_
    rw [extend_append, List.singleton_append]

theorem foldlM_add_stops (hbefore : ∀ q ∈ before, q.label.isSome) (hq : q.label = none)
    (sides : Sides) : (before ++ q :: after).foldlM (add settings) sides =
      .error (.unlabelledVenue q.instrument) := by
  rw [List.foldlM_append, foldlM_add hbefore]
  simp only [bind, Except.bind, List.foldlM_cons, add_of_unlabelled hq]

theorem split_eq_foldlM (settings : AlignmentSettings) (quotes : List LabelledQuote) :
    split settings quotes = quotes.foldlM (add settings) ⟨[], []⟩ := by
  cases hsplit : split settings quotes with
  | ok sides =>
    obtain ⟨hlabels, rfl⟩ := split_eq_ok_iff.1 hsplit
    rw [foldlM_add hlabels]
    rfl
  | error cause =>
    obtain ⟨q, ⟨hq, before, after, rfl, hbefore⟩, rfl⟩ := split_eq_error_iff.1 hsplit
    rw [foldlM_add_stops hbefore hq]

/-! ## The sides -/

/-- The quotes with a label, as quotes of the venue that it stands for. -/
def labelled (label : String) (venue : Venue) (quotes : List LabelledQuote) : List Quote :=
  (quotes.filter (·.label = some label)).map fun q => ⟨q.time, venue, q.instrument, q.value⟩

theorem side_eq_labelled {label : String} {venue : Venue}
    (h : ∀ other, settings.venue? other = some venue ↔ other = label) :
    side settings quotes venue = labelled label venue quotes := by
  have hlabel : ∀ q : LabelledQuote,
      q.label.bind settings.venue? = some venue ↔ q.label = some label := by
    intro q
    simp only [Option.bind_eq_some_iff, h, exists_eq_right]
  rw [labelled, ← List.filterMap_eq_map, List.filterMap_filter]
  refine List.filterMap_congr fun q _ => ?_
  simp only [hlabel, decide_eq_true_iff, Function.comp_apply, LabelledQuote.atVenue]

theorem side_a_eq : side settings quotes .a = labelled settings.labelA .a quotes := by
  refine side_eq_labelled fun other => ?_
  unfold AlignmentSettings.venue?
  split <;> simp [*]

theorem side_b_eq (h : settings.labelA ≠ settings.labelB) :
    side settings quotes .b = labelled settings.labelB .b quotes := by
  refine side_eq_labelled fun other => ?_
  unfold AlignmentSettings.venue?
  split
  · next ha => simp [ha, h]
  · split <;> simp [*]

/-! ## Alignment -/

theorem countP_side_eq_zero (settings : AlignmentSettings) (quotes : List LabelledQuote)
    (venue : Venue) : (side settings quotes venue).countP (·.venue ≠ venue) = 0 := by
  refine List.countP_eq_zero.2 fun q hq => ?_
  obtain ⟨l, -, -, rfl⟩ := mem_side.1 hq
  simp [LabelledQuote.atVenue]

/-- An alignment takes every quote of a side for one of its venue. -/
theorem alignmentCounts_side (settings : AlignmentSettings) (quotes : List LabelledQuote)
    (reference : Option (List PricePoint)) :
    let counts := alignmentCounts (side settings quotes .a) (side settings quotes .b) reference
    counts.misrouted = 0 ∧ counts.samplesA = (side settings quotes .a).length ∧
      counts.samplesB = (side settings quotes .b).length := by
  have hmisrouted := countP_side_eq_zero settings quotes
  have hlength : ∀ venue, (Join.side venue (side settings quotes venue)).length =
      (side settings quotes venue).length := by
    intro venue
    simpa only [hmisrouted, Nat.add_zero] using
      Join.length_side_add_countP venue (side settings quotes venue)
  refine ⟨?_, hlength .a, hlength .b⟩
  unfold alignmentCounts
  simp only [hmisrouted]

/-- **The split is a partition in order, and the alignment rejects nothing of it.** One pass over the
quotes fails at the first one without a label, if there is one, with a fault of the source that names
its instrument. Else either side has the quotes with its label in the order in which they came, and
an alignment of the two sides takes all of them for quotes of their venues, whatever the reference. -/
theorem split_partitions (hlabels : settings.labelA ≠ settings.labelB)
    (quotes : List LabelledQuote) :
    split settings quotes = quotes.foldlM (add settings) ⟨[], []⟩ ∧
    ((∃ cause, split settings quotes = .error cause) ↔ ∃ q ∈ quotes, q.label = none) ∧
    (∀ fault, (split settings quotes).mapError Fault.source = .error fault ↔
      fault.kind = .source ∧ ∃ q, IsFirstUnlabelled quotes q ∧
        fault = .source (.unlabelledVenue q.instrument)) ∧
    ∀ sides, split settings quotes = .ok sides →
      sides.a = labelled settings.labelA .a quotes ∧
      sides.b = labelled settings.labelB .b quotes ∧
      ∀ reference,
        let counts := alignmentCounts sides.a sides.b reference
        counts.misrouted = 0 ∧ counts.samplesA = sides.a.length ∧
          counts.samplesB = sides.b.length := by
  refine ⟨split_eq_foldlM settings quotes, ?fails, fun fault => ?first, ?sides⟩
  case fails =>
    constructor
    · rintro ⟨cause, hcause⟩
      obtain ⟨q, ⟨hlabel, before, after, rfl, -⟩, -⟩ := split_eq_error_iff.1 hcause
      exact ⟨q, by simp, hlabel⟩
    · rintro ⟨q, hq, hlabel⟩
      cases hsplit : split settings quotes with
      | error cause => exact ⟨cause, rfl⟩
      | ok sides => simpa [hlabel] using (split_eq_ok_iff.1 hsplit).1 q hq
  case first =>
    rw [Fault.mapError_source_eq_error_iff]
    refine and_congr_right fun _ => ⟨?_, ?_⟩
    · rintro ⟨cause, hcause, rfl⟩
      obtain ⟨q, hq, rfl⟩ := split_eq_error_iff.1 hcause
      exact ⟨q, hq, rfl⟩
    · rintro ⟨q, hq, rfl⟩
      exact ⟨_, split_eq_error_iff.2 ⟨q, hq, rfl⟩, rfl⟩
  case sides =>
    intro sides hsides
    obtain ⟨-, rfl⟩ := split_eq_ok_iff.1 hsides
    exact ⟨side_a_eq, side_b_eq hlabels, alignmentCounts_side settings quotes⟩

/-- Quotes of both venues and of a third one, out of the order of time, and then two without label. -/
theorem split_partitions_of_three_venues :
    let settings : AlignmentSettings := {}
    let quote := fun time label instrument =>
      (⟨time, label, instrument, .ofFloat 1.0⟩ : LabelledQuote)
    let quotes := [quote 3 (some "derive") "X", quote 0 (some "okx") "X",
      quote 2 (some "deribit") "Y", quote 1 (some "derive") "Z"]
    settings.labelA ≠ settings.labelB ∧
    (∃ sides, split settings quotes = .ok sides ∧ sides.a.map (·.time) = [3, 1] ∧
      sides.b.map (·.time) = [2] ∧ (alignmentCounts sides.a sides.b none).misrouted = 0) ∧
    (split settings (quotes ++ [quote 5 none "U", quote 4 none "V"])).mapError Fault.source =
      .error (.source (.unlabelledVenue "U")) := by
  intro settings quote quotes
  have hlabels : settings.labelA ≠ settings.labelB := by decide
  refine ⟨hlabels, ?_, ?_⟩
  · obtain ⟨-, hfails, -, hsides⟩ := split_partitions hlabels quotes
    cases hsplit : split settings quotes with
    | error cause =>
      obtain ⟨q, hq, hlabel⟩ := hfails.1 ⟨cause, hsplit⟩
      have hall : ∀ q ∈ quotes, q.label ≠ none := by decide
      exact absurd hlabel (hall q hq)
    | ok sides =>
      obtain ⟨ha, hb, hcounts⟩ := hsides sides hsplit
      refine ⟨sides, rfl, ?_, ?_, (hcounts none).1⟩
      · rw [ha]
        decide
      · rw [hb]
        decide
  · obtain ⟨-, -, hfault, -⟩ :=
      split_partitions hlabels (quotes ++ [quote 5 none "U", quote 4 none "V"])
    exact (hfault _).2 ⟨rfl, quote 5 none "U",
      ⟨rfl, quotes, [quote 4 none "V"], rfl, by decide⟩, rfl⟩

end TwoVenues.Sides

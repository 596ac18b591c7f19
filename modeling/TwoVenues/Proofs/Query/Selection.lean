import TwoVenues.Proofs.Query.Reference

/-!
# The choice of the reference

Candidates have priority in the order in which the settings list them, and any candidate that is
quoted goes before all perpetuals. Which venue quotes an instrument has no part in the choice, nor
has the order of the quotes.

* `Reference.IsQuoted`, `Reference.StandsIn` : what is asked of candidates and of perpetuals;
* `Reference.IsChoice` : the instrument that has priority;
* `Reference.choose?_eq_some_iff`, `Reference.choose?_eq_none_iff` : the choice, and when there is
  none;
* `Reference.select?_obeys_priority` : the reference and its prices.
-/

namespace TwoVenues.Reference

variable {settings : AlignmentSettings} {quotes : List LabelledQuote} {name : String}

def IsQuoted (quotes : List LabelledQuote) (name : String) : Prop :=
  ∃ q ∈ quotes, q.instrument = name

/-- The name starts with the underlying and contains the marker of perpetuals. -/
def StandsIn (settings : AlignmentSettings) (name : String) : Prop :=
  settings.referenceUnderlying.toList <+: name.toList ∧
    settings.perpetualMarker.toList <:+: name.toList

/-- The instrument that has priority: the earliest candidate that is quoted, or if there is none, the
least of the quoted perpetuals in the order of code points. -/
inductive IsChoice (settings : AlignmentSettings) (quotes : List LabelledQuote) : String → Prop
  | candidate {before after : List String} {name : String}
      (hname : settings.referenceCandidates = before ++ name :: after)
      (hbefore : ∀ other ∈ before, ¬IsQuoted quotes other) (hquoted : IsQuoted quotes name) :
      IsChoice settings quotes name
  | perpetual {name : String} (hnone : ∀ c ∈ settings.referenceCandidates, ¬IsQuoted quotes c)
      (hquoted : IsQuoted quotes name) (hstands : StandsIn settings name)
      (hleast : ∀ other, IsQuoted quotes other → StandsIn settings other → name ≤ other) :
      IsChoice settings quotes name

theorem isPerpetual_iff : isPerpetual settings name ↔ StandsIn settings name := by
  rw [isPerpetual, Bool.and_eq_true, List.isPrefixOf_iff_prefix, contains_iff, StandsIn]

theorem contains_instrument_iff :
    (quotes.map (·.instrument)).contains name ↔ IsQuoted quotes name := by
  simp [IsQuoted]

theorem mem_perpetuals_iff : name ∈ (quotes.map (·.instrument)).filter (isPerpetual settings) ↔
    IsQuoted quotes name ∧ StandsIn settings name := by
  rw [List.mem_filter, isPerpetual_iff]
  simp [IsQuoted]

theorem find?_candidates_eq_none_iff :
    (settings.referenceCandidates.find? fun name => (quotes.map (·.instrument)).contains name) =
      none ↔ ∀ c ∈ settings.referenceCandidates, ¬IsQuoted quotes c := by
  simp only [List.find?_eq_none, contains_instrument_iff]

theorem choose?_eq_some_iff :
    choose? settings quotes = some name ↔ IsChoice settings quotes name := by
  unfold choose?
  rw [Option.or_eq_some_iff, find?_candidates_eq_none_iff, List.find?_eq_some_iff_append,
    least?_eq_some_iff]
  simp only [mem_perpetuals_iff, Bool.not_eq_true', ← Bool.not_eq_true, contains_instrument_iff]
  constructor
  · rintro (⟨hquoted, before, after, hname, hbefore⟩ | ⟨hnone, ⟨hquoted, hstands⟩, hleast⟩)
    · exact .candidate hname hbefore hquoted
    · exact .perpetual hnone hquoted hstands fun other hother hstands' =>
        hleast other ⟨hother, hstands'⟩
  · rintro (⟨hname, hbefore, hquoted⟩ | ⟨hnone, hquoted, hstands, hleast⟩)
    · exact .inl ⟨hquoted, _, _, hname, hbefore⟩
    · exact .inr ⟨hnone, ⟨hquoted, hstands⟩, fun other hother => hleast other hother.1 hother.2⟩

theorem choose?_eq_none_iff : choose? settings quotes = none ↔
    (∀ c ∈ settings.referenceCandidates, ¬IsQuoted quotes c) ∧
      ∀ name, IsQuoted quotes name → ¬StandsIn settings name := by
  unfold choose?
  rw [Option.or_eq_none_iff, find?_candidates_eq_none_iff, least?_eq_none_iff,
    List.eq_nil_iff_forall_not_mem]
  simp only [mem_perpetuals_iff, not_and]

theorem IsChoice.isQuoted (h : IsChoice settings quotes name) : IsQuoted quotes name := by
  cases h with
  | candidate _ _ hquoted => exact hquoted
  | perpetual _ hquoted _ _ => exact hquoted

theorem pointsOf_ne_nil (h : IsQuoted quotes name) : pointsOf quotes name ≠ [] := by
  obtain ⟨q, hq, hname⟩ := h
  refine List.ne_nil_of_mem (List.mem_map_of_mem (List.mem_filter.2 ⟨hq, ?_⟩))
  exact decide_eq_true hname

theorem select?_eq_some_iff {reference : Reference} : select? settings quotes = some reference ↔
    IsChoice settings quotes reference.instrument ∧
      reference.points = pointsOf quotes reference.instrument := by
  unfold select?
  rw [Option.map_eq_some_iff]
  constructor
  · rintro ⟨name, hname, rfl⟩
    exact ⟨choose?_eq_some_iff.1 hname, rfl⟩
  · rintro ⟨hchoice, hpoints⟩
    exact ⟨reference.instrument, choose?_eq_some_iff.2 hchoice, by rw [← hpoints]⟩

/-- **The choice of the reference obeys its priority.** It is the earliest candidate that is quoted, or
if there is none the least quoted perpetual, and there is no reference exactly if there is neither.
The prices are those of all its quotes, of whatever venue, in the order in which they came; there is
at least one. The order of the quotes makes no difference to the instrument. -/
theorem select?_obeys_priority (settings : AlignmentSettings) (quotes : List LabelledQuote) :
    (∀ reference, select? settings quotes = some reference ↔
      IsChoice settings quotes reference.instrument ∧
      reference.points = (quotes.filter (·.instrument = reference.instrument)).map fun q =>
        ⟨q.time, q.value.toFloat⟩) ∧
    (select? settings quotes = none ↔
      (∀ c ∈ settings.referenceCandidates, ¬IsQuoted quotes c) ∧
        ∀ name, IsQuoted quotes name → ¬StandsIn settings name) ∧
    (∀ reference ∈ select? settings quotes, reference.points ≠ []) ∧
    ∀ quotes', quotes.Perm quotes' →
      (select? settings quotes').map (·.instrument) =
        (select? settings quotes).map (·.instrument) := by
  refine ⟨fun reference => select?_eq_some_iff, ?none, ?nonempty, ?order⟩
  case none =>
    unfold select?
    rw [Option.map_eq_none_iff, choose?_eq_none_iff]
  case nonempty =>
    intro reference h
    obtain ⟨hchoice, hpoints⟩ := select?_eq_some_iff.1 h
    rw [hpoints]
    exact pointsOf_ne_nil hchoice.isQuoted
  case order =>
    intro quotes' hperm
    unfold select?
    rw [Option.map_map, Option.map_map,
      choose?_congr settings fun name => (hperm.map (·.instrument)).mem_iff]
    rfl

/-- Two perpetuals, the lesser of which two venues quote, and an instrument of another underlying. -/
theorem select?_obeys_priority_of_perpetuals :
    let settings : AlignmentSettings := { referenceCandidates := ["ETH-SPOT", "ETH-SPOT"] }
    let quote := fun time label instrument =>
      (⟨time, label, instrument, .ofFloat 2400.0⟩ : LabelledQuote)
    let quotes := [quote 3 (some "okx") "ETH-6JUN25_PERP", quote 2 (some "okx") "ETH-30MAY25_PERP",
      quote 0 none "BTC-PERPETUAL", quote 1 none "ETH-30MAY25_PERP"]
    quotes.Perm quotes.reverse ∧
    (∃ reference, select? settings quotes = some reference ∧
      reference.instrument = "ETH-30MAY25_PERP" ∧ reference.points.map (·.time) = [2, 1] ∧
      reference.points ≠ []) ∧
    (select? settings quotes.reverse).map (·.instrument) = some "ETH-30MAY25_PERP" := by
  intro settings quote quotes
  obtain ⟨-, -, hpoints, horder⟩ := select?_obeys_priority settings quotes
  have hselect : (select? settings quotes).map (fun r => (r.instrument, r.points.map (·.time))) =
      some ("ETH-30MAY25_PERP", [2, 1]) := by decide +kernel
  obtain ⟨reference, hreference, heq⟩ := Option.map_eq_some_iff.1 hselect
  obtain ⟨hinstrument, htimes⟩ := Prod.mk.inj heq
  have hperm : quotes.Perm quotes.reverse := (List.reverse_perm quotes).symm
  refine ⟨hperm, ⟨reference, hreference, hinstrument, htimes, hpoints reference hreference⟩, ?_⟩
  rw [horder quotes.reverse hperm, hreference, Option.map_some, hinstrument]

end TwoVenues.Reference

import TwoVenues.Quote
import TwoVenues.Settings.Basic

/-!
# The reference series

Venue B quotes in units of the underlying, so its values are converted by the price of the
underlying. The reference instrument is the first candidate that has quotes; failing that, the least
name among the quoted instruments that start with the underlying and contain the marker of
perpetuals. All its quotes count, whichever venue they come from.
-/

namespace TwoVenues

/-- The prices of the instrument that was chosen as reference. -/
structure Reference where
  instrument : String
  points : List PricePoint

namespace Reference

/-- Whether the characters of `part` stand next to each other somewhere in `text`. -/
def contains (part : List Char) : List Char → Bool
  | [] => part.isEmpty
  | c :: cs => part.isPrefixOf (c :: cs) || contains part cs

theorem contains_iff {part text : List Char} : contains part text ↔ part <:+: text := by
  induction text with
  | nil => simp [contains]
  | cons c cs ih => simp [contains, ih, List.infix_cons_iff, List.isPrefixOf_iff_prefix]

/-- Whether an instrument may stand in for the candidates. -/
def isPerpetual (settings : AlignmentSettings) (instrument : String) : Bool :=
  settings.referenceUnderlying.toList.isPrefixOf instrument.toList &&
    contains settings.perpetualMarker.toList instrument.toList

/-- The least of the given names in the order of code points. -/
def least? : List String → Option String
  | [] => none
  | name :: names =>
    match least? names with
    | none => some name
    | some other => some (if other < name then other else name)

def pointsOf (quotes : List LabelledQuote) (instrument : String) : List PricePoint :=
  (quotes.filter (·.instrument = instrument)).map fun q => ⟨q.time, q.value.toFloat⟩

def choose? (settings : AlignmentSettings) (quotes : List LabelledQuote) : Option String :=
  let names := quotes.map (·.instrument)
  (settings.referenceCandidates.find? fun name => names.contains name).or
    (least? (names.filter (isPerpetual settings)))

/-- The reference series, if any instrument qualifies. -/
def select? (settings : AlignmentSettings) (quotes : List LabelledQuote) : Option Reference :=
  (choose? settings quotes).map fun instrument => ⟨instrument, pointsOf quotes instrument⟩

end Reference

end TwoVenues

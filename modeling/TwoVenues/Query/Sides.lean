import TwoVenues.Fault
import TwoVenues.Quote
import TwoVenues.Settings.Basic

/-!
# Sides

The quotes of the data source are split between the venues by their labels. Quotes of other venues
are left out; a quote without any label is a fault, since it cannot be told whose it is.
-/

namespace TwoVenues

/-- The quotes of the two venues. -/
structure Sides where
  a : List Quote
  b : List Quote

/-- The quote as one of the given venue. -/
def LabelledQuote.atVenue (q : LabelledQuote) (venue : Venue) : Quote :=
  ⟨q.time, venue, q.instrument, q.value⟩

namespace Sides

/-- The quotes that the settings assign to a venue, in order. -/
def side (settings : AlignmentSettings) (quotes : List LabelledQuote) (venue : Venue) :
    List Quote :=
  quotes.filterMap fun q =>
    if q.label.bind settings.venue? = some venue then some (q.atVenue venue) else none

/-- The quotes split between the venues, or the fault of the first quote without a label. -/
def split (settings : AlignmentSettings) (quotes : List LabelledQuote) :
    Except SourceFault Sides :=
  match quotes.find? fun q => q.label.isNone with
  | some q => .error (.unlabelledVenue q.instrument)
  | none => .ok ⟨side settings quotes .a, side settings quotes .b⟩

end Sides

end TwoVenues

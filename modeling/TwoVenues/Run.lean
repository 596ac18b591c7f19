import TwoVenues.Comparison.Analysis
import TwoVenues.Comparison.Summary
import TwoVenues.Pairing.Alignment
import TwoVenues.Pairing.Returns
import TwoVenues.Query.Reference
import TwoVenues.Query.Response
import TwoVenues.Query.Sides

/-!
# A run

The whole way from quotes to ranked comparisons: `Run.ofQuotes` for quotes that are already split
between the venues, `Run.ofText` for a response of the data source. Only faults of the response
end a run; what is wrong with one instrument shows in its comparison or leaves it out.
-/

namespace TwoVenues

/-- What a run finds. -/
structure Run where
  /-- The observations that were compared: levels, or returns if the settings ask for them. -/
  observations : List Observation
  /-- The comparisons in the order of their rank. -/
  results : List Comparison
  summary : Summary
deriving DecidableEq

namespace Run

def observed (s : Settings) (sides : Sides) (reference : Option (List PricePoint)) :
    List Observation :=
  let levels := align sides.a sides.b reference
  if s.alignment.compareReturns then Returns.ofLevels levels else levels

def ofQuotes (s : Settings) (sides : Sides) (reference : Option (List PricePoint))
    (filter : Option String) : Run :=
  let observations := observed s sides reference
  let results := Comparison.rank (Comparison.ofObservations s.correlation filter observations)
  ⟨observations, results, Summary.ofComparisons results⟩

def reference? (s : Settings) (quotes : List LabelledQuote) : Option Reference :=
  if s.alignment.convertWithReference then Reference.select? s.alignment quotes else none

def ofLabelled (s : Settings) (quotes : List LabelledQuote) (filter : Option String) :
    Except SourceFault Run := do
  let sides ← Sides.split s.alignment quotes
  return ofQuotes s sides ((reference? s quotes).map (·.points)) filter

def ofResponse (s : Settings) (r : Response) (filter : Option String) :
    Except SourceFault Run := do
  ofLabelled s (← r.quotes) filter

/-- The run on a response that is written as a JSON text. -/
def ofText (s : Settings) (body : String) (filter : Option String) : Except Fault Run := do
  let r ← Response.ofText body
  (ofResponse s r filter).mapError .source

/-- The leads that the comparisons of a run show, at the level of the settings. -/
def leads (s : Settings) (r : Run) : List Lead :=
  r.results.map (·.lead s.correlation.significanceLevel)

end Run

end TwoVenues

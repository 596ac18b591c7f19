import TwoVenues.Double.Decimal
import TwoVenues.Fault
import TwoVenues.Json.Reader
import TwoVenues.Json.Record
import TwoVenues.Quote

/-!
# Responses of the data source

The data source answers a query with a status and a list of series; each series has labels and
values, a value being a time in seconds and a decimal text. `Response.quotes` lists the values of
all series in order, or gives the first fault on the way: a failed query, missing data, a series
without the name of its instrument, a time that is not finite, a value that is no decimal text.
-/

namespace TwoVenues

/-- A labelled series of values. -/
structure Series where
  /-- The labels; of two labels with one name the later counts. -/
  labels : List (String × String)
  /-- Times in seconds, and values as text. -/
  values : List (Float × String)

/-- The answer to a query. -/
structure Response where
  status : String
  data : Option (List Series)
  error : Option String

namespace Series

def label? (s : Series) (name : String) : Option String := s.labels.reverse.lookup name

/-- The value of a series at one time, as a quote of the given instrument and venue label. -/
def quote (instrument : String) (label : Option String) :
    Float × String → Except SourceFault LabelledQuote
  | (seconds, text) =>
    if !seconds.isFinite then .error (.badTime instrument)
    else match Double.ofText? text with
      | none => .error (.badValue text instrument)
      | some value => .ok ⟨millis seconds, label, instrument, value⟩

def quotes (s : Series) : Except SourceFault (List LabelledQuote) :=
  match s.label? "instrument" with
  | none => .error .unnamedSeries
  | some instrument => s.values.mapM (quote instrument (s.label? "exchange"))

end Series

namespace Response

def quotes (r : Response) : Except SourceFault (List LabelledQuote) :=
  if r.status ≠ "success" then .error (.failed r.status r.error)
  else match r.data with
    | none => .error .noData
    | some series => (series.mapM Series.quotes).map List.flatten

/-- A time in seconds and a value, as an array of two items. -/
def value? : Json → Option (Float × String) := Json.toPair? Json.toFloat? Json.toText?

/-- Labels, as an object whose fields are all texts. -/
def labels? : Json → Option (List (String × String))
  | .object fields => fields.mapM fun (name, j) => j.toText?.map (name, ·)
  | _ => none

def series? (j : Json) : Option Series := do
  match ← j.slots? ["metric", "values"] with
  | [labels, values] =>
    return ⟨← labels.orElse? labels? [], ← values.orElse? (Json.toList? value?) []⟩
  | _ => none

/-- The list of series in the data of a response. -/
def data? (j : Json) : Option (List Series) := do
  match ← j.slots? ["result"] with
  | [result] => result.orElse? (Json.toList? series?) []
  | _ => none

def ofJson? (j : Json) : Option Response := do
  match ← j.slots? ["status", "data", "error"] with
  | [status, data, error] =>
    return ⟨← status.required? Json.toText?, ← data.orElse? (Json.toOption? data?) none,
      ← error.orElse? (Json.toOption? Json.toText?) none⟩
  | _ => none

def ofText (body : String) : Except Fault Response :=
  match (Json.ofText? body).bind ofJson? with
  | some r => .ok r
  | none => .error .badJson

end Response

/-- The quotes in a response that is written as a JSON text. -/
def Response.quotesOfText (body : String) : Except Fault (List LabelledQuote) := do
  let r ← Response.ofText body
  r.quotes.mapError .source

end TwoVenues

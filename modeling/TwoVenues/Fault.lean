import TwoVenues.Text.Quoted

/-!
# Faults

Everything that can go wrong, by cause. `Fault.message` words a cause in one place; `Fault.kind`
sorts causes into five kinds, and `FaultKind.isFatal` tells those that end a run from those that
only leave out one instrument.
-/

namespace TwoVenues

/-- What makes settings unusable. -/
inductive SettingsFault where
  | blankVenueLabel
  | sharedVenueLabel (label : String)
  | fewSamples
  | smallOverlap
  | noLagDivisor
  | significanceLevel
  | smallWindow
  | tolerance
  | clusterCorrelation
  | clusterPValue
  | bandWidth
deriving DecidableEq

/-- What makes a response of the data source unusable. -/
inductive SourceFault where
  /-- The query itself failed, with this status and perhaps a reason. -/
  | failed (status : String) (reason : Option String)
  | noData
  | unnamedSeries
  /-- A time in this instrument's series is not finite. -/
  | badTime (instrument : String)
  /-- A value in this instrument's series is no decimal text. -/
  | badValue (text instrument : String)
  /-- A sample of this instrument does not say which venue it comes from. -/
  | unlabelledVenue (instrument : String)
deriving DecidableEq

/-- What can go wrong. -/
inductive Fault where
  | settings (cause : SettingsFault)
  | source (cause : SourceFault)
  | fewObservations (instrument : String) (present needed : Nat)
  | notAContract (name : String)
  | badJson
deriving DecidableEq

/-- The kinds of faults. -/
inductive FaultKind where
  | settings
  | source
  | insufficientData
  | naming
  | json
deriving DecidableEq

namespace FaultKind

/-- The words in front of a message of this kind. -/
def headline : FaultKind → String
  | settings => "Configuration error: "
  | source => "Upstream data error: "
  | insufficientData => "Insufficient data: "
  | naming => "Parse error: "
  | json => "JSON error: "

/-- Whether a fault of this kind ends the whole run. -/
def isFatal : FaultKind → Bool
  | settings | source | json => true
  | insufficientData | naming => false

end FaultKind

def SettingsFault.text : SettingsFault → String
  | blankVenueLabel => "exchange labels must not be empty"
  | sharedVenueLabel label => "exchange labels must differ (both are " ++ Text.quoted label ++ ")"
  | fewSamples => "correlation.min_samples must be at least 2"
  | smallOverlap => "correlation.min_overlap must be at least 3"
  | noLagDivisor => "correlation.lag_divisor must be positive"
  | significanceLevel => "correlation.significance_level must be in [0, 1]"
  | smallWindow => "correlation.rolling_window must be at least 3"
  | tolerance => "presence.tolerance must be non-negative"
  | clusterCorrelation => "presence.cluster_min_correlation must be in [-1, 1]"
  | clusterPValue => "presence.cluster_max_p_value must be in [0, 1]"
  | bandWidth => "presence.band_width_pct must be positive"

def SourceFault.text : SourceFault → String
  | failed status reason =>
    "query failed with status " ++ Text.quoted status ++ ": " ++ reason.getD "no error message"
  | noData => "successful response without data"
  | unnamedSeries => "series without instrument label"
  | badTime instrument => "non-finite timestamp in series " ++ instrument
  | badValue text instrument =>
    "unparseable value " ++ Text.quoted text ++ " in series " ++ instrument
  | unlabelledVenue instrument => "series " ++ instrument ++ " has no exchange label"

namespace Fault

def kind : Fault → FaultKind
  | settings _ => .settings
  | source _ => .source
  | fewObservations .. => .insufficientData
  | notAContract _ => .naming
  | badJson => .json

/-- The wording of a fault without its headline. -/
def text : Fault → String
  | settings cause => cause.text
  | source cause => cause.text
  | fewObservations instrument present needed =>
    instrument ++ ": " ++ Nat.repr present ++ " paired observations, need " ++ Nat.repr needed
  | notAContract name => "not an option instrument: " ++ Text.quoted name
  | badJson => "not JSON of the expected form"

def message (f : Fault) : String := f.kind.headline ++ f.text

def isFatal (f : Fault) : Bool := f.kind.isFatal

end Fault

end TwoVenues

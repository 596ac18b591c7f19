import TwoVenues.Comparison.Basic
import TwoVenues.Grouping
import TwoVenues.Lag.Scan
import TwoVenues.Pairing.Observation

/-!
# Analysing observations

`Comparison.ofSeries` compares two series of values of one instrument; it needs a least number of
observations. `Comparison.ofObservations` does so for every instrument of a batch that has enough,
so that what one instrument lacks is no fault of the batch. `Comparison.rolling` follows the
correlation of one instrument through time.
-/

namespace TwoVenues

namespace Comparison

def ofEqualSeries (s : CorrelationSettings) (instrument : String) (as bs : List Float) :
    Comparison :=
  let diffs := as.zipWith (fun a b => a - b) bs
  let percents := as.zipWith (fun a b => (a - b) / b * 100.0) bs
  let together := Statistics.pearson as bs
  let best := (Lag.best? (Lag.scan s as bs)).getD ⟨0, Double.nan, Double.nan, as.length⟩
  { instrument
    n := as.length
    correlation := together.r
    pValue := together.p
    meanDiff := Statistics.mean diffs
    stdDiff := Statistics.deviation diffs
    meanPctDiff := Statistics.mean percents
    bestLag := best.lag
    bestLagCorrelation := best.correlation
    bestLagPValue := best.pValue
    meanA := Statistics.mean as
    meanB := Statistics.mean bs
    stdA := Statistics.deviation as
    stdB := Statistics.deviation bs }

/-- The comparison of two series, which are cut to the shorter length, or the fault that this is
less than the settings ask for. -/
def ofSeries (s : CorrelationSettings) (instrument : String) (as bs : List Float) :
    Except Fault Comparison :=
  let n := min as.length bs.length
  if n < s.minSamples then .error (.fewObservations instrument n s.minSamples)
  else .ok (ofEqualSeries s instrument (as.take n) (bs.take n))

def passing (filter : Option String) (rows : List Observation) : List Observation :=
  rows.filter fun o => filter.all (· = o.instrument)

/-- The observations of each instrument in order of time, instruments ascending. -/
def groups (filter : Option String) (rows : List Observation) :
    List (String × List Observation) :=
  (groupsBy (·.instrument) (passing filter rows)).map fun (instrument, group) =>
    (instrument, Observation.byTime group)

def ofGroup (s : CorrelationSettings) (instrument : String) (group : List Observation) :
    Except Fault Comparison :=
  ofSeries s instrument (group.map (·.valueA)) (group.map (·.valueB))

/-- The comparisons of all instruments that have enough observations, instruments ascending. -/
def ofObservations (s : CorrelationSettings) (filter : Option String)
    (rows : List Observation) : List Comparison :=
  (groups filter rows).filterMap fun (instrument, group) => (ofGroup s instrument group).toOption

end Comparison

/-- The correlation over the window that ends at a time. -/
structure RollingPoint where
  time : Time
  correlation : Float
deriving DecidableEq

/-- The correlation of one instrument over each full window, stamped with the time of the window's
last observation; none unless there are more observations than a window holds. -/
def Comparison.rolling (s : CorrelationSettings) (instrument : String)
    (rows : List Observation) : List RollingPoint :=
  let group := Observation.byTime (rows.filter (·.instrument = instrument))
  if group.length ≤ s.rollingWindow then []
  else
    let correlations := Statistics.rolling (group.map (·.valueA)) (group.map (·.valueB))
      s.rollingWindow
    ((group.zip correlations).drop (s.rollingWindow - 1)).map fun (o, r) => ⟨o.time, r⟩

end TwoVenues

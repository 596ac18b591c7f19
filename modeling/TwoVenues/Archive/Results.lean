import TwoVenues.Archive.Quotes
import TwoVenues.Run

/-!
# Results in JSON

Comparisons, leads, entries of a lag scan, rolling correlations, summaries and whole runs, each with
the form that is written (`toJson`) and the reader of that form (`ofJson?`).
-/

namespace TwoVenues

open Json (toFloat? toInt64? toCount? toText? toList?)

namespace Lead

def toJson : Lead → Json
  | venueA k => .object [("ALeads", .ofNat k)]
  | venueB k => .object [("BLeads", .ofNat k)]
  | synchronous => .string "Synchronous"
  | notSignificant => .string "NotSignificant"

def ofJson? : Json → Option Lead
  | .object [("ALeads", k)] => k.toCount?.map venueA
  | .object [("BLeads", k)] => k.toCount?.map venueB
  | j => do
    match ← j.variant? with
    | "Synchronous" => return synchronous
    | "NotSignificant" => return notSignificant
    | _ => none

end Lead

namespace LagEntry

def toJson (e : LagEntry) : Json := .object [
  ("lag", .int e.lag),
  ("correlation", .ofFloat e.correlation),
  ("p_value", .ofFloat e.pValue),
  ("overlap", .ofNat e.overlap)]

def ofJson? (j : Json) : Option LagEntry := do
  match ← j.slots? ["lag", "correlation", "p_value", "overlap"] with
  | [lag, correlation, pValue, overlap] =>
    return ⟨← lag.required? toInt64?, ← correlation.required? toFloat?,
      ← pValue.required? toFloat?, ← overlap.required? toCount?⟩
  | _ => none

end LagEntry

namespace Comparison

def toJson (c : Comparison) : Json := .object [
  ("instrument", .string c.instrument),
  ("n", .ofNat c.n),
  ("correlation", .ofFloat c.correlation),
  ("p_value", .ofFloat c.pValue),
  ("mean_diff", .ofFloat c.meanDiff),
  ("std_diff", .ofFloat c.stdDiff),
  ("mean_pct_diff", .ofFloat c.meanPctDiff),
  ("best_lag", .int c.bestLag),
  ("best_lag_correlation", .ofFloat c.bestLagCorrelation),
  ("best_lag_p_value", .ofFloat c.bestLagPValue),
  ("mean_a", .ofFloat c.meanA),
  ("mean_b", .ofFloat c.meanB),
  ("std_a", .ofFloat c.stdA),
  ("std_b", .ofFloat c.stdB)]

def ofJson? (j : Json) : Option Comparison := do
  match ← j.slots? ["instrument", "n", "correlation", "p_value", "mean_diff", "std_diff",
      "mean_pct_diff", "best_lag", "best_lag_correlation", "best_lag_p_value", "mean_a", "mean_b",
      "std_a", "std_b"] with
  | [instrument, n, correlation, pValue, meanDiff, stdDiff, meanPctDiff, bestLag,
      bestLagCorrelation, bestLagPValue, meanA, meanB, stdA, stdB] =>
    return {
      instrument := ← instrument.required? toText?
      n := ← n.required? toCount?
      correlation := ← correlation.required? toFloat?
      pValue := ← pValue.required? toFloat?
      meanDiff := ← meanDiff.required? toFloat?
      stdDiff := ← stdDiff.required? toFloat?
      meanPctDiff := ← meanPctDiff.required? toFloat?
      bestLag := ← bestLag.required? toInt64?
      bestLagCorrelation := ← bestLagCorrelation.required? toFloat?
      bestLagPValue := ← bestLagPValue.required? toFloat?
      meanA := ← meanA.required? toFloat?
      meanB := ← meanB.required? toFloat?
      stdA := ← stdA.required? toFloat?
      stdB := ← stdB.required? toFloat? }
  | _ => none

end Comparison

namespace RollingPoint

def toJson (p : RollingPoint) : Json := .object [
  ("ts_ms", .int p.time),
  ("correlation", .ofFloat p.correlation)]

def ofJson? (j : Json) : Option RollingPoint := do
  match ← j.slots? ["ts_ms", "correlation"] with
  | [time, correlation] => return ⟨← time.required? toInt64?, ← correlation.required? toFloat?⟩
  | _ => none

end RollingPoint

namespace Summary

def toJson (s : Summary) : Json := .object [
  ("instruments", .ofNat s.instruments),
  ("avg_correlation", .ofFloat s.avgCorrelation),
  ("above_0_90", .ofNat s.above90),
  ("above_0_95", .ofNat s.above95),
  ("avg_abs_mean_diff", .ofFloat s.avgAbsMeanDiff),
  ("avg_abs_pct_diff", .ofFloat s.avgAbsPctDiff)]

def ofJson? (j : Json) : Option Summary := do
  match ← j.slots? ["instruments", "avg_correlation", "above_0_90", "above_0_95",
      "avg_abs_mean_diff", "avg_abs_pct_diff"] with
  | [instruments, avgCorrelation, above90, above95, avgAbsMeanDiff, avgAbsPctDiff] =>
    return {
      instruments := ← instruments.required? toCount?
      avgCorrelation := ← avgCorrelation.required? toFloat?
      above90 := ← above90.required? toCount?
      above95 := ← above95.required? toCount?
      avgAbsMeanDiff := ← avgAbsMeanDiff.required? toFloat?
      avgAbsPctDiff := ← avgAbsPctDiff.required? toFloat? }
  | _ => none

end Summary

namespace Run

def toJson (r : Run) : Json := .object [
  ("observations", .ofList Observation.toJson r.observations),
  ("results", .ofList Comparison.toJson r.results),
  ("summary", r.summary.toJson)]

def ofJson? (j : Json) : Option Run := do
  match ← j.slots? ["observations", "results", "summary"] with
  | [observations, results, summary] =>
    return ⟨← observations.required? (toList? Observation.ofJson?),
      ← results.required? (toList? Comparison.ofJson?), ← summary.required? Summary.ofJson?⟩
  | _ => none

end Run

end TwoVenues

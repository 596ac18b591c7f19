import TwoVenues.Json.Reader
import TwoVenues.Json.Record
import TwoVenues.Settings.Basic

/-!
# Settings in JSON

Every setting has a default, so each may be left out when settings are read (`ofJson?`).
`Settings.ofText` reads settings and admits only those without a fault.
-/

namespace TwoVenues

open Json (toFloat? toCount? toBool? toText? toList?)

namespace AlignmentSettings

def toJson (s : AlignmentSettings) : Json := .object [
  ("exchange_a_label", .string s.labelA),
  ("exchange_b_label", .string s.labelB),
  ("convert_with_reference", .bool s.convertWithReference),
  ("reference_candidates", .ofList .string s.referenceCandidates),
  ("reference_underlying", .string s.referenceUnderlying),
  ("perpetual_marker", .string s.perpetualMarker),
  ("compare_returns", .bool s.compareReturns)]

def ofJson? (j : Json) : Option AlignmentSettings := do
  let d : AlignmentSettings := {}
  match ← j.slots? ["exchange_a_label", "exchange_b_label", "convert_with_reference",
      "reference_candidates", "reference_underlying", "perpetual_marker", "compare_returns"] with
  | [labelA, labelB, convert, candidates, underlying, marker, returns] =>
    return {
      labelA := ← labelA.orElse? toText? d.labelA
      labelB := ← labelB.orElse? toText? d.labelB
      convertWithReference := ← convert.orElse? toBool? d.convertWithReference
      referenceCandidates := ← candidates.orElse? (toList? toText?) d.referenceCandidates
      referenceUnderlying := ← underlying.orElse? toText? d.referenceUnderlying
      perpetualMarker := ← marker.orElse? toText? d.perpetualMarker
      compareReturns := ← returns.orElse? toBool? d.compareReturns }
  | _ => none

end AlignmentSettings

namespace CorrelationSettings

def toJson (s : CorrelationSettings) : Json := .object [
  ("min_samples", .ofNat s.minSamples),
  ("max_lag_cap", .ofNat s.maxLagCap),
  ("lag_divisor", .ofNat s.lagDivisor),
  ("min_overlap", .ofNat s.minOverlap),
  ("significance_level", .ofFloat s.significanceLevel),
  ("rolling_window", .ofNat s.rollingWindow)]

def ofJson? (j : Json) : Option CorrelationSettings := do
  let d : CorrelationSettings := {}
  match ← j.slots? ["min_samples", "max_lag_cap", "lag_divisor", "min_overlap",
      "significance_level", "rolling_window"] with
  | [samples, cap, divisor, overlap, level, window] =>
    return {
      minSamples := ← samples.orElse? toCount? d.minSamples
      maxLagCap := ← cap.orElse? toCount? d.maxLagCap
      lagDivisor := ← divisor.orElse? toCount? d.lagDivisor
      minOverlap := ← overlap.orElse? toCount? d.minOverlap
      significanceLevel := ← level.orElse? toFloat? d.significanceLevel
      rollingWindow := ← window.orElse? toCount? d.rollingWindow }
  | _ => none

end CorrelationSettings

namespace PresenceSettings

def toJson (s : PresenceSettings) : Json := .object [
  ("tolerance", .ofFloat s.tolerance),
  ("cluster_min_correlation", .ofFloat s.clusterMinCorrelation),
  ("cluster_max_p_value", .ofFloat s.clusterMaxPValue),
  ("band_width_pct", .ofFloat s.bandWidthPct)]

def ofJson? (j : Json) : Option PresenceSettings := do
  let d : PresenceSettings := {}
  match ← j.slots? ["tolerance", "cluster_min_correlation", "cluster_max_p_value",
      "band_width_pct"] with
  | [tolerance, correlation, pValue, width] =>
    return {
      tolerance := ← tolerance.orElse? toFloat? d.tolerance
      clusterMinCorrelation := ← correlation.orElse? toFloat? d.clusterMinCorrelation
      clusterMaxPValue := ← pValue.orElse? toFloat? d.clusterMaxPValue
      bandWidthPct := ← width.orElse? toFloat? d.bandWidthPct }
  | _ => none

end PresenceSettings

namespace Settings

def toJson (s : Settings) : Json := .object [
  ("alignment", s.alignment.toJson),
  ("correlation", s.correlation.toJson),
  ("presence", s.presence.toJson)]

/-- Reads settings, whether they are admitted or not. -/
def ofJson? (j : Json) : Option Settings := do
  match ← j.slots? ["alignment", "correlation", "presence"] with
  | [alignment, correlation, presence] =>
    return {
      alignment := ← alignment.orElse? AlignmentSettings.ofJson? {}
      correlation := ← correlation.orElse? CorrelationSettings.ofJson? {}
      presence := ← presence.orElse? PresenceSettings.ofJson? {} }
  | _ => none

/-- The settings that a JSON text gives, if they are admitted. -/
def ofText (text : String) : Except Fault Settings :=
  match (Json.ofText? text).bind ofJson? with
  | some s => s.check
  | none => .error .badJson

end Settings

end TwoVenues

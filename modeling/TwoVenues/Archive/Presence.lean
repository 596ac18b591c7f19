import TwoVenues.Json.Record
import TwoVenues.Presence.Report

/-!
# Presence in JSON

Levels of the book, sightings, the presence matrix, bands and the presence report, each with the
form that is written (`toJson`) and the reader of that form (`ofJson?`).
-/

namespace TwoVenues

open Json (toFloat? toInt64? toCount? toBool? toList? toPair?)

def Size.toJson (size : Size) : Json := .ofFloat size.toFloat

def Size.ofJson? (j : Json) : Option Size := (toFloat? j).map .ofFloat

namespace BookLevel

def toJson (l : BookLevel) : Json := .object [
  ("ts_ms", .int l.time),
  ("size", .ofFloat l.size),
  ("quantity", .ofFloat l.quantity)]

def ofJson? (j : Json) : Option BookLevel := do
  match ← j.slots? ["ts_ms", "size", "quantity"] with
  | [time, size, quantity] =>
    return ⟨← time.required? toInt64?, ← size.required? toFloat?, ← quantity.required? toFloat?⟩
  | _ => none

end BookLevel

namespace Sighting

def toJson (s : Sighting) : Json := .object [
  ("size", s.size.toJson),
  ("ts_ms", .int s.time),
  ("present", .bool s.present)]

def ofJson? (j : Json) : Option Sighting := do
  match ← j.slots? ["size", "ts_ms", "present"] with
  | [size, time, present] =>
    return ⟨← size.required? Size.ofJson?, ← time.required? toInt64?, ← present.required? toBool?⟩
  | _ => none

end Sighting

namespace SizeStats

def toJson (s : SizeStats) : Json := .object [
  ("size", s.size.toJson),
  ("presence_fraction", .ofFloat s.presenceFraction),
  ("present_count", .ofNat s.presentCount),
  ("total_count", .ofNat s.totalCount)]

def ofJson? (j : Json) : Option SizeStats := do
  match ← j.slots? ["size", "presence_fraction", "present_count", "total_count"] with
  | [size, fraction, present, total] =>
    return ⟨← size.required? Size.ofJson?, ← fraction.required? toFloat?,
      ← present.required? toCount?, ← total.required? toCount?⟩
  | _ => none

end SizeStats

namespace SizeCorrelation

def toJson (c : SizeCorrelation) : Json := .object [
  ("size_1", c.size1.toJson),
  ("size_2", c.size2.toJson),
  ("correlation", .ofFloat c.correlation),
  ("p_value", .ofFloat c.pValue)]

def ofJson? (j : Json) : Option SizeCorrelation := do
  match ← j.slots? ["size_1", "size_2", "correlation", "p_value"] with
  | [size1, size2, correlation, pValue] =>
    return ⟨← size1.required? Size.ofJson?, ← size2.required? Size.ofJson?,
      ← correlation.required? toFloat?, ← pValue.required? toFloat?⟩
  | _ => none

end SizeCorrelation

namespace CoOccurrence

def toJson (c : CoOccurrence) : Json := .object [
  ("size_1", c.size1.toJson),
  ("size_2", c.size2.toJson),
  ("co_occurrence_rate", .ofFloat c.rate),
  ("both_present", .ofNat c.bothPresent),
  ("either_present", .ofNat c.eitherPresent)]

def ofJson? (j : Json) : Option CoOccurrence := do
  match ← j.slots? ["size_1", "size_2", "co_occurrence_rate", "both_present",
      "either_present"] with
  | [size1, size2, rate, both, either] =>
    return ⟨← size1.required? Size.ofJson?, ← size2.required? Size.ofJson?, ← rate.required? toFloat?,
      ← both.required? toCount?, ← either.required? toCount?⟩
  | _ => none

end CoOccurrence

namespace SizeGroup

def toJson (g : SizeGroup) : Json := .object [
  ("sizes", .ofList Size.toJson g.sizes),
  ("avg_presence_fraction", .ofFloat g.avgPresenceFraction)]

def ofJson? (j : Json) : Option SizeGroup := do
  match ← j.slots? ["sizes", "avg_presence_fraction"] with
  | [sizes, fraction] =>
    return ⟨← sizes.required? (toList? Size.ofJson?), ← fraction.required? toFloat?⟩
  | _ => none

end SizeGroup

namespace Band

/-- A band in JSON; a member is a pair of size and percentage. -/
def toJson (b : Band) : Json := .object [
  ("band_pct", .ofFloat b.centrePct),
  ("sizes", .ofList (fun (size, pct) => .array [size.toJson, .ofFloat pct]) b.sizes)]

def ofJson? (j : Json) : Option Band := do
  match ← j.slots? ["band_pct", "sizes"] with
  | [centre, sizes] =>
    return ⟨← centre.required? toFloat?, ← sizes.required? (toList? (toPair? Size.ofJson? toFloat?))⟩
  | _ => none

end Band

namespace PresenceMatrix

def toJson (m : PresenceMatrix) : Json := .object [
  ("timestamps", .ofList .int m.times),
  ("sizes", .ofList Size.toJson m.sizes),
  ("rows", .ofList (.ofList .bool) m.rows)]

def ofJson? (j : Json) : Option PresenceMatrix := do
  match ← j.slots? ["timestamps", "sizes", "rows"] with
  | [times, sizes, rows] =>
    return ⟨← times.required? (toList? toInt64?), ← sizes.required? (toList? Size.ofJson?),
      ← rows.required? (toList? (toList? toBool?))⟩
  | _ => none

end PresenceMatrix

namespace PresenceReport

def toJson (r : PresenceReport) : Json := .object [
  ("stats", .ofList SizeStats.toJson r.stats),
  ("correlations", .ofList SizeCorrelation.toJson r.correlations),
  ("co_occurrences", .ofList CoOccurrence.toJson r.coOccurrences),
  ("groups", .ofList SizeGroup.toJson r.groups)]

def ofJson? (j : Json) : Option PresenceReport := do
  match ← j.slots? ["stats", "correlations", "co_occurrences", "groups"] with
  | [stats, correlations, coOccurrences, groups] =>
    return ⟨← stats.required? (toList? SizeStats.ofJson?),
      ← correlations.required? (toList? SizeCorrelation.ofJson?),
      ← coOccurrences.required? (toList? CoOccurrence.ofJson?),
      ← groups.required? (toList? SizeGroup.ofJson?)⟩
  | _ => none

end PresenceReport

end TwoVenues

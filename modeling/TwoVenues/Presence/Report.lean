import TwoVenues.Clusters.Groups
import TwoVenues.Presence.Matrix
import TwoVenues.Statistics.Pearson

/-!
# The presence report

From the presence matrix: how often each size was present, how the presence of each pair of sizes
correlates and coincides, and the groups that the sizes form. Pairs are listed with the first size
ascending and then the second.
-/

namespace TwoVenues

/-- The tables of presence for one book. -/
structure PresenceReport where
  stats : List SizeStats
  correlations : List SizeCorrelation
  coOccurrences : List CoOccurrence
  groups : List SizeGroup
deriving DecidableEq

/-- All pairs of a member of a list with a later one. -/
def laterPairs {α : Type} : List α → List (α × α)
  | [] => []
  | x :: xs => xs.map (x, ·) ++ laterPairs xs

/-- A size with its row of the presence matrix. -/
abbrev PresenceRow := Size × List Bool

namespace PresenceRow

/-- How often the size of a row was present at the given number of times. -/
def stats (total : Nat) : PresenceRow → SizeStats
  | (size, row) =>
    let count := row.countP id
    let fraction := if total > 0 then Float.ofNat count / Float.ofNat total else 0.0
    ⟨size, fraction, count, total⟩

/-- A row as a series of numbers, one for presence and zero for absence. -/
def toNumbers (row : List Bool) : List Float := row.map fun p => if p then 1.0 else 0.0

def correlation : PresenceRow × PresenceRow → SizeCorrelation
  | ((size1, row1), (size2, row2)) =>
    let c := Statistics.pearson (toNumbers row1) (toNumbers row2)
    ⟨size1, size2, c.r, c.p⟩

def coOccurrence : PresenceRow × PresenceRow → CoOccurrence
  | ((size1, row1), (size2, row2)) =>
    let both := (row1.zip row2).countP fun (x, y) => x && y
    let either := (row1.zip row2).countP fun (x, y) => x || y
    let rate := if either > 0 then Float.ofNat both / Float.ofNat either else 0.0
    ⟨size1, size2, rate, both, either⟩

end PresenceRow

namespace PresenceReport

def ofMatrix (s : PresenceSettings) (m : PresenceMatrix) : PresenceReport :=
  let rows := m.sizes.zip m.rows
  let stats := rows.map (PresenceRow.stats m.times.length)
  let correlations := (laterPairs rows).map PresenceRow.correlation
  { stats
    correlations
    coOccurrences := (laterPairs rows).map PresenceRow.coOccurrence
    groups := SizeGroup.ofStats stats correlations s.clusterMinCorrelation s.clusterMaxPValue }

def ofSeries (s : PresenceSettings) (series : PresenceSeries) : PresenceReport :=
  ofMatrix s (PresenceMatrix.ofSeries series)

/-- The report on the levels of a book, for the sizes that are followed. -/
def ofLevels (s : PresenceSettings) (targets : List Size) (levels : List BookLevel) :
    PresenceReport :=
  ofSeries s (PresenceSeries.ofLevels s targets levels)

end PresenceReport

end TwoVenues

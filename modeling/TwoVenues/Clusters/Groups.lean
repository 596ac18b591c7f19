import TwoVenues.Clusters.DisjointSets
import TwoVenues.Grouping
import TwoVenues.Presence.Basic
import TwoVenues.Sorting
import TwoVenues.Statistics.Descriptive

/-!
# Groups of sizes

Two sizes are linked if their presence correlates strongly and significantly, and a group holds all
sizes that are joined by a chain of links. A size without links is a group of its own. Members are
ascending, and groups are ordered by their least member.
-/

namespace TwoVenues

def SizeCorrelation.isLink (pair : SizeCorrelation) (minCorrelation maxPValue : Float) : Bool :=
  pair.correlation > minCorrelation && pair.pValue < maxPValue

namespace SizeGroup

/-- The place of a size among the statistics, the last one if the size is there several times. -/
def place? (stats : List SizeStats) (size : Size) : Option (Fin stats.length) :=
  (List.finRange stats.length).reverse.find? fun i =>
    stats[i].size.valueKey = size.valueKey

/-- Joins the sets of two linked sizes, if both are among the statistics. -/
def join (stats : List SizeStats) (sets : DisjointSets stats.length) (pair : SizeCorrelation) :
    DisjointSets stats.length :=
  match place? stats pair.size1, place? stats pair.size2 with
  | some i, some j => (sets.union i j).2
  | _, _ => sets

/-- The places of the statistics, divided into sets by the links between their sizes. -/
def sets (stats : List SizeStats) (links : List SizeCorrelation) : DisjointSets stats.length :=
  links.foldl (join stats) (DisjointSets.singletons stats.length)

def ofMembers (members : List SizeStats) : SizeGroup where
  sizes := sortBy Double.Signed.totalLe (members.map (·.size))
  avgPresenceFraction :=
    Statistics.sum (members.map (·.presenceFraction)) / Float.ofNat members.length

/-- Whether one group may stand before another: by their least members. -/
def standsBefore (g h : SizeGroup) : Bool :=
  match g.sizes, h.sizes with
  | x :: _, y :: _ => x.totalLe y
  | _, _ => true

def ofStats (stats : List SizeStats) (pairs : List SizeCorrelation)
    (minCorrelation maxPValue : Float) : List SizeGroup :=
  let sets := sets stats (pairs.filter (·.isLink minCorrelation maxPValue))
  let components := groupsBy sets.root (List.finRange stats.length)
  sortBy standsBefore (components.map fun (_, places) => ofMembers (places.map stats.get))

end SizeGroup

end TwoVenues

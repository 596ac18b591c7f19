import TwoVenues.Grouping
import TwoVenues.Presence.Series

/-!
# The presence matrix

Rows are sizes and columns are the times at which any size was sighted. A size that was not
sighted at one of these times counts as absent.
-/

namespace TwoVenues

/-- The presence of sizes over times. -/
structure PresenceMatrix where
  /-- The times at which any size was sighted, ascending. -/
  times : List Time
  sizes : List Size
  /-- For each size and each time, whether it was present. -/
  rows : List (List Bool)
deriving DecidableEq

namespace PresenceMatrix

/-- Whether some sighting at a time is one of presence. -/
def presentAt (sightings : List Sighting) (time : Time) : Bool :=
  sightings.any fun s => s.present && s.time = time

def ofSeries (series : PresenceSeries) : PresenceMatrix :=
  let times := sortedKeys (series.values.flatten.map (·.time))
  { times
    sizes := series.sizes
    rows := series.values.map fun sightings => times.map (presentAt sightings) }

end PresenceMatrix

end TwoVenues

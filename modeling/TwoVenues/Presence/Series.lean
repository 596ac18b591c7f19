import TwoVenues.Grouping
import TwoVenues.Presence.Basic
import TwoVenues.Presence.SizeMap
import TwoVenues.Settings.Basic

/-!
# Following sizes through the book

A level of the book matches a size if it is equal to it or within the tolerance on either side,
the ends left out. A size is sighted at every time at which a level matches it, and it is present
then if some matching level rests with a positive quantity.
-/

namespace TwoVenues

/-- Whether a size in the book counts as the size that is followed. -/
def PresenceSettings.isMatch (s : PresenceSettings) (size target : Float) : Bool :=
  size == target || (size > target - s.tolerance && size < target + s.tolerance)

/-- The sightings of the sizes that are followed. -/
abbrev PresenceSeries := SizeMap (List Sighting)

namespace PresenceSeries

/-- The sightings of one size in the levels of the book, in order of time. -/
def sightings (s : PresenceSettings) (levels : List BookLevel) (target : Size) : List Sighting :=
  let matching := levels.filter fun l => s.isMatch l.size target.toFloat
  (groupsBy (·.time) matching).map fun (time, group) =>
    ⟨target, time, group.any (·.quantity > 0.0)⟩

/-- The sightings of all sizes that are followed; a size that never matches has none. -/
def ofLevels (s : PresenceSettings) (targets : List Size) (levels : List BookLevel) :
    PresenceSeries :=
  SizeMap.ofList (targets.map fun target => (target, sightings s levels target))

end PresenceSeries

end TwoVenues

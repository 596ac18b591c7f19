import TwoVenues.Double.Integral
import TwoVenues.Double.Order
import TwoVenues.Grouping
import TwoVenues.Presence.Basic
import TwoVenues.Settings.Basic

/-!
# Bands of presence

Sizes whose percentages of presence round to the same multiple of the band width share a band. Bands
of more than one size are listed, the highest first. A half rounds to the even multiple.
-/

namespace TwoVenues.Band

def percent (s : SizeStats) : Float := s.presenceFraction * 100.0

/-- The centre of the band that a percentage falls in. -/
def centre (width pct : Float) : Float := Double.roundEven (pct / width) * width

/-- The band of the given members. Its centre is written as the first member's. -/
def ofMembers (width : Float) : List SizeStats → Option Band
  | first :: second :: rest =>
    some ⟨centre width (percent first),
      (first :: second :: rest).map fun s => (s.size, percent s)⟩
  | _ => none

/-- The bands that hold more than one size. -/
def ofStats (settings : PresenceSettings) (stats : List SizeStats) : List Band :=
  let width := settings.bandWidthPct
  let groups := groupsBy (fun s => Double.valueKey (centre width (percent s))) stats
  groups.reverse.filterMap fun (_, members) => ofMembers width members

end TwoVenues.Band

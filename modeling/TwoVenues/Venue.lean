/-!
# The two venues

Prices of the same option contracts are quoted at two venues, `a` and `b`.
-/

namespace TwoVenues

/-- One of the two venues that are compared. -/
inductive Venue where
  /-- The venue that writes expiry dates as digits, and whose prices need no conversion. -/
  | a
  /-- The venue that writes expiry dates with the code of the month. -/
  | b
deriving DecidableEq

end TwoVenues

import TwoVenues.Quote

/-!
# Order sizes in the book

Those who make markets tend to quote orders of recognisable sizes. The records here say when a size
rests in the book of one instrument, how often, and how the presence of one size goes with that of
another.
-/

namespace TwoVenues

/-- A size that is followed. -/
abbrev Size := Double.Signed

/-- A level of the book as it was observed at a time. -/
structure BookLevel where
  time : Time
  size : Float
  quantity : Float
deriving DecidableEq

/-- Whether a size that is followed was present at a time. -/
structure Sighting where
  size : Size
  time : Time
  present : Bool
deriving DecidableEq

/-- How often a size was present. -/
structure SizeStats where
  size : Size
  /-- The fraction of all times at which the size was present. -/
  presenceFraction : Float
  presentCount : Nat
  totalCount : Nat
deriving DecidableEq

/-- How the presence of two sizes correlates. -/
structure SizeCorrelation where
  size1 : Size
  size2 : Size
  correlation : Float
  pValue : Float
deriving DecidableEq

/-- How often two sizes were present together. -/
structure CoOccurrence where
  size1 : Size
  size2 : Size
  /-- `bothPresent / eitherPresent`, or zero if neither was ever present. -/
  rate : Float
  bothPresent : Nat
  eitherPresent : Nat
deriving DecidableEq

/-- Sizes that seem to be quoted by one maker of markets. -/
structure SizeGroup where
  /-- The members, ascending. -/
  sizes : List Size
  avgPresenceFraction : Float
deriving DecidableEq

/-- Sizes that are present about equally often. -/
structure Band where
  centrePct : Float
  /-- The members with the percentages of their presence. -/
  sizes : List (Size × Float)
deriving DecidableEq

end TwoVenues

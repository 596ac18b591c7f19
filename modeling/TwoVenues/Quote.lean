import TwoVenues.Double.Integral
import TwoVenues.Double.Signed
import TwoVenues.Venue

/-!
# Quotes

What the venues report: values of instruments at times. Times are whole milliseconds since the start
of 1970 (UTC); the data source gives seconds, which `millis` rounds.
-/

namespace TwoVenues

/-- A time in milliseconds. -/
abbrev Time := Int

/-- The nearest millisecond to a time in seconds, a half going away from zero and times outside the
64-bit range going to its ends. -/
def millis (seconds : Float) : Time := Double.toInt64 (seconds * 1000.0)

/-- A value that a venue reports. -/
structure Quote where
  time : Time
  venue : Venue
  /-- The name that the venue gives to the instrument. -/
  instrument : String
  value : Double.Signed
deriving DecidableEq

/-- A value as the data source reports it, with the label of its venue if there is one. -/
structure LabelledQuote where
  time : Time
  label : Option String
  instrument : String
  value : Double.Signed
deriving DecidableEq

/-- A price to convert with. -/
structure PricePoint where
  time : Time
  value : Float
deriving DecidableEq

end TwoVenues

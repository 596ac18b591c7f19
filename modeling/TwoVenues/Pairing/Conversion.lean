import TwoVenues.Double.Order
import TwoVenues.Pairing.Observation

/-!
# Conversion by a reference price

Values of venue B are multiplied by the reference price. The price at a time is the mean of the
finite reference points at that time; an observation at a time without one takes the price of the
latest observed time that has one. Observations before the first such time have no converted value.
-/

namespace TwoVenues.Conversion

/-- The mean of the finite reference points at a time, if there are any. -/
def priceAt? (reference : List PricePoint) (time : Time) : Option Float :=
  match (reference.filter fun p => p.time = time && p.value.isFinite).map (·.value) with
  | [] => none
  | values => some (values.foldl (· + ·) 0.0 / Float.ofNat values.length)

/-- The observation converted with a price, if there is one. -/
def applyPrice (price : Option Float) (o : Observation) : Observation :=
  { o with
    valueB := match price with
      | some p => o.valueB * p
      | none => Double.nan
    referencePrice := price
    nativeB := some o.valueB }

/-- Converts observations in order of time, where `last` is the price before the first of them. -/
def forward (reference : List PricePoint) (last : Option Float) :
    List Observation → List Observation
  | [] => []
  | o :: rows =>
    let price := (priceAt? reference o.time).or last
    applyPrice price o :: forward reference price rows

/-- Observations in order of time, converted. -/
def convert (reference : List PricePoint) (rows : List Observation) : List Observation :=
  forward reference none rows

end TwoVenues.Conversion

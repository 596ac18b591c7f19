import TwoVenues.Pairing.Conversion
import TwoVenues.Pairing.Join

/-!
# Alignment

The observations of two venues, in order and converted if there is a reference (`align`), and counts
of what became of the quotes (`AlignmentCounts`).
-/

namespace TwoVenues

/-- What became of the quotes in an alignment; the unmatched ones are counted by their keys. -/
structure AlignmentCounts where
  samplesA : Nat
  samplesB : Nat
  /-- Quotes that were given for the other venue. -/
  misrouted : Nat
  paired : Nat
  unmatchedA : Nat
  unmatchedB : Nat
  /-- Observations without a reference price although there is a reference. -/
  unresolvedReference : Nat
deriving DecidableEq

/-- Pairs the quotes of the venues; with a reference, values of venue B are converted. -/
def align (quotesA quotesB : List Quote) (reference : Option (List PricePoint)) :
    List Observation :=
  let rows := Join.observations (Join.side .a quotesA) (Join.side .b quotesB)
  match reference with
  | none => rows
  | some points => Conversion.convert points rows

def alignmentCounts (quotesA quotesB : List Quote) (reference : Option (List PricePoint)) :
    AlignmentCounts :=
  let sideA := Join.side .a quotesA
  let sideB := Join.side .b quotesB
  let rows := align quotesA quotesB reference
  { samplesA := sideA.length
    samplesB := sideB.length
    misrouted := quotesA.countP (·.venue ≠ .a) + quotesB.countP (·.venue ≠ .b)
    paired := rows.length
    unmatchedA := Join.unmatched sideA sideB
    unmatchedB := Join.unmatched sideB sideA
    unresolvedReference :=
      if reference.isSome then rows.countP (·.referencePrice.isNone) else 0 }

end TwoVenues

import TwoVenues.Settings.Basic
import TwoVenues.Statistics.Pearson

/-!
# Scanning lags

Two series are correlated at every lag up to a radius (`scan`). At a negative lag the values of
venue A are compared with later ones of venue B, so that A moves first; at a positive lag it is B.
Where too few points overlap, the entry is a placeholder that no lead can be read from. `best?` is
the first entry of largest absolute correlation, if every correlation is defined.
-/

namespace TwoVenues

/-- The correlation of two series at one lag. -/
structure LagEntry where
  lag : Int
  correlation : Float
  pValue : Float
  /-- The number of points that are compared. -/
  overlap : Nat
deriving DecidableEq

/-- The largest lag that is tried for a series of this length. -/
def CorrelationSettings.maxLag (s : CorrelationSettings) (length : Nat) : Nat :=
  min s.maxLagCap (length / s.lagDivisor)

namespace Lag

/-- The points of two series of length `n` that are compared at a lag: for each `i` and `j` with
`i - j` equal to the lag, the value of the first series at `i` and that of the second at `j`. -/
def shifted (n : Nat) (xs ys : List Float) (lag : Int) : List Float × List Float :=
  let shift := lag.natAbs
  let ahead := fun (values : List Float) => (values.take n).drop shift
  let behind := fun (values : List Float) => values.take (n - shift)
  if lag < 0 then (behind xs, ahead ys) else (ahead xs, behind ys)

/-- The entry of a lag at which too few points overlap. -/
def placeholder (lag : Int) (overlap : Nat) : LagEntry := ⟨lag, 0.0, 1.0, overlap⟩

def entry (s : CorrelationSettings) (n : Nat) (xs ys : List Float) (lag : Int) : LagEntry :=
  let overlap := n - lag.natAbs
  if overlap < s.minOverlap then placeholder lag overlap
  else
    let (x, y) := shifted n xs ys lag
    let c := Statistics.pearson x y
    ⟨lag, c.r, c.p, overlap⟩

/-- The lags from `-radius` to `radius`, ascending. -/
def lags (radius : Nat) : List Int :=
  (List.range (2 * radius + 1)).map fun (i : Nat) => (i : Int) - radius

/-- The entries of all lags, ascending. Points of the longer series beyond the end of the other are
left out. -/
def scan (s : CorrelationSettings) (xs ys : List Float) : List LagEntry :=
  let n := min xs.length ys.length
  (lags (s.maxLag n)).map (entry s n xs ys)

/-- The entry with the larger absolute correlation, the earlier one if they are equal. -/
def better (best : Option LagEntry) (e : LagEntry) : Option LagEntry :=
  match best with
  | some b => if e.correlation.abs ≤ b.correlation.abs then some b else some e
  | none => some e

/-- The first entry of largest absolute correlation; none if some correlation is undefined. -/
def best? (entries : List LagEntry) : Option LagEntry :=
  if entries.any (·.correlation.isNaN) then none else entries.foldl better none

end Lag

end TwoVenues

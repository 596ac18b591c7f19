import TwoVenues.Proofs.Checked.Operations
import TwoVenues.Proofs.Checked.Orders
import TwoVenues.Proofs.Comparison.Points

/-!
# Series, with checked quotients and slices

The freedom of a correlation is a difference of counts, the radius of a scan is a quotient, the points
of a lag are slices of the two series, and so are those of a window. A correlation of fewer than three
points has no freedom to count, settings without fault have a divisor above zero and windows of at
least three values, and no lag is longer than the series.

* `pearson_eq` : the correlation of two series;
* `scan_eq`, `comparison_eq`, `comparisons_eq` : the comparison of two series, and of a batch;
* `rollingSeries_eq`, `rolling_eq` : the correlation through time.
-/

namespace TwoVenues.Checked
variable {s : CorrelationSettings}

/-! ## Correlations -/

def pValue (r : Float) (n : Nat) : Option Float :=
  if r.isNaN || n < 2 then some Double.nan
  else if n = 2 then some 1.0
  else
    let unexplained := 1.0 - r * r
    if unexplained ≤ 0.0 then some 0.0
    else do
      let freedom := Float.ofNat (← sub? n 2)
      let t := r * (freedom / unexplained).sqrt
      return Statistics.clamp 0.0 1.0 (2.0 * Statistics.studentCdf freedom (-t.abs))

def pearson (xs ys : List Float) : Option Statistics.Pearson :=
  if xs.length ≠ ys.length ∨ xs.length < 2 then some .undefined
  else if (xs ++ ys).any fun v => !v.isFinite then some .undefined
  else
    let m := Statistics.moments (Statistics.mean xs) (Statistics.mean ys) (xs.zip ys)
    if m.varianceX == 0.0 || m.varianceY == 0.0 then some .undefined
    else do
      let p ← pValue m.coefficient xs.length
      return ⟨m.coefficient, p⟩

theorem pValue_eq (r : Float) (n : Nat) : pValue r n = some (Statistics.pValue r n) := by
  unfold pValue Statistics.pValue Statistics.pValueUnder
  by_cases hfew : r.isNaN || n < 2
  · rw [if_pos hfew, if_pos hfew]
  · rw [if_neg hfew, if_neg hfew]
    have hn : 2 ≤ n := by
      simp only [Bool.or_eq_true, decide_eq_true_eq, not_or] at hfew
      omega
    simp only [sub?_of_le hn, Option.bind_eq_bind, Option.bind_some]
    split
    · rfl
    · split <;> rfl

theorem pearson_eq (xs ys : List Float) : pearson xs ys = some (Statistics.pearson xs ys) := by
  unfold pearson Statistics.pearson Statistics.pearsonUnder
  simp only [pValue_eq, Option.bind_eq_bind, Option.bind_some]
  split
  · rfl
  · split
    · rfl
    · split <;> rfl

/-! ## Scans -/

def maxLag (s : CorrelationSettings) (length : Nat) : Option Nat :=
  (div? length s.lagDivisor).map (min s.maxLagCap)

/-- The entry of one lag. The slices are taken before it is known whether enough points overlap. -/
def entry (s : CorrelationSettings) (n : Nat) (xs ys : List Float) (lag : Int) :
    Option LagEntry := do
  let (x, y) ← Lag.slices? n xs ys lag
  let overlap := n - lag.natAbs
  if overlap < s.minOverlap then return Lag.placeholder lag overlap
  else
    let c ← pearson x y
    return ⟨lag, c.r, c.p, overlap⟩

def scan (s : CorrelationSettings) (xs ys : List Float) : Option (List LagEntry) := do
  let n := min xs.length ys.length
  let radius ← maxLag s n
  (Lag.lags radius).mapM (entry s n xs ys)

theorem maxLag_eq (h : 0 < s.lagDivisor) (length : Nat) :
    maxLag s length = some (s.maxLag length) := by
  rw [maxLag, div?_of_pos h]
  rfl

example : maxLag { lagDivisor := 0 } 10 = none := rfl

theorem entry_eq {n : Nat} {xs ys : List Float} {lag : Int} (hx : n ≤ xs.length)
    (hy : n ≤ ys.length) (hlag : lag.natAbs ≤ n) :
    entry s n xs ys lag = some (Lag.entry s n xs ys lag) := by
  unfold entry Lag.entry
  rw [Lag.slices?_eq_shifted hx hy hlag, Option.bind_eq_bind, Option.bind_some]
  by_cases hfew : n - lag.natAbs < s.minOverlap
  · simp only [if_pos hfew]
    rfl
  · simp only [if_neg hfew, pearson_eq]
    rfl

theorem scan_eq (h : 0 < s.lagDivisor) (xs ys : List Float) :
    scan s xs ys = some (Lag.scan s xs ys) := by
  unfold scan
  simp only [maxLag_eq h, Option.bind_eq_bind, Option.bind_some]
  refine mapM_eq_some_map fun lag hlag => ?_
  have hradius : s.maxLag (min xs.length ys.length) ≤ min xs.length ys.length :=
    (Nat.min_le_right _ _).trans (Nat.div_le_self _ _)
  exact entry_eq (Nat.min_le_left _ _) (Nat.min_le_right _ _)
    ((Lag.mem_lags.1 hlag).trans hradius)

/-! ## Comparisons -/

def comparison (s : CorrelationSettings) (instrument : String) (as bs : List Float) :
    Option (Except Fault Comparison) :=
  let n := min as.length bs.length
  if n < s.minSamples then some (.error (.fewObservations instrument n s.minSamples))
  else do
    let as ← slice? as 0 n
    let bs ← slice? bs 0 n
    let together ← pearson as bs
    let entries ← scan s as bs
    let best := (Lag.best? entries).getD ⟨0, Double.nan, Double.nan, n⟩
    return .ok { Comparison.ofEqualSeries s instrument as bs with
      correlation := together.r
      pValue := together.p
      bestLag := best.lag
      bestLagCorrelation := best.correlation
      bestLagPValue := best.pValue }

def comparisons (s : CorrelationSettings) (filter : Option String) (rows : List Observation) :
    Option (List Comparison) := do
  let outcomes ← (groupsBy (·.instrument) (Comparison.passing filter rows)).mapM
    fun (instrument, group) =>
      let group := sortWith timeOrder group
      comparison s instrument (group.map (·.valueA)) (group.map (·.valueB))
  return outcomes.filterMap Except.toOption

theorem comparison_eq (h : 0 < s.lagDivisor) (instrument : String) (as bs : List Float) :
    comparison s instrument as bs = some (Comparison.ofSeries s instrument as bs) := by
  unfold comparison Comparison.ofSeries
  by_cases hfew : min as.length bs.length < s.minSamples
  · rw [if_pos hfew, if_pos hfew]
  · have hlength : (as.take (min as.length bs.length)).length = min as.length bs.length := by
      simp
    rw [if_neg hfew, if_neg hfew, slice?_of_le (Nat.zero_le _) (Nat.min_le_left _ _),
      slice?_of_le (Nat.zero_le _) (Nat.min_le_right _ _)]
    simp only [Option.bind_eq_bind, Option.bind_some, List.drop_zero, pearson_eq, scan_eq h]
    rw [Comparison.ofEqualSeries, hlength]
    rfl

theorem comparisons_eq (h : 0 < s.lagDivisor) (filter : Option String)
    (rows : List Observation) :
    comparisons s filter rows = some (Comparison.ofObservations s filter rows) := by
  unfold comparisons Comparison.ofObservations Comparison.groups
  simp only [sortWith_timeOrder]
  rw [mapM_eq_some_map fun group _ => comparison_eq h group.1 _ _, Option.bind_eq_bind,
    Option.bind_some, List.filterMap_map, List.filterMap_map]
  rfl

/-! ## Windows -/

def rollingSeries (xs ys : List Float) (width : Nat) : Option (List Float) :=
  (List.range (min xs.length ys.length)).mapM fun last =>
    if width = 0 ∨ last + 1 < width then some Double.nan
    else do
      let start ← sub? (last + 1) width
      let x ← slice? xs start (last + 1)
      let y ← slice? ys start (last + 1)
      let c ← pearson x y
      return c.r

def rolling (s : CorrelationSettings) (instrument : String) (rows : List Observation) :
    Option (List RollingPoint) :=
  let group := sortWith timeOrder (rows.filter (·.instrument = instrument))
  if group.length ≤ s.rollingWindow then some []
  else do
    let correlations ← rollingSeries (group.map (·.valueA)) (group.map (·.valueB)) s.rollingWindow
    let first ← sub? s.rollingWindow 1
    return ((group.zip correlations).drop first).map fun (o, r) => ⟨o.time, r⟩

theorem slice?_window {xs : List Float} {width last : Nat} (hwidth : width ≤ last + 1)
    (hlast : last < xs.length) :
    slice? xs (last + 1 - width) (last + 1) = some (Statistics.window width last xs) := by
  have hcut : last + 1 - (last + 1 - width) = width := by omega
  rw [slice?_of_le (Nat.sub_le _ _) hlast, List.drop_take, hcut]
  rfl

theorem rollingSeries_eq (xs ys : List Float) (width : Nat) :
    rollingSeries xs ys width = some (Statistics.rolling xs ys width) := by
  refine mapM_eq_some_map fun last hlast => ?_
  have hmin := List.mem_range.1 hlast
  by_cases hnone : width = 0 ∨ last + 1 < width
  · rw [if_pos hnone, if_pos hnone]
  · have hwidth : width ≤ last + 1 := by omega
    rw [if_neg hnone, if_neg hnone, sub?_of_le hwidth, Option.bind_eq_bind, Option.bind_some,
      slice?_window hwidth (by omega), slice?_window hwidth (by omega)]
    simp only [Option.bind_eq_bind, Option.bind_some, pearson_eq]
    rfl

theorem rolling_eq (h : 0 < s.rollingWindow) (instrument : String) (rows : List Observation) :
    rolling s instrument rows = some (Comparison.rolling s instrument rows) := by
  unfold rolling Comparison.rolling
  simp only [sortWith_timeOrder, rollingSeries_eq, sub?_of_le h, Option.bind_eq_bind,
    Option.bind_some]
  split <;> rfl

end TwoVenues.Checked

import TwoVenues.Pairing.Join
import TwoVenues.Presence.Basic
import TwoVenues.Proofs.Comparison.Batch

/-!
# Sorting by a total preorder

A sort may fail if the comparison that it is given is inconsistent, say if two rows come each before
the other. `sortWith` asks for a comparison that is a total preorder (`Std.TransCmp`): turning the
rows around turns its answer around, and coming no later is transitive.

* `isLE_compareOn` : coming no later in the order by a key;
* `timeOrder`, `sizeOrder`, `firstOrder`, `rankOrder` : the comparisons that rows are sorted by, all
  of them total preorders, as `QuotePair.order` is;
* `sortWith_timeOrder`, `sortWith_sizeOrder`, `sortWith_rankOrder` : sorting by them puts rows in the
  order of the library.
-/

namespace TwoVenues.Checked
variable {α : Type}

/-- The rows in the order of a total preorder, those that are equal in it as they stand. -/
def sortWith (cmp : α → α → Ordering) [Std.TransCmp cmp] (rows : List α) : List α :=
  sortBy (fun x y => (cmp x y).isLE) rows

/-! ## By a key -/

theorem isLE_compareOn (key : α → Int) (x y : α) :
    (compareOn key x y).isLE = decide (key x ≤ key y) :=
  Bool.eq_iff_iff.2 (by simp [compareOn, Int.isLE_compare])

def timeOrder : Observation → Observation → Ordering := compareOn (·.time)

/-- The order of the sizes in a group, which is total even among not-a-numbers. -/
def sizeOrder : Size → Size → Ordering := compareOn (·.totalKey)

/-- The order of groups that stand beside their first members. -/
def firstOrder : Size × SizeGroup → Size × SizeGroup → Ordering := compareOn (·.1.totalKey)

instance : Std.TransCmp timeOrder := by
  unfold timeOrder
  infer_instance

instance : Std.TransCmp sizeOrder := by
  unfold sizeOrder
  infer_instance

instance : Std.TransCmp firstOrder := by
  unfold firstOrder
  infer_instance

theorem sortWith_timeOrder (rows : List Observation) :
    sortWith timeOrder rows = Observation.byTime rows := by
  unfold sortWith Observation.byTime timeOrder
  simp only [isLE_compareOn]

theorem sortWith_sizeOrder (sizes : List Size) :
    sortWith sizeOrder sizes = sortBy Double.Signed.totalLe sizes := by
  unfold sortWith sizeOrder
  simp only [isLE_compareOn]
  rfl

/-! ## By rank -/

def rankOrder (c d : Comparison) : Ordering :=
  match c.correlation.isNaN, d.correlation.isNaN with
  | true, true => .eq
  | true, false => .gt
  | false, true => .lt
  | false, false => Double.totalCompare d.correlation c.correlation

theorem isLE_rankOrder (c d : Comparison) : (rankOrder c d).isLE = c.ranksBefore d := by
  unfold rankOrder Comparison.ranksBefore
  cases c.correlation.isNaN with
  | true => cases d.correlation.isNaN <;> rfl
  | false =>
    cases d.correlation.isNaN with
    | true => rfl
    | false => exact isLE_compareOn Double.totalKey _ _

instance : Std.TransCmp rankOrder where
  eq_swap {c d} := by
    unfold rankOrder
    cases c.correlation.isNaN with
    | true => cases d.correlation.isNaN <;> rfl
    | false =>
      cases d.correlation.isNaN with
      | true => rfl
      | false =>
        show compareOn Double.totalKey d.correlation c.correlation =
          (compareOn Double.totalKey c.correlation d.correlation).swap
        exact Std.OrientedCmp.eq_swap
  isLE_trans {b c d} hbc hcd := by
    rw [isLE_rankOrder] at *
    exact Comparison.ranksBefore_trans b c d hbc hcd

theorem sortWith_rankOrder (rows : List Comparison) :
    sortWith rankOrder rows = Comparison.rank rows := by
  unfold sortWith
  simp only [isLE_rankOrder]
  rfl

end TwoVenues.Checked

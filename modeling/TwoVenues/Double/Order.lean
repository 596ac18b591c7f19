/-!
# Orders on doubles

Two orders on `Float`, each given by an integer key:

* `totalKey` : the IEEE total order, in which `-0` lies below `+0` and not-a-number, as `Float` has
  it, above every number. The key determines the double (`totalKey_injective`), so sorting by it
  leaves no ties between different values;
* `valueKey` : the numeric order, in which the two zeros are one number and not-a-number is equal
  to itself and greatest.
-/

namespace TwoVenues.Double

def nan : Float := 0.0 / 0.0

def infinity : Float := 1.0 / 0.0

/-- The place of a double in the total order: its bit pattern, reflected below zero when the sign
bit is set. -/
def totalKey (x : Float) : Int :=
  let bits := x.toBits.toNat
  if bits < 0x8000000000000000 then (bits : Int) else 0x7fffffffffffffff - (bits : Int)

/-- The place of a double in the numeric order. -/
def valueKey (x : Float) : Int :=
  if x == 0.0 then 0 else totalKey x

/-- The IEEE total order. -/
def totalCompare : Float → Float → Ordering := compareOn totalKey

def totalLe (x y : Float) : Bool := decide (totalKey x ≤ totalKey y)

theorem eq_of_toBits_eq {x y : Float} (h : x.toBits = y.toBits) : x = y := by
  obtain ⟨⟨a, ha⟩⟩ := x
  obtain ⟨⟨b, hb⟩⟩ := y
  obtain rfl : a = b := h
  rfl

theorem totalKey_injective {x y : Float} (h : totalKey x = totalKey y) : x = y := by
  apply eq_of_toBits_eq
  apply UInt64.toNat_inj.1
  have hx := x.toBits.toNat_lt
  have hy := y.toBits.toNat_lt
  simp only [totalKey] at h
  split at h <;> split at h <;> omega

theorem totalLe_refl (x : Float) : totalLe x x := by simp [totalLe]

theorem totalLe_trans {x y z : Float} (hxy : totalLe x y) (hyz : totalLe y z) : totalLe x z := by
  simp only [totalLe, decide_eq_true_eq] at *
  exact Int.le_trans hxy hyz

theorem totalLe_total (x y : Float) : totalLe x y ∨ totalLe y x := by
  simp only [totalLe, decide_eq_true_eq]
  exact Int.le_total _ _

end TwoVenues.Double

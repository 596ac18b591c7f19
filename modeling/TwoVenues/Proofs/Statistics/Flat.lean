import TwoVenues.Proofs.Double.Nonneg
import TwoVenues.Statistics.Pearson

/-!
# Series without variation

The variance of a series is added up from differences to a mean that is rounded. It vanishes if and
only if the square of each difference does, which a series of one number alone does not ensure: the
mean of ten copies of `0.1` is not `0.1`.

* `IsFlat xs` : the values of `xs` are one number;
* `LiesOnMean xs` : the squares of the differences to the computed mean are zero;
* `CopiesFit n x` : `n` copies of `x` are added up without rounding;
* `copiesFit_of_lt` : copies of a number with digits to spare;
* `IsFlat.liesOnMean` : the mean of a flat series whose copies fit;
* `pearson_of_length`, `pearson_of_not_isFinite` : series that have no correlation;
* `pearson_eq` : the correlation of finite series, which is undefined if one lies on its mean.
-/

namespace TwoVenues.Statistics
open Double

/-- The values are one number. -/
def IsFlat (xs : List Float) : Prop := ∀ x ∈ xs, ∀ y ∈ xs, x == y

instance (xs : List Float) : Decidable (IsFlat xs) :=
  inferInstanceAs (Decidable (∀ x ∈ xs, ∀ y ∈ xs, x == y))

/-- The difference of each value to the computed mean has a square of zero. -/
def LiesOnMean (xs : List Float) : Prop := ∀ x ∈ xs, (x - mean xs) * (x - mean xs) == 0.0

instance (xs : List Float) : Decidable (LiesOnMean xs) :=
  inferInstanceAs (Decidable (∀ x ∈ xs, (x - mean xs) * (x - mean xs) == 0.0))

/-- The multiples of `x` up to the `n`-th are doubles. -/
def CopiesFit (n : Nat) (x : Float) : Prop :=
  n < 2 ^ 53 ∧ ∃ q, Denotes x q ∧ ∀ j ≤ n, Fits (j * q)

/-- The digits of a mantissa `k` that has room for those of `n` are enough for every multiple. -/
theorem copiesFit_of_lt {n : Nat} {x : Float} {k f : Int} (hn : n < 2 ^ 53)
    (hx : Denotes x (k * 2 ^ f)) (hk : n * k.natAbs < 2 ^ 53) (hf : -1074 ≤ f ∧ f ≤ 971) :
    CopiesFit n x := by
  refine ⟨hn, _, hx, ?_⟩
  intro j hj
  refine ⟨j * k, f, by push_cast; ring, ?_, hf⟩
  rw [Int.natAbs_mul, Int.natAbs_natCast]
  exact (Nat.mul_le_mul_right _ hj).trans_lt hk

/-! ## The mean of a flat series -/

section Mean
variable {xs : List Float} {n : Nat} {q : ℚ}

theorem denotes_foldl_add (hfits : ∀ j ≤ n, Fits (j * q)) (ys : List Float)
    (hys : ∀ y ∈ ys, Denotes y q) {acc : Float} {j : Nat} (hj : j + ys.length ≤ n)
    (hacc : Denotes acc (j * q)) :
    Denotes (ys.foldl (· + ·) acc) ((j + ys.length : Nat) * q) := by
  induction ys generalizing acc j with
  | nil => exact hacc
  | cons y ys ih =>
    rw [List.length_cons] at hj
    have hnext : (j : ℚ) * q + q = (j + 1 : Nat) * q := by
      push_cast
      ring
    have hadd := hacc.add (hys y List.mem_cons_self)
    rw [hnext] at hadd
    have hstep := ih (fun z hz => hys z (List.mem_cons_of_mem y hz)) (by omega)
      (hadd (hfits _ (by omega)))
    rw [Nat.add_assoc, Nat.add_comm 1] at hstep
    exact hstep

theorem denotes_mean (hne : xs ≠ []) (hn : xs.length < 2 ^ 53)
    (hfits : ∀ j ≤ xs.length, Fits (j * q)) (hxs : ∀ x ∈ xs, Denotes x q) :
    Denotes (mean xs) q := by
  have hzero : Denotes (-0.0) ((0 : Nat) * q) := by
    rw [Nat.cast_zero, zero_mul]
    exact rfl
  have hsum : Denotes (sum xs) (xs.length * q) := by
    have := denotes_foldl_add hfits xs hxs (by omega) hzero
    rwa [Nat.zero_add] at this
  have hlength : (xs.length : ℚ) ≠ 0 := by simpa using hne
  have hone := hfits 1 (List.length_pos_iff.2 hne)
  rw [Nat.cast_one, one_mul] at hone
  have hdiv := hsum.div (denotes_ofNat hn) hlength
  rw [mul_div_cancel_left₀ _ hlength] at hdiv
  rw [mean, if_neg (by simpa using hne)]
  exact hdiv hone

theorem IsFlat.liesOnMean (h : IsFlat xs) {x : Float} (hx : x ∈ xs)
    (hcopies : CopiesFit xs.length x) : LiesOnMean xs := by
  obtain ⟨hn, q, hvalue, hfits⟩ := hcopies
  have hall : ∀ y ∈ xs, Denotes y q := by
    intro y hy
    exact hvalue.beq (h x hx y hy)
  have hmean := denotes_mean (List.ne_nil_of_mem hx) hn hfits hall
  intro y hy
  have hdifference := (hall y hy).sub hmean
  rw [sub_self] at hdifference
  have hsquare := (hdifference fits_zero).mul (hdifference fits_zero)
  rw [zero_mul] at hsquare
  exact denotes_zero_iff.1 (hsquare fits_zero)

end Mean

/-! ## The variances of two series -/

/-- The squares of the differences to `m`, added up from left to right. -/
def squares (m : Float) (xs : List Float) : Float :=
  xs.foldl (fun acc x => acc + (x - m) * (x - m)) 0.0

theorem isNonneg_squares (m : Float) (xs : List Float) : IsNonneg (squares m xs) :=
  isNonneg_foldl_squares _ _ isNonneg_zero

theorem squares_mean_eq_zero_iff (xs : List Float) :
    (squares (mean xs) xs == 0.0) = true ↔ LiesOnMean xs := by
  rw [← denotes_zero_iff, squares, foldl_squares_denotes_zero_iff _ _ isNonneg_zero]
  simp only [denotes_zero_iff]
  exact ⟨fun h => h.2, fun h => ⟨by decide, h⟩⟩

section Variance
variable {xs ys : List Float} {mx my : Float}

theorem varianceX_moments (h : xs.length = ys.length) :
    (moments mx my (xs.zip ys)).varianceX = squares mx xs := by
  conv_rhs => rw [← List.map_fst_zip (Nat.le_of_eq h), squares, List.foldl_map]
  exact (List.foldl_hom Moments.varianceX fun _ _ => rfl).symm

theorem varianceY_moments (h : xs.length = ys.length) :
    (moments mx my (xs.zip ys)).varianceY = squares my ys := by
  conv_rhs => rw [← List.map_snd_zip (Nat.le_of_eq h.symm), squares, List.foldl_map]
  exact (List.foldl_hom Moments.varianceY fun _ _ => rfl).symm

/-- The correlation that is computed from two series. -/
def computed (xs ys : List Float) : Pearson :=
  let r := (moments (mean xs) (mean ys) (xs.zip ys)).coefficient
  ⟨r, pValue r xs.length⟩

theorem any_not_isFinite_iff (vs : List Float) :
    (vs.any fun v => !v.isFinite) = true ↔ ¬∀ v ∈ vs, v.isFinite := by
  rw [List.any_eq_true]
  simp

theorem pearson_of_length (h : ¬(xs.length = ys.length ∧ 2 ≤ xs.length)) :
    pearson xs ys = .undefined :=
  if_pos (by omega)

theorem pearson_of_not_isFinite (h : ¬∀ v ∈ xs ++ ys, v.isFinite) : pearson xs ys = .undefined := by
  by_cases hlen : xs.length = ys.length ∧ 2 ≤ xs.length
  · rw [pearson, pearsonUnder, if_neg (by omega), if_pos ((any_not_isFinite_iff _).2 h)]
  · exact pearson_of_length hlen

/-- The test for variation fails just for the series that lie on their mean. -/
theorem pearson_eq (hlen : xs.length = ys.length) (h2 : 2 ≤ xs.length)
    (hfinite : ∀ v ∈ xs ++ ys, v.isFinite) :
    pearson xs ys = if LiesOnMean xs ∨ LiesOnMean ys then .undefined else computed xs ys := by
  rw [pearson, pearsonUnder, if_neg (by omega), if_neg fun h => (any_not_isFinite_iff _).1 h hfinite]
  show (if ((moments (mean xs) (mean ys) (xs.zip ys)).varianceX == 0.0 ||
    (moments (mean xs) (mean ys) (xs.zip ys)).varianceY == 0.0) = true then Pearson.undefined
    else computed xs ys) = _
  simp only [varianceX_moments hlen, varianceY_moments hlen, Bool.or_eq_true,
    squares_mean_eq_zero_iff]

theorem pearson_eq_undefined (h : LiesOnMean xs ∨ LiesOnMean ys) : pearson xs ys = .undefined := by
  by_cases hlen : xs.length = ys.length ∧ 2 ≤ xs.length
  · by_cases hfinite : ∀ v ∈ xs ++ ys, v.isFinite
    · rw [pearson_eq hlen.1 hlen.2 hfinite, if_pos h]
    · exact pearson_of_not_isFinite hfinite
  · exact pearson_of_length hlen

end Variance

end TwoVenues.Statistics

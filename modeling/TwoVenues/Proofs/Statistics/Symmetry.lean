import Mathlib.Data.List.Zip
import TwoVenues.Proofs.Statistics.Flat

/-!
# Correlation is symmetric

Exchanging two series exchanges their variances and turns every product around. Since multiplication
of doubles is commutative to the last bit, sums and quotients of such products are the same doubles.

* `Double.mul_comm` : multiplication of doubles;
* `Moments.swap`, `moments_swap` : the moments of the exchanged series;
* `pearson_comm` : the correlation of the exchanged series.
-/

namespace TwoVenues

namespace Double
open Float.Model (UnpackedFloat)
open Float.Model.UnpackedFloat

theorem sign_mul_comm (s t : Sign) : s * t = t * s := by
  cases s <;> cases t <;> rfl

theorem unpacked_mul_comm (u v : UnpackedFloat) : mul .binary64 u v = mul .binary64 v u := by
  cases u with
  | notANumber => cases v <;> rfl
  | infinity s =>
    cases v with
    | notANumber => rfl
    | infinity t => exact congrArg UnpackedFloat.infinity (sign_mul_comm s t)
    | zero t => rfl
    | finite t n f hn => exact congrArg UnpackedFloat.infinity (sign_mul_comm s t)
  | zero s =>
    cases v with
    | notANumber => rfl
    | infinity t => rfl
    | zero t => exact congrArg UnpackedFloat.zero (sign_mul_comm s t)
    | finite t n f hn => exact congrArg UnpackedFloat.zero (sign_mul_comm s t)
  | finite s m e hm =>
    cases v with
    | notANumber => rfl
    | infinity t => exact congrArg UnpackedFloat.infinity (sign_mul_comm s t)
    | zero t => exact congrArg UnpackedFloat.zero (sign_mul_comm s t)
    | finite t n f hn =>
      show roundWithAccuracy .binary64 (s * t) (m * n) (e + f) .exact =
        roundWithAccuracy .binary64 (t * s) (n * m) (f + e) .exact
      rw [sign_mul_comm, Nat.mul_comm, Int.add_comm]

theorem mul_comm (x y : Float) : x * y = y * x := by
  have h := unpacked_mul_comm x.toModel.unpack y.toModel.unpack
  exact congrArg (fun u => Float.ofModel (Float.Model.pack u)) h

end Double

namespace Statistics

def Moments.swap (m : Moments) : Moments := ⟨m.covariance, m.varianceY, m.varianceX⟩

theorem moments_swap (mx my : Float) (xs ys : List Float) :
    moments my mx (ys.zip xs) = (moments mx my (xs.zip ys)).swap := by
  rw [← List.zip_swap, moments, moments, List.foldl_map]
  refine (List.foldl_hom Moments.swap ?_ : List.foldl _ (Moments.swap ⟨0.0, 0.0, 0.0⟩) _ = _)
  intro m p
  simp only [Moments.swap, Prod.fst_swap, Prod.snd_swap, Double.mul_comm]

theorem Moments.coefficient_swap (m : Moments) : m.swap.coefficient = m.coefficient := by
  unfold coefficient
  rw [Double.mul_comm]
  rfl

theorem computed_comm {xs ys : List Float} (h : xs.length = ys.length) :
    computed ys xs = computed xs ys := by
  unfold computed
  rw [moments_swap, Moments.coefficient_swap, h]

theorem pearson_comm (xs ys : List Float) : pearson xs ys = pearson ys xs := by
  by_cases hlen : xs.length = ys.length ∧ 2 ≤ xs.length
  · obtain ⟨hsame, h2⟩ := hlen
    by_cases hfinite : ∀ v ∈ xs ++ ys, v.isFinite
    · have hfinite' : ∀ v ∈ ys ++ xs, v.isFinite := by
        intro v hv
        exact hfinite v (List.perm_append_comm.mem_iff.1 hv)
      rw [pearson_eq hsame h2 hfinite, pearson_eq hsame.symm (hsame ▸ h2) hfinite',
        computed_comm hsame]
      simp only [or_comm]
    · have hfinite' : ¬∀ v ∈ ys ++ xs, v.isFinite := by
        intro h
        exact hfinite fun v hv => h v (List.perm_append_comm.mem_iff.1 hv)
      rw [pearson_of_not_isFinite hfinite, pearson_of_not_isFinite hfinite']
  · rw [pearson_of_length hlen, pearson_of_length (by omega)]

end Statistics

end TwoVenues

import TwoVenues.Proofs.Double.Exact

/-!
# Sums of squares

Nothing cancels in a sum of doubles without a negative sign: it is zero only if each of them is.

* `IsNonneg x` : `x` has no negative sign, or is not a number;
* `denotes_zero_iff` : equality with zero as what a double stands for;
* `IsNonneg.add`, `IsNonneg.add_denotes_zero_iff` : sums without a negative sign;
* `isNonneg_mul_self` : the square of a double;
* `foldl_squares_denotes_zero_iff` : a sum of squares that is zero.
-/

namespace TwoVenues.Double
open Float.Model (UnpackedFloat Format)
open Float.Model.UnpackedFloat

/-- An unpacked double without a negative sign. -/
def HasNoSign : UnpackedFloat → Prop
  | .notANumber => True
  | .infinity s | .zero s | .finite s _ _ _ => s = .positive

/-- The double has no negative sign, or is not a number. -/
def IsNonneg (x : Float) : Prop := HasNoSign x.toModel.unpack

/-! ## Unpacked doubles -/

section Unpacked
variable {u v : UnpackedFloat} {m : Nat} {e : Int}

theorem not_isValue_finite_zero (s : Sign) (hm : 0 < m) : ¬IsValue (.finite s m e hm) 0 := by
  intro h
  have habs := abs_apply_mul s m e
  rw [← show 0 = ((s.apply m : Int) : ℚ) * 2 ^ e from h, abs_zero] at habs
  have hpos : (0 : ℚ) < m * 2 ^ e := mul_pos (by exact_mod_cast hm) (zpow_pos two_pos e)
  exact absurd habs (ne_of_lt hpos)

theorem hasNoSign_settle (h : HasNoSign u) (hu : IsRounded u) : HasNoSign (settle u) := by
  rcases settle_rounded hu with heq | ⟨s, m, e, hm, rfl, -, heq⟩
  · rwa [heq]
  · rw [heq]
    exact h

theorem isValue_zero_of_settle (hu : IsRounded u) (h : IsValue (settle u) 0) : IsValue u 0 := by
  rcases settle_rounded hu with heq | ⟨s, m, e, hm, rfl, -, heq⟩
  · rwa [heq] at h
  · rw [heq] at h
    exact h.elim

/-- A number that is a multiple of the least double does not round to zero. -/
theorem exists_round (hm : 0 < m) (he : -1074 ≤ e) :
    ∃ q t hq, round .binary64 .positive m e = .finite .positive q t hq ∧
      IsRounded (.finite .positive q t hq) := by
  rw [round_eq]
  have hpos : 0 < m * 2 ^ (e - target m e).toNat := Nat.mul_pos hm (Nat.two_pow_pos _)
  have hle := le_target_scaled hm e
  have hlow : -1074 ≤ e - ((e - target m e).toNat : Int) := by
    have := neg_le_target m e
    omega
  generalize m * 2 ^ (e - target m e).toNat = n at *
  generalize e - ((e - target m e).toNat : Int) = f at *
  rcases roundWithAccuracy_cases .positive hle .exact with
    ⟨h0, -⟩ | ⟨q, t, hq, heq, hrounded, -⟩
  · have hcut := (cut_bounds n (target n f - f).toNat .exact).1
    by_cases ht : target n f = -1074
    · rw [show (target n f - f).toNat = 0 by omega] at h0 hcut
      rw [Nat.pow_zero, Nat.div_one] at hcut
      omega
    · have := le_div_target hle ht
      omega
  · exact ⟨q, t, hq, heq, hrounded⟩

/-- What a sum without a negative sign is. -/
def IsSum (u v w : UnpackedFloat) : Prop :=
  HasNoSign w ∧ IsRounded w ∧ (IsValue w 0 → IsValue u 0 ∧ IsValue v 0)

theorem isSum_notANumber : IsSum u v .notANumber := ⟨trivial, trivial, fun h => h.elim⟩

theorem isSum_infinity : IsSum u v (.infinity .positive) := ⟨rfl, trivial, fun h => h.elim⟩

theorem isSum_finite {q : Nat} {t : Int} {hq : 0 < q} (h : IsRounded (.finite .positive q t hq)) :
    IsSum u v (.finite .positive q t hq) :=
  ⟨rfl, h, fun h0 => absurd h0 (not_isValue_finite_zero .positive hq)⟩

theorem isSum_add (hcu : IsCanonical u) (hcv : IsCanonical v) (hu : HasNoSign u)
    (hv : HasNoSign v) : IsSum u v (add .binary64 u v) := by
  cases u with
  | notANumber =>
    show IsSum .notANumber v .notANumber
    exact isSum_notANumber
  | infinity s =>
    cases hu
    cases v with
    | notANumber => exact isSum_notANumber
    | infinity t =>
      cases hv
      exact isSum_infinity
    | zero t => exact isSum_infinity
    | finite t n f hn => exact isSum_infinity
  | zero s =>
    cases hu
    cases v with
    | notANumber => exact isSum_notANumber
    | infinity t =>
      cases hv
      exact isSum_infinity
    | zero t =>
      cases hv
      exact ⟨rfl, trivial, fun _ => ⟨rfl, rfl⟩⟩
    | finite t n f hn =>
      cases hv
      exact isSum_finite (isRounded_of_isCanonical hcv)
  | finite s m e hm =>
    cases hu
    cases v with
    | notANumber => exact isSum_notANumber
    | infinity t =>
      cases hv
      exact isSum_infinity
    | zero t => exact isSum_finite (isRounded_of_isCanonical hcu)
    | finite t n f hn =>
      cases hv
      have hlow : -1074 ≤ min e f := Int.le_min.2 ⟨hcu.1, hcv.1⟩
      have hpos : 0 < m <<< (e - min e f).toNat + n <<< (f - min e f).toNat :=
        Nat.add_pos_left (Nat.shiftLeft_pos_iff.2 hm) _
      obtain ⟨q, t, hq, hround, hrounded⟩ := exists_round hpos hlow
      have hadd : add .binary64 (.finite .positive m e hm) (.finite .positive n f hn) =
          .finite .positive q t hq := by
        rw [← hround]
        show UnpackedFloat.normalize .binary64 ((m <<< (e - min e f).toNat : Nat) +
          (n <<< (f - min e f).toNat : Nat)) (min e f) .positive = _
        rw [← Int.natCast_add, UnpackedFloat.normalize, compare_gt_iff_gt.2 (Int.natCast_pos.2 hpos)]
        rfl
      rw [hadd]
      exact isSum_finite hrounded

theorem hasNoSign_mul_self (h : IsCanonical u) :
    HasNoSign (mul .binary64 u u) ∧ IsRounded (mul .binary64 u u) := by
  have hsign (s : Sign) : s * s = .positive := by cases s <;> rfl
  cases u with
  | notANumber => exact ⟨trivial, trivial⟩
  | infinity s => exact ⟨hsign s, trivial⟩
  | zero s => exact ⟨hsign s, trivial⟩
  | finite s m e hm =>
    show HasNoSign (roundWithAccuracy .binary64 (s * s) (m * m) (e + e) .exact) ∧
      IsRounded (roundWithAccuracy .binary64 (s * s) (m * m) (e + e) .exact)
    rw [hsign]
    rcases roundWithAccuracy_cases .positive (le_target_mul h h) .exact with
      ⟨-, heq⟩ | ⟨q, t, hq, heq, hrounded, -⟩
    · rw [heq]
      exact ⟨rfl, trivial⟩
    · rw [heq]
      exact ⟨rfl, hrounded⟩

end Unpacked

/-! ## Sums of `Float` -/

section Sums
variable {x y : Float}

theorem denotes_zero_iff : Denotes x 0 ↔ (x == 0.0) = true := by
  have hzero : (0.0 : Float).toModel.unpack = .zero .positive := rfl
  show IsValue x.toModel.unpack 0 ↔
    (x.toModel.unpack.compare (0.0 : Float).toModel.unpack == some .eq) = true
  rw [hzero]
  cases x.toModel.unpack with
  | notANumber => exact ⟨fun h => h.elim, fun h => (by cases h)⟩
  | infinity s => exact ⟨fun h => h.elim, fun h => (by cases s <;> cases h)⟩
  | zero s => exact ⟨fun _ => rfl, fun _ => rfl⟩
  | finite s m e hm =>
    exact ⟨fun h => absurd h (not_isValue_finite_zero s hm), fun h => (by cases s <;> cases h)⟩

theorem isNonneg_zero : IsNonneg 0.0 := rfl

theorem isNonneg_mul_self (x : Float) : IsNonneg (x * x) := by
  obtain ⟨hsign, hrounded⟩ := hasNoSign_mul_self (isCanonical_unpack x)
  exact hasNoSign_settle hsign hrounded

theorem IsNonneg.isSum (hx : IsNonneg x) (hy : IsNonneg y) :
    IsSum x.toModel.unpack y.toModel.unpack (x + y).toModel.unpack := by
  obtain ⟨hsign, hrounded, hzero⟩ := isSum_add (isCanonical_unpack x) (isCanonical_unpack y) hx hy
  refine ⟨hasNoSign_settle hsign hrounded, isRounded_of_isCanonical (isCanonical_unpack _), ?_⟩
  intro h
  exact hzero (isValue_zero_of_settle hrounded h)

theorem IsNonneg.add (hx : IsNonneg x) (hy : IsNonneg y) : IsNonneg (x + y) := (hx.isSum hy).1

theorem IsNonneg.add_denotes_zero_iff (hx : IsNonneg x) (hy : IsNonneg y) :
    Denotes (x + y) 0 ↔ Denotes x 0 ∧ Denotes y 0 := by
  constructor
  · exact (hx.isSum hy).2.2
  · rintro ⟨hx0, hy0⟩
    have hadd := hx0.add hy0
    rw [add_zero] at hadd
    exact hadd fits_zero

theorem isNonneg_foldl_squares {α : Type} (f : α → Float) (xs : List α) {acc : Float}
    (hacc : IsNonneg acc) : IsNonneg (xs.foldl (fun acc x => acc + f x * f x) acc) := by
  induction xs generalizing acc with
  | nil => exact hacc
  | cons x xs ih => exact ih (hacc.add (isNonneg_mul_self (f x)))

/-- A running sum of squares is zero only if it starts at zero and every square is zero. -/
theorem foldl_squares_denotes_zero_iff {α : Type} (f : α → Float) (xs : List α) {acc : Float}
    (hacc : IsNonneg acc) : Denotes (xs.foldl (fun acc x => acc + f x * f x) acc) 0 ↔
      Denotes acc 0 ∧ ∀ x ∈ xs, Denotes (f x * f x) 0 := by
  induction xs generalizing acc with
  | nil => simp
  | cons x xs ih =>
    have hsquare := isNonneg_mul_self (f x)
    simp only [List.foldl_cons, List.forall_mem_cons]
    rw [ih (hacc.add hsquare), hacc.add_denotes_zero_iff hsquare, and_assoc]

end Sums

end TwoVenues.Double

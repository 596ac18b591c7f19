import TwoVenues.Proofs.Double.Nonneg

/-!
# Bounds on computed doubles

A bound on the exact result of an operation, if it is a double, is one on the computed result. So
bounds are carried through a computation whose rounding is not looked at.

* `Bounded b x` : the double stands for a number from `-b` to `b`;
* `Bounded.add`, `Bounded.sub`, `Bounded.mul`, `Bounded.div` : operations on bounded doubles;
* `bounded_foldl_add` : a running sum of bounded doubles;
* `not_denotes_zero_mul_self` : the square of a number away from zero;
* `Denotes.sqrt_between`, `Denotes.mul_between`, `Denotes.div_between` : square roots, products and
  quotients of positive doubles;
* `isNaN_div_eq_false` : a quotient by a number other than zero.
-/

namespace TwoVenues.Double
open Float.Model (UnpackedFloat Format)
open Float.Model.UnpackedFloat

/-- The double stands for a number whose absolute value is at most `b`. -/
def Bounded (b : ℚ) (x : Float) : Prop := ∃ q, Denotes x q ∧ |q| ≤ b

theorem IsFaithful.bound {q r b : ℚ} (h : IsFaithful q r) (hb : Fits b) (hq : |q| ≤ b) :
    |r| ≤ b := by
  obtain ⟨hlow, hhigh⟩ := abs_le.1 hq
  exact abs_le.2 ⟨h.le (-b) hb.neg hlow, h.ge b hb hhigh⟩

/-! ## Numbers that fit -/

theorem fits_two_zpow {f : Int} (hlow : -1074 ≤ f) (hhigh : f ≤ 971) : Fits (2 ^ f) :=
  ⟨1, f, by rw [Int.cast_one, one_mul], by decide, hlow, hhigh⟩

/-- The least positive double. -/
theorem Fits.least_le {q : ℚ} (h : Fits q) (hq : 0 < q) : 2 ^ (-1074 : Int) ≤ q := by
  obtain ⟨k, f, rfl, -, hf, -⟩ := h
  have hk : (0 : ℚ) < k := (mul_pos_iff_of_pos_right (zpow_pos two_pos f)).1 hq
  have hk : (1 : ℚ) ≤ k := by exact_mod_cast Int.cast_pos.1 hk
  calc (2 : ℚ) ^ (-1074 : Int) ≤ 2 ^ f := zpow_le_zpow_right₀ one_le_two hf
    _ ≤ k * 2 ^ f := le_mul_of_one_le_left (zpow_nonneg zero_le_two f) hk

section Operations
variable {x y : Float} {a b p q : ℚ}

theorem Bounded.isFinite (h : Bounded b x) : x.isFinite = true := by
  obtain ⟨q, hq, -⟩ := h
  show x.toModel.unpack.isFinite = true
  change IsValue x.toModel.unpack q at hq
  cases hu : x.toModel.unpack with
  | notANumber => rw [hu] at hq; cases hq
  | infinity s => rw [hu] at hq; cases hq
  | _ => rfl

/-! ## Bounds from above -/

theorem Bounded.add (hx : Bounded a x) (hy : Bounded b y) (h : Fits (a + b)) :
    Bounded (a + b) (x + y) := by
  obtain ⟨p, hp, ha⟩ := hx
  obtain ⟨q, hq, hb⟩ := hy
  have hle : |p + q| ≤ a + b := (abs_add_le p q).trans (add_le_add ha hb)
  obtain ⟨r, hr, hfaithful⟩ := hp.add_faithful hq ⟨_, h, hle⟩
  exact ⟨r, hr, hfaithful.bound h hle⟩

theorem Bounded.sub (hx : Bounded a x) (hy : Bounded b y) (h : Fits (a + b)) :
    Bounded (a + b) (x - y) := by
  obtain ⟨p, hp, ha⟩ := hx
  obtain ⟨q, hq, hb⟩ := hy
  have hle : |p - q| ≤ a + b := (abs_sub p q).trans (add_le_add ha hb)
  obtain ⟨r, hr, hfaithful⟩ := hp.sub_faithful hq ⟨_, h, hle⟩
  exact ⟨r, hr, hfaithful.bound h hle⟩

theorem Bounded.mul (hx : Bounded a x) (hy : Bounded b y) (h : Fits (a * b)) :
    Bounded (a * b) (x * y) := by
  obtain ⟨p, hp, ha⟩ := hx
  obtain ⟨q, hq, hb⟩ := hy
  have hle : |p * q| ≤ a * b := by
    rw [abs_mul]
    exact mul_le_mul ha hb (abs_nonneg q) ((abs_nonneg p).trans ha)
  obtain ⟨r, hr, hfaithful⟩ := hp.mul_faithful hq ⟨_, h, hle⟩
  exact ⟨r, hr, hfaithful.bound h hle⟩

/-- What is bounded by a multiple of the divisor. -/
theorem Bounded.div (hx : Bounded (b * q) x) (hy : Denotes y q) (hq : 0 < q) (h : Fits b) :
    Bounded b (x / y) := by
  obtain ⟨p, hp, hb⟩ := hx
  have hle : |p / q| ≤ b := by
    rw [abs_div, abs_of_pos hq, div_le_iff₀ hq]
    exact hb
  obtain ⟨r, hr, hfaithful⟩ := hp.div_faithful hy hq.ne' ⟨_, h, hle⟩
  exact ⟨r, hr, hfaithful.bound h hle⟩

theorem bounded_foldl_add {α : Type} (f : α → Float) {n : Nat} (hfits : ∀ j ≤ n, Fits (j * b))
    (xs : List α) (hxs : ∀ x ∈ xs, Bounded b (f x)) {acc : Float} {j : Nat}
    (hj : j + xs.length ≤ n) (hacc : Bounded (j * b) acc) :
    Bounded ((j + xs.length : Nat) * b) (xs.foldl (fun acc x => acc + f x) acc) := by
  induction xs generalizing acc j with
  | nil => exact hacc
  | cons x xs ih =>
    rw [List.length_cons] at hj ⊢
    have hnext : (j : ℚ) * b + b = (j + 1 : Nat) * b := by
      push_cast
      ring
    have hadd := hacc.add (hxs x List.mem_cons_self)
    rw [hnext] at hadd
    have hstep := ih (fun z hz => hxs z (List.mem_cons_of_mem x hz)) (by omega)
      (hadd (hfits _ (by omega)))
    rw [Nat.add_assoc, Nat.add_comm 1] at hstep
    exact hstep

/-! ## Bounds from below -/

/-- The square of a number away from zero is not computed as zero. -/
theorem not_denotes_zero_mul_self (hx : Denotes x p) (ha : 0 < a) (hlow : a ≤ |p|)
    (hhigh : |p| ≤ b) (hfa : Fits (a * a)) (hfb : Fits (b * b)) : ¬Denotes (x * x) 0 := by
  have hrange : |p * p| ≤ b * b := by
    rw [abs_mul]
    exact mul_self_le_mul_self (abs_nonneg p) hhigh
  obtain ⟨r, hr, hfaithful⟩ := hx.mul_faithful hx ⟨_, hfb, hrange⟩
  have hsquare : a * a ≤ p * p := by
    rw [← abs_mul_abs_self p]
    exact mul_self_le_mul_self ha.le hlow
  intro h0
  have hle := hfaithful.le _ hfa hsquare
  rw [hr.eq h0] at hle
  exact absurd hle (not_le.2 (mul_pos ha ha))

theorem Denotes.sqrt_between (hx : Denotes x p) (ha : Fits a) (hb : Fits b) (ha0 : 0 ≤ a)
    (hb0 : 0 ≤ b) (hlow : a ^ 2 ≤ p) (hhigh : p ≤ b ^ 2) :
    ∃ r, Denotes x.sqrt r ∧ a ≤ r ∧ r ≤ b := by
  obtain ⟨r, hr, hfaithful⟩ := hx.sqrt_faithful ((sq_nonneg a).trans hlow)
  exact ⟨r, hr, hfaithful.le a ha ha0 hlow, hfaithful.ge b hb hb0 hhigh⟩

theorem Denotes.mul_between (hx : Denotes x p) (hy : Denotes y q) (ha : Fits a) (hb : Fits b)
    (ha0 : 0 ≤ a) (hlow : a ≤ p * q) (hhigh : p * q ≤ b) :
    ∃ r, Denotes (x * y) r ∧ a ≤ r ∧ r ≤ b := by
  have hrange : InRange (p * q) := ⟨b, hb, by rwa [abs_of_nonneg (ha0.trans hlow)]⟩
  obtain ⟨r, hr, hfaithful⟩ := hx.mul_faithful hy hrange
  exact ⟨r, hr, hfaithful.le a ha hlow, hfaithful.ge b hb hhigh⟩

theorem Denotes.div_between (hx : Denotes x p) (hy : Denotes y q) (hq : q ≠ 0) (ha : Fits a)
    (hb : Fits b) (ha0 : 0 ≤ a) (hlow : a ≤ p / q) (hhigh : p / q ≤ b) :
    ∃ r, Denotes (x / y) r ∧ a ≤ r ∧ r ≤ b := by
  have hrange : InRange (p / q) := ⟨b, hb, by rwa [abs_of_nonneg (ha0.trans hlow)]⟩
  obtain ⟨r, hr, hfaithful⟩ := hx.div_faithful hy hq hrange
  exact ⟨r, hr, hfaithful.le a ha hlow, hfaithful.ge b hb hhigh⟩

theorem IsNonneg.nonneg (h : IsNonneg x) (hx : Denotes x q) : 0 ≤ q := by
  change HasNoSign x.toModel.unpack at h
  change IsValue x.toModel.unpack q at hx
  cases hu : x.toModel.unpack with
  | notANumber => rw [hu] at hx; cases hx
  | infinity s => rw [hu] at hx; cases hx
  | zero s =>
    rw [hu] at hx
    exact ge_of_eq hx
  | finite s m e hm =>
    rw [hu] at hx h
    cases h
    rw [show q = ((m : Int) : ℚ) * 2 ^ e from hx]
    positivity

/-! ## Quotients that are numbers -/

theorem isNaN_roundWithAccuracy (s : Sign) {m : Nat} {e : Int} (he : e ≤ target m e)
    (acc : Accuracy) : (roundWithAccuracy .binary64 s m e acc).isNaN = false := by
  rcases roundWithAccuracy_cases s he acc with ⟨-, heq⟩ | ⟨q, t, hq, heq, -⟩
  · rw [heq]
    rfl
  · rw [heq]
    rfl

theorem isNaN_div_unpacked_eq_false {u v : UnpackedFloat} (hu : IsValue u p) (hv : IsValue v q)
    (hq : q ≠ 0) : (div .binary64 u v).isNaN = false := by
  cases v with
  | notANumber => cases hv
  | infinity t => cases hv
  | zero t => exact absurd hv hq
  | finite t n f hn =>
    cases u with
    | notANumber => cases hu
    | infinity s => cases hu
    | zero s => rfl
    | finite s m e hm =>
      obtain ⟨c, g, acc, hcore, hg, -⟩ := divCore_spec e f hm hn
      show (roundWithAccuracy .binary64 (s / t) (divCore .binary64 m e n f).1
        (divCore .binary64 m e n f).2.1 (divCore .binary64 m e n f).2.2).isNaN = false
      rw [hcore]
      exact isNaN_roundWithAccuracy (s / t) hg acc

/-- The quotient may overflow, but it is a number. -/
theorem isNaN_div_eq_false (hx : Denotes x p) (hy : Denotes y q) (hq : q ≠ 0) :
    (x / y).isNaN = false :=
  (isNaN_unpack_pack _).trans (isNaN_div_unpacked_eq_false hx hy hq)

end Operations

end TwoVenues.Double

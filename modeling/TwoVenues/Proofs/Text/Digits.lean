import Mathlib.Algebra.Group.Nat.Defs
import Mathlib.Data.List.Basic
import TwoVenues.Text.Digits

/-!
# Runs of digits and their values

* `digitsValue_decimal`, `digitsValue_padded` : a written number has its value, whatever the width;
* `digitsValue_lt` : a run of `k` digits is below `10 ^ k`;
* `eq_of_digitsValue_eq` : among runs of one length the value determines the run;
* `padded_digitsValue` : a run of digits is its value, padded to its length;
* `eq_decimal_or_padded` : the ways to write a number in one or two digits.
-/

namespace TwoVenues.Text

/-! ## Values -/

theorem digitsValue_eq_ofDigitChars (digits : List Char) :
    digitsValue digits = Nat.ofDigitChars 10 digits 0 := rfl

theorem digitsValue_cons (c : Char) (digits : List Char) :
    digitsValue (c :: digits) = 10 ^ digits.length * digitValue c + digitsValue digits := by
  simp only [digitsValue_eq_ofDigitChars]
  rw [Nat.ofDigitChars_cons, Nat.ofDigitChars_eq_ofDigitChars_zero, Nat.mul_zero, Nat.zero_add,
    digitValue]

theorem digitsValue_decimal (n : Nat) : digitsValue (decimal n) = n :=
  Nat.ofDigitChars_ten_toDigits

theorem digitsValue_padded (width n : Nat) : digitsValue (padded width n) = n := by
  rw [padded, List.leftpad, digitsValue_eq_ofDigitChars, Nat.ofDigitChars_append,
    Nat.ofDigitChars_replicate_zero, Nat.mul_zero]
  exact digitsValue_decimal n

theorem digitValue_lt {c : Char} (h : c.isDigit) : digitValue c < 10 := by
  obtain ⟨-, h9⟩ := Char.isDigit_iff_toNat.1 h
  have : '9'.toNat = 57 := rfl
  have : '0'.toNat = 48 := rfl
  unfold digitValue
  omega

theorem digitValue_inj {c d : Char} (hc : c.isDigit) (hd : d.isDigit)
    (h : digitValue c = digitValue d) : c = d := by
  obtain ⟨hc0, -⟩ := Char.isDigit_iff_toNat.1 hc
  obtain ⟨hd0, -⟩ := Char.isDigit_iff_toNat.1 hd
  unfold digitValue at h
  exact Char.toNat_inj.1 (by omega)

theorem digitsValue_lt {digits : List Char} (h : ∀ c ∈ digits, c.isDigit) :
    digitsValue digits < 10 ^ digits.length := by
  induction digits with
  | nil => simp [digitsValue]
  | cons c cs ih =>
    have hc := digitValue_lt (h c (by simp))
    have hcs := ih fun d hd => h d (by simp [hd])
    rw [digitsValue_cons, List.length_cons, Nat.pow_succ]
    calc 10 ^ cs.length * digitValue c + digitsValue cs
        < 10 ^ cs.length * digitValue c + 10 ^ cs.length := by omega
      _ = 10 ^ cs.length * (digitValue c + 1) := by rw [Nat.mul_add, Nat.mul_one]
      _ ≤ 10 ^ cs.length * 10 := Nat.mul_le_mul_left _ hc

theorem eq_of_digitsValue_eq {xs ys : List Char} (hx : ∀ c ∈ xs, c.isDigit)
    (hy : ∀ c ∈ ys, c.isDigit) (hlen : xs.length = ys.length)
    (h : digitsValue xs = digitsValue ys) : xs = ys := by
  induction xs generalizing ys with
  | nil => exact (List.length_eq_zero_iff.1 hlen.symm).symm
  | cons c cs ih =>
    cases ys with
    | nil => simp at hlen
    | cons d ds =>
      have hl : cs.length = ds.length := by simpa using hlen
      have hcs := digitsValue_lt fun x hx' => hx x (List.mem_cons_of_mem c hx')
      have hds := digitsValue_lt fun y hy' => hy y (List.mem_cons_of_mem d hy')
      rw [digitsValue_cons, digitsValue_cons, hl] at h
      rw [hl] at hcs
      -- the leading digit is the quotient by the weight of its place, the rest the remainder
      have hpos : 0 < 10 ^ ds.length := Nat.pow_pos (by decide)
      have hrest : digitsValue cs = digitsValue ds := by
        have := congrArg (· % 10 ^ ds.length) h
        simpa [Nat.mod_eq_of_lt hcs, Nat.mod_eq_of_lt hds] using this
      have hlead : digitValue c = digitValue d :=
        Nat.eq_of_mul_eq_mul_left hpos (by omega)
      rw [digitValue_inj (hx c (by simp)) (hy d (by simp)) hlead,
        ih (fun x hx' => hx x (by simp [hx'])) (fun y hy' => hy y (by simp [hy'])) hl hrest]

/-! ## Written numbers -/

theorem isDigit_of_mem_decimal {n : Nat} {c : Char} (h : c ∈ decimal n) : c.isDigit :=
  Nat.isDigit_of_mem_toDigits (by decide) (by decide) h

theorem isDigit_of_mem_padded {width n : Nat} {c : Char} (h : c ∈ padded width n) : c.isDigit := by
  rw [padded, List.leftpad, List.mem_append] at h
  rcases h with h | h
  · rw [List.eq_of_mem_replicate h]
    decide
  · exact isDigit_of_mem_decimal h

theorem length_decimal_pos (n : Nat) : 0 < (decimal n).length := Nat.length_toDigits_pos

theorem length_padded {width n : Nat} (hw : 0 < width) (h : n < 10 ^ width) :
    (padded width n).length = width := by
  have hle : (decimal n).length ≤ width := (Nat.length_toDigits_le_iff (by decide) hw).2 h
  rw [padded, List.length_leftpad]
  omega

theorem padded_digitsValue {width : Nat} {digits : List Char} (hw : 0 < width)
    (hlen : digits.length = width) (h : ∀ c ∈ digits, c.isDigit) :
    padded width (digitsValue digits) = digits := by
  subst hlen
  exact eq_of_digitsValue_eq (fun _ hc => isDigit_of_mem_padded hc) h
    (length_padded hw (digitsValue_lt h)) (digitsValue_padded _ _)

theorem padded_one {n : Nat} (h : n < 10) : padded 1 n = decimal n := by
  have hlen : (padded 1 n).length = 1 := length_padded (by decide) h
  have hpos := length_decimal_pos n
  rw [padded, List.length_leftpad] at hlen
  rw [padded, List.leftpad, Nat.sub_eq_zero_of_le (by omega), List.replicate_zero, List.nil_append]

theorem padded_two_of_lt {n : Nat} (h : n < 10) : padded 2 n = '0' :: decimal n := by
  have hlen := congrArg List.length (padded_one h)
  rw [length_padded (by decide) h] at hlen
  rw [padded, List.leftpad, ← hlen]
  rfl

theorem padded_two_of_le {n : Nat} (h : 10 ≤ n) : padded 2 n = decimal n := by
  have hlen : ¬(decimal n).length ≤ 1 := fun hle =>
    absurd ((Nat.length_toDigits_le_iff (by decide) (by decide)).1 hle) (by omega)
  rw [padded, List.leftpad, Nat.sub_eq_zero_of_le (by omega), List.replicate_zero, List.nil_append]

/-- In one or two digits a number is written in decimal, or as a zero and a single digit. -/
theorem eq_decimal_or_padded {digits : List Char} (h : ∀ c ∈ digits, c.isDigit)
    (hlen : digits.length = 1 ∨ digits.length = 2) :
    digits = decimal (digitsValue digits) ∨
      digitsValue digits < 10 ∧ digits = '0' :: decimal (digitsValue digits) := by
  have hlt := digitsValue_lt h
  rcases hlen with h1 | h2
  · rw [h1] at hlt
    exact Or.inl ((padded_digitsValue (by decide) h1 h).symm.trans (padded_one hlt))
  · have hpad := padded_digitsValue (by decide) h2 h
    rcases Nat.lt_or_ge (digitsValue digits) 10 with hv | hv
    · exact Or.inr ⟨hv, hpad.symm.trans (padded_two_of_lt hv)⟩
    · exact Or.inl (hpad.symm.trans (padded_two_of_le hv))

end TwoVenues.Text

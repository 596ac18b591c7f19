import Mathlib.Algebra.Group.Nat.Defs
import Mathlib.Data.Nat.Log
import TwoVenues.Proofs.Clusters.Runs

/-!
# Ranks stay logarithmic

A rank rises only when two sets whose roots have the same rank are joined, so that a root of rank
`k` stands for at least `2 ^ k` elements, of which there are no more than `n`.

* `elements f r`, `IsHeavy f` : the elements that a root stands for, and what its rank says of them;
* `IsHeavy.compress`, `IsHeavy.link`, `IsHeavy.union`, `IsHeavy.run` : heaviness is kept;
* `IsHeavy.two_pow_rank_le`, `IsHeavy.rank_le_log` : the bound on ranks;
* `IsHeavy.length_path_le` : the bound on ways.
-/

namespace TwoVenues.DisjointSets

variable {n : Nat} {f g : DisjointSets n}

def elements (f : DisjointSets n) (r : Fin n) : Finset (Fin n) :=
  Finset.univ.filter fun x => f.root x = r

theorem mem_elements {r x : Fin n} : x ∈ f.elements r ↔ f.root x = r := by
  simp [elements]

/-- A root of rank `k` stands for at least `2 ^ k` elements. -/
def IsHeavy (f : DisjointSets n) : Prop :=
  ∀ r, f.root r = r → 2 ^ f.rank r ≤ (f.elements r).card

namespace IsHeavy

theorem singletons (n : Nat) : (DisjointSets.singletons n).IsHeavy := by
  intro r hr
  have hrank : (DisjointSets.singletons n).rank r = 0 := by
    simp [rank, DisjointSets.singletons, get_eq_getElem]
  rw [hrank, Nat.pow_zero]
  exact Finset.card_pos.2 ⟨r, mem_elements.2 hr⟩

theorem compress (h : f.IsHeavy) (i : Fin n) : (f.compress i).IsHeavy := by
  intro r hr
  have helements : (f.compress i).elements r = f.elements r := by
    ext x
    rw [mem_elements, mem_elements, root_compress]
  rw [root_compress] at hr
  rw [rank_compress, helements]
  exact h r hr

/-- The set of `s` goes over to `r`, whose rank rises only if `s` had the same. -/
theorem merge (h : f.IsHeavy) {r s : Fin n} (hr : f.root r = r) (hs : f.root s = s) (hne : r ≠ s)
    (hroot : ∀ x, g.root x = if f.root x = s then r else f.root x)
    (hkept : ∀ t, t ≠ r → g.rank t = f.rank t)
    (hrise : g.rank r = f.rank r ∨ f.rank s = f.rank r ∧ g.rank r = f.rank r + 1) :
    g.IsHeavy := by
  intro t ht
  have hts : t ≠ s := by
    rintro rfl
    rw [hroot, if_pos hs] at ht
    exact hne ht
  have hsubset : f.elements t ⊆ g.elements t := by
    intro x hx
    rw [mem_elements] at hx ⊢
    rw [hroot, hx, if_neg hts]
  by_cases htr : t = r
  · subst htr
    rcases hrise with hsame | ⟨hequal, hup⟩
    · rw [hsame]
      exact (h t hr).trans (Finset.card_le_card hsubset)
    · -- both sets have as many elements as the old rank asks for
      have hdisjoint : Disjoint (f.elements t) (f.elements s) := by
        rw [Finset.disjoint_left]
        intro x hx hxs
        exact hne ((mem_elements.1 hx).symm.trans (mem_elements.1 hxs))
      have hunion : f.elements t ∪ f.elements s ⊆ g.elements t := by
        refine Finset.union_subset hsubset fun x hx => ?_
        rw [mem_elements] at hx ⊢
        rw [hroot, if_pos hx]
      calc 2 ^ g.rank t = 2 ^ f.rank t + 2 ^ f.rank s := by rw [hup, hequal, Nat.pow_succ]; omega
        _ ≤ (f.elements t).card + (f.elements s).card := Nat.add_le_add (h t hr) (h s hs)
        _ = (f.elements t ∪ f.elements s).card := (Finset.card_union_of_disjoint hdisjoint).symm
        _ ≤ (g.elements t).card := Finset.card_le_card hunion
  · have hroott : f.root t = t := by
      rw [hroot] at ht
      by_cases hxs : f.root t = s
      · rw [if_pos hxs] at ht
        exact absurd ht.symm htr
      · rwa [if_neg hxs] at ht
    rw [hkept t htr]
    exact (h t hroott).trans (Finset.card_le_card hsubset)

theorem link (h : f.IsHeavy) {r s : Fin n} (hr : f.IsRoot r) (hs : f.IsRoot s) (hne : r ≠ s) :
    (f.link r s hr hne).IsHeavy := by
  have hr' := root_of_isRoot hr
  have hs' := root_of_isRoot hs
  unfold DisjointSets.link
  split
  · next hlt => exact h.merge hs' hr' hne.symm (root_pointAt hlt hr hs) (fun _ _ => rfl) (.inl rfl)
  · next hnlt =>
    split
    · next hgt => exact h.merge hr' hs' hne (root_pointAt hgt hs hr) (fun _ _ => rfl) (.inl rfl)
    · next hngt =>
      have hrank : ∀ t, (f.raise r hr).rank t = if r = t then f.rank r + 1 else f.rank t :=
        fun t => get_set f.ranks r t (f.rank r + 1)
      refine h.merge hr' hs' hne (fun x => ?_) (fun t ht => ?_) (.inr ⟨by omega, ?_⟩)
      · rw [root_pointAt _ (show (f.raise r hr).IsRoot s from hs)
          (show (f.raise r hr).IsRoot r from hr), root_raise]
      · exact (hrank t).trans (if_neg ht.symm)
      · exact (hrank r).trans (if_pos rfl)

theorem union (h : f.IsHeavy) (i j : Fin n) : (f.union i j).2.IsHeavy := by
  have hcompress := (h.compress i).compress j
  unfold DisjointSets.union
  simp only
  split
  · exact hcompress
  · next hne => exact hcompress.link _ (isRoot_compress ((f.compress i).isRoot_root j)) hne

theorem run (h : f.IsHeavy) (calls : List (Call n)) : (f.run calls).2.IsHeavy := by
  induction calls generalizing f with
  | nil => exact h
  | cons c cs ih =>
    cases c with
    | find i => exact ih (h.compress i)
    | union i j => exact ih (h.union i j)

/-- There are no more elements than `n`, hence ranks are at most the logarithm of `n`. -/
theorem two_pow_rank_le (h : f.IsHeavy) (i : Fin n) : 2 ^ f.rank i ≤ n := by
  calc 2 ^ f.rank i ≤ 2 ^ f.rank (f.root i) := Nat.pow_le_pow_right (by decide) (f.rank_le_root i)
    _ ≤ (f.elements (f.root i)).card := h _ (f.root_root i)
    _ ≤ n := (Finset.card_le_univ _).trans_eq (Fintype.card_fin n)

theorem rank_lt (h : f.IsHeavy) {k : Nat} (hn : n < 2 ^ k) (i : Fin n) : f.rank i < k :=
  (Nat.pow_lt_pow_iff_right (by decide)).1 ((h.two_pow_rank_le i).trans_lt hn)

theorem rank_le_log (h : f.IsHeavy) (i : Fin n) : f.rank i ≤ Nat.log 2 n :=
  Nat.le_log_of_pow_le (by decide) (h.two_pow_rank_le i)

end IsHeavy

theorem IsHeavy.length_path_le (h : f.IsHeavy) (i : Fin n) : (f.path i).length ≤ Nat.log 2 n :=
  calc (f.path i).length ≤ f.rank i + (f.path i).length := Nat.le_add_left _ _
    _ ≤ f.rank (f.root i) := f.rank_add_length_path_le i
    _ ≤ Nat.log 2 n := h.rank_le_log _

end TwoVenues.DisjointSets

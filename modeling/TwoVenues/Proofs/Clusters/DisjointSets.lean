import Mathlib.Logic.Relation
import TwoVenues.Clusters.DisjointSets

/-!
# Sets are the classes of the joined pairs

* `root_unique` : a map that is constant along parents and fixes the roots is `root`;
* `not_mem_path_parent`, `rank_add_length_path_le`, `length_path_lt` : ways lead upward and are short;
* `root_compress`, `root_pointAt`, `root_raise` : the roots after each change of the forest;
* `union_cases`, `root_union_eq_iff` : the roots once two sets are joined, and what shares one;
* `Represents f edges` : two elements share a set of `f` exactly if a chain of `edges` joins them;
* `Represents.union`, `Represents.foldl` : joining two sets adds one edge, and many steps many.
-/

namespace TwoVenues.DisjointSets

variable {n : Nat}

/-! ## Roots -/

section Roots
variable {f : DisjointSets n}

theorem root_parent (f : DisjointSets n) (i : Fin n) : f.root (f.parent i) = f.root i := by
  by_cases h : f.IsRoot i
  · rw [show f.parent i = i from h]
  · exact (root_of_not_isRoot h).symm

theorem root_root (f : DisjointSets n) (i : Fin n) : f.root (f.root i) = f.root i :=
  root_of_isRoot (f.isRoot_root i)

theorem root_of_mem_path (f : DisjointSets n) {i j : Fin n} (h : j ∈ f.path i) :
    f.root j = f.root i := by
  fun_induction path f i with
  | case1 => cases h
  | case2 i hi ih =>
    rcases List.mem_cons.1 h with rfl | h
    · rfl
    · rw [ih h, root_parent]

theorem root_unique {φ : Fin n → Fin n} (hparent : ∀ i, φ (f.parent i) = φ i)
    (hroot : ∀ i, f.IsRoot i → φ i = i) (i : Fin n) : f.root i = φ i := by
  fun_induction root f i with
  | case1 i h => exact (hroot i h).symm
  | case2 i _ ih => rw [ih, hparent]

end Roots

/-! ## Ways -/

section Ways
variable {f : DisjointSets n} {i j : Fin n}

theorem path_of_isRoot (h : f.IsRoot i) : f.path i = [] := by
  rw [path, if_pos h]

theorem path_of_not_isRoot (h : ¬f.IsRoot i) : f.path i = i :: f.path (f.parent i) := by
  rw [path, if_neg h]

theorem rank_le_of_mem_path (h : j ∈ f.path i) : f.rank i ≤ f.rank j := by
  fun_induction path f i with
  | case1 => exact absurd h List.not_mem_nil
  | case2 i hi ih =>
    rcases List.mem_cons.1 h with rfl | h
    · exact Nat.le_refl _
    · exact Nat.le_trans (Nat.le_of_lt (f.rank_lt_rank_parent hi)) (ih h)

/-- A way leads upward, so that it never comes back to where it began. -/
theorem not_mem_path_parent (h : ¬f.IsRoot i) : i ∉ f.path (f.parent i) := fun hmem =>
  Nat.not_le.2 (f.rank_lt_rank_parent h) (rank_le_of_mem_path hmem)

/-- Every step of a way leads to a higher rank. -/
theorem rank_add_length_path_le (f : DisjointSets n) (i : Fin n) :
    f.rank i + (f.path i).length ≤ f.rank (f.root i) := by
  fun_induction path f i with
  | case1 i h => exact f.rank_le_root i
  | case2 i h ih =>
    have hup := f.rank_lt_rank_parent h
    rw [root_of_not_isRoot h, List.length_cons]
    omega

/-- An element does not stand above itself. -/
theorem above_lt (f : DisjointSets n) (i : Fin n) : f.above i < n := by
  have hall : f.above i ≠ (List.finRange n).length := fun heq =>
    absurd (List.countP_eq_length.1 heq i (List.mem_finRange i)) (by simp)
  have hle : f.above i ≤ (List.finRange n).length := List.countP_le_length
  rw [List.length_finRange] at hall hle
  omega

/-- The elements of a way but its first one stand above that one. -/
theorem length_path_lt (f : DisjointSets n) (i : Fin n) : (f.path i).length < n := by
  have habove : (f.path i).length ≤ f.above i := by
    fun_induction path f i with
    | case1 => exact Nat.zero_le _
    | case2 i h ih => exact Nat.lt_of_le_of_lt ih (f.above_lt_above (f.rank_lt_rank_parent h))
  exact Nat.lt_of_le_of_lt habove (above_lt f i)

end Ways

/-! ## Changes of the forest -/

theorem root_compress (f : DisjointSets n) (i j : Fin n) : (f.compress i).root j = f.root j := by
  refine root_unique (fun k => ?_) (fun k hk => ?_) j
  · by_cases hmem : k ∈ f.path i
    · rw [parent_compress_of_mem f hmem, root_root, f.root_of_mem_path hmem]
    · rw [parent_compress_of_not_mem f hmem, root_parent]
  · unfold IsRoot at hk
    by_cases hmem : k ∈ f.path i
    · rw [parent_compress_of_mem f hmem] at hk
      rw [f.root_of_mem_path hmem, hk]
    · rw [parent_compress_of_not_mem f hmem] at hk
      exact root_of_isRoot hk

theorem parent_pointAt (f : DisjointSets n) {r s : Fin n} (h : f.rank r < f.rank s) (i : Fin n) :
    (f.pointAt r s h).parent i = if r = i then s else f.parent i :=
  get_set _ _ _ _

theorem root_pointAt {f : DisjointSets n} {r s : Fin n} (h : f.rank r < f.rank s)
    (hr : f.IsRoot r) (hs : f.IsRoot s) (i : Fin n) :
    (f.pointAt r s h).root i = if f.root i = r then s else f.root i := by
  have hne : s ≠ r := by
    rintro rfl
    exact Nat.lt_irrefl _ h
  refine root_unique (φ := fun k => if f.root k = r then s else f.root k) (fun k => ?_)
    (fun k hk => ?_) i
  · rw [parent_pointAt]
    by_cases hk : r = k
    · subst hk
      rw [if_pos rfl, root_of_isRoot hs, root_of_isRoot hr, if_neg hne, if_pos rfl]
    · rw [if_neg hk, root_parent]
  · unfold IsRoot at hk
    rw [parent_pointAt] at hk
    by_cases hkr : r = k
    · rw [if_pos hkr] at hk
      exact absurd (hk.trans hkr.symm) hne
    · rw [if_neg hkr] at hk
      rw [root_of_isRoot hk, if_neg (Ne.symm hkr)]

theorem root_raise (f : DisjointSets n) {r : Fin n} (h : f.IsRoot r) (i : Fin n) :
    (f.raise r h).root i = f.root i :=
  root_unique (f := f.raise r h) (φ := f.root) f.root_parent (fun _ hk => root_of_isRoot hk) i

/-- Two linked sets have one of the two roots. -/
theorem exists_root_link {f : DisjointSets n} {r s : Fin n} (hr : f.IsRoot r) (hs : f.IsRoot s)
    (hne : r ≠ s) : ∃ t, (t = r ∨ t = s) ∧
      ∀ i, (f.link r s hr hne).root i = if f.root i = r ∨ f.root i = s then t else f.root i := by
  have hmerge : ∀ {a b x : Fin n}, (if x = a then b else x) = if x = a ∨ x = b then b else x := by
    intro a b x
    by_cases ha : x = a
    · rw [if_pos ha, if_pos (Or.inl ha)]
    · by_cases hb : x = b
      · rw [if_neg ha, if_pos (Or.inr hb), hb]
      · rw [if_neg ha, if_neg (not_or.2 ⟨ha, hb⟩)]
  unfold link
  split
  · next hlt =>
    exact ⟨s, Or.inr rfl, fun i => by rw [root_pointAt hlt hr hs, hmerge]⟩
  · split
    · next hgt =>
      refine ⟨r, Or.inl rfl, fun i => ?_⟩
      rw [root_pointAt hgt hs hr, hmerge]
      simp only [or_comm]
    · refine ⟨r, Or.inl rfl, fun i => ?_⟩
      have hs' : (f.raise r hr).IsRoot s := hs
      have hr' : (f.raise r hr).IsRoot r := hr
      rw [root_pointAt _ hs' hr', root_raise, hmerge]
      simp only [or_comm]

/-- What joining does: nothing if the elements share a set, and else one of their two roots stands
for all that either of them stood for. -/
theorem union_cases (f : DisjointSets n) (i j : Fin n) :
    (f.root i = f.root j ∧ (f.union i j).1 = false ∧ ∀ x, (f.union i j).2.root x = f.root x) ∨
    (f.root i ≠ f.root j ∧ (f.union i j).1 = true ∧ ∃ t, (t = f.root i ∨ t = f.root j) ∧
      ∀ x, (f.union i j).2.root x =
        if f.root x = f.root i ∨ f.root x = f.root j then t else f.root x) := by
  have hroots : ∀ k, ((f.compress i).compress j).root k = f.root k := fun k => by
    rw [root_compress, root_compress]
  unfold union
  simp only [root_compress]
  split
  · next hsame => exact Or.inl ⟨hsame, rfl, hroots⟩
  · next hne =>
    have hi : ((f.compress i).compress j).IsRoot (f.root i) :=
      isRoot_compress (isRoot_compress (f.isRoot_root i))
    have hj : ((f.compress i).compress j).IsRoot (f.root j) :=
      isRoot_compress (isRoot_compress (f.isRoot_root j))
    obtain ⟨t, ht, hlink⟩ := exists_root_link hi hj hne
    exact Or.inr ⟨hne, rfl, t, ht, fun x => by rw [hlink, hroots]⟩

theorem root_union_eq_iff (f : DisjointSets n) (i j x y : Fin n) :
    (f.union i j).2.root x = (f.union i j).2.root y ↔ f.root x = f.root y ∨
      (f.root x = f.root i ∧ f.root y = f.root j) ∨
      (f.root x = f.root j ∧ f.root y = f.root i) := by
  rcases f.union_cases i j with ⟨hsame, -, hroot⟩ | ⟨-, -, t, ht, hroot⟩
  · rw [hroot, hroot]
    grind
  · rw [hroot, hroot]
    grind

/-! ## Classes -/

/-- Two elements share a set exactly if a chain of the given pairs joins them. -/
def Represents (f : DisjointSets n) (edges : List (Fin n × Fin n)) : Prop :=
  ∀ x y, f.root x = f.root y ↔ Relation.EqvGen (fun i j => (i, j) ∈ edges) x y

theorem root_eq_of_eqvGen {f : DisjointSets n} {r : Fin n → Fin n → Prop}
    (h : ∀ i j, r i j → f.root i = f.root j) {x y : Fin n} (hxy : Relation.EqvGen r x y) :
    f.root x = f.root y := by
  have heq : Equivalence fun i j => f.root i = f.root j := ⟨fun _ => rfl, Eq.symm, Eq.trans⟩
  exact heq.eqvGen_iff.1 (hxy.mono h)

theorem root_singletons (i : Fin n) : (singletons n).root i = i :=
  root_of_isRoot (by simp [IsRoot, parent, singletons, get_eq_getElem])

theorem Represents.singletons (n : Nat) : (singletons n).Represents [] := by
  intro x y
  rw [root_singletons, root_singletons]
  constructor
  · rintro rfl
    exact .refl _
  · intro h
    have := root_eq_of_eqvGen (f := .singletons n) (fun _ _ he => by cases he) h
    rwa [root_singletons, root_singletons] at this

/-- Joining two sets adds one edge. -/
theorem Represents.union {f : DisjointSets n} {edges : List (Fin n × Fin n)}
    (h : f.Represents edges) (i j : Fin n) : (f.union i j).2.Represents (edges ++ [(i, j)]) := by
  intro x y
  have hmono : ∀ {a b}, f.root a = f.root b →
      Relation.EqvGen (fun a b => (a, b) ∈ edges ++ [(i, j)]) a b := fun hab =>
    ((h _ _).1 hab).mono fun _ _ he => List.mem_append_left _ he
  have hnew : Relation.EqvGen (fun a b => (a, b) ∈ edges ++ [(i, j)]) i j :=
    .rel _ _ (List.mem_append_right _ (List.mem_singleton_self _))
  constructor
  · rw [root_union_eq_iff]
    rintro (hxy | ⟨hxi, hyj⟩ | ⟨hxj, hyi⟩)
    · exact hmono hxy
    · exact .trans _ _ _ (hmono hxi) (.trans _ _ _ hnew (hmono hyj.symm))
    · exact .trans _ _ _ (hmono hxj) (.trans _ _ _ hnew.symm (hmono hyi.symm))
  · refine root_eq_of_eqvGen fun a b hab => ?_
    rw [root_union_eq_iff]
    rcases List.mem_append.1 hab with hab | hab
    · exact Or.inl ((h a b).2 (.rel _ _ hab))
    · obtain ⟨rfl, rfl⟩ := Prod.mk.inj (List.mem_singleton.1 hab)
      exact Or.inr (Or.inl ⟨rfl, rfl⟩)

/-- Steps that each add at most one edge add the edges of all steps. -/
theorem Represents.foldl {α : Type} {step : DisjointSets n → α → DisjointSets n}
    {edge? : α → Option (Fin n × Fin n)}
    (hstep : ∀ {f : DisjointSets n} {edges}, f.Represents edges →
      ∀ a, (step f a).Represents (edges ++ (edge? a).toList))
    {f : DisjointSets n} {edges : List (Fin n × Fin n)} (h : f.Represents edges) (as : List α) :
    (as.foldl step f).Represents (edges ++ as.filterMap edge?) := by
  induction as generalizing f edges with
  | nil => rwa [List.filterMap_nil, List.append_nil]
  | cons a as ih =>
    have hcons : (a :: as).filterMap edge? = (edge? a).toList ++ as.filterMap edge? := by
      rw [List.filterMap_cons]
      cases edge? a <;> rfl
    rw [List.foldl_cons, hcons, ← List.append_assoc]
    exact ih (hstep h a)

end TwoVenues.DisjointSets

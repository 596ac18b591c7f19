import Mathlib.Data.Nat.Log
import Mathlib.Logic.Relation
import TwoVenues.Proofs.Checked.Forest
import TwoVenues.Proofs.Clusters.Ranks

/-!
# Runs on the two tables

Elements are looked up and sets are joined in any order, from one set for each element. The tables
stay those of disjoint sets in which a root of rank `k` stands for at least `2 ^ k` elements. So no
rank comes near its last value, ways are no longer than a logarithm, and no call fails.

* `call?`, `run?`, `run?_singletons` : runs of calls, and the sets whose tables they lead to;
* `PointsAt`, `reaches_iff`, `length_le_of_isChain` : ways in the tables, in terms of `path`;
* `IsShallow`, `run?_isShallow` : ranks and ways after any run;
* `IsShortened`, `find?_shortens_way` : looking an element up changes its way and nothing else.
-/

namespace TwoVenues.Checked.Forest
open DisjointSets (Call)
open Relation (ReflTransGen)

variable {n : Nat}

/-! ## Runs -/

def call? (g : Forest) : Call n → Option Forest
  | .find i => do
    let (_, g) ← g.find? i
    return g
  | .union i j => do
    let (_, g) ← g.union? i j
    return g

def run? (g : Forest) (calls : List (Call n)) : Option Forest := calls.foldlM call? g

theorem call?_ofSets (hn : n < 2 ^ 255) {f : DisjointSets n} (h : f.IsHeavy) (c : Call n) :
    (ofSets f).call? c = some (ofSets (f.call c).2) := by
  cases c with
  | find i =>
    simp only [call?, find?_ofSets, Option.bind_eq_bind, Option.bind_some]
    rfl
  | union i j =>
    simp only [call?, union?_ofSets (h.rank_lt hn), Option.bind_eq_bind, Option.bind_some]
    rfl

theorem run?_ofSets (hn : n < 2 ^ 255) {f : DisjointSets n} (h : f.IsHeavy)
    (calls : List (Call n)) :
    (ofSets f).run? calls = some (ofSets (f.run calls).2) := by
  induction calls generalizing f with
  | nil => rfl
  | cons c cs ih =>
    have hcall : (f.call c).2.IsHeavy := h.run [c]
    rw [run?, List.foldlM_cons, call?_ofSets hn h, Option.bind_eq_bind, Option.bind_some, ← run?,
      ih hcall]
    rfl

/-- Numbers of 64 bits are not enough for a rank of 255. -/
theorem run?_singletons (hn : n < 2 ^ 64) (calls : List (Call n)) :
    (singletons n).run? calls = some (ofSets ((DisjointSets.singletons n).run calls).2) := by
  have hranks : n < 2 ^ 255 := hn.trans (by decide)
  rw [singletons_eq]
  exact run?_ofSets hranks (.singletons n) calls

/-! ## Ways -/

def PointsAt (g : Forest) (i p : Nat) : Prop := g.parents[i]? = some p ∧ p ≠ i

section Ways
variable {f : DisjointSets n}

theorem exists_of_getElem?_table {parents : Vector (Fin n) n} {i p : Nat}
    (h : (table parents)[i]? = some p) : ∃ k : Fin n, k.val = i ∧ (parents.get k).val = p := by
  obtain ⟨hi, -⟩ := List.getElem?_eq_some_iff.1 h
  rw [length_table] at hi
  refine ⟨⟨i, hi⟩, rfl, ?_⟩
  have hk := getElem?_table parents ⟨i, hi⟩
  exact Option.some.inj (hk.symm.trans h)

theorem getElem?_parents (f : DisjointSets n) (i : Fin n) :
    (ofSets f).parents[i.val]? = some (f.parent i).val :=
  getElem?_table f.parents i

theorem pointsAt_iff {i : Fin n} {p : Nat} :
    (ofSets f).PointsAt i p ↔ ¬f.IsRoot i ∧ p = f.parent i := by
  unfold PointsAt DisjointSets.IsRoot
  rw [getElem?_parents, Option.some.injEq, Fin.ext_iff]
  omega

/-- What an element reaches is what is on its way, and its root. -/
theorem reaches_iff {i : Fin n} {y : Nat} :
    ReflTransGen (ofSets f).PointsAt i y ↔ (∃ j ∈ f.path i, j.val = y) ∨ y = f.root i := by
  fun_induction DisjointSets.path f i with
  | case1 i h =>
    rw [ReflTransGen.cases_head_iff, DisjointSets.root_of_isRoot h]
    simp [pointsAt_iff, h, eq_comm]
  | case2 i h ih =>
    rw [ReflTransGen.cases_head_iff, DisjointSets.root_of_not_isRoot h]
    simp only [pointsAt_iff, h, not_false_eq_true, true_and, exists_eq_left, ih, List.mem_cons,
      exists_eq_or_imp, or_assoc]

/-- A chain of elements that each point at the next one is part of a way. -/
theorem length_le_length_path {i : Fin n} {rest : List Nat}
    (h : (i.val :: rest).IsChain (ofSets f).PointsAt) : rest.length ≤ (f.path i).length := by
  induction rest generalizing i with
  | nil => exact Nat.zero_le _
  | cons p rest ih =>
    obtain ⟨hpoints, hrest⟩ := List.isChain_cons_cons.1 h
    obtain ⟨hroot, rfl⟩ := pointsAt_iff.1 hpoints
    rw [DisjointSets.path_of_not_isRoot hroot]
    exact Nat.succ_le_succ (ih hrest)

theorem length_le_of_isChain (h : f.IsHeavy) {way : List Nat}
    (hway : way.IsChain (ofSets f).PointsAt) : way.length ≤ Nat.log 2 n + 1 := by
  match way with
  | [] => exact Nat.zero_le _
  | [_] => exact Nat.le_add_left 1 _
  | i :: p :: rest =>
    obtain ⟨k, rfl, -⟩ := exists_of_getElem?_table (List.isChain_cons_cons.1 hway).1.1
    exact Nat.succ_le_succ ((length_le_length_path hway).trans (h.length_path_le k))

end Ways

/-! ## Ranks and ways after any run -/

/-- Ranks rise along ways and say how much a root stands for, so that ways are short and both loops
of a call end with them. -/
structure IsShallow (n : Nat) (g : Forest) : Prop where
  rises : ∀ i p, g.PointsAt i p → ∃ k l, g.ranks[i]? = some k ∧ g.ranks[p]? = some l ∧ k < l
  heavy : ∀ r k, g.parents[r]? = some r → g.ranks[r]? = some k →
    2 ^ k ≤ ((Finset.range n).filter fun x => (g.find? x).map Prod.fst = some r).card
  rank_le : ∀ k ∈ g.ranks, k ≤ Nat.log 2 n
  length_le : ∀ way : List Nat, way.IsChain g.PointsAt → way.length ≤ Nat.log 2 n + 1
  ends : ∀ x < n, ∃ r parents, root? g.parents (Nat.log 2 n + 1) x = some r ∧
    compress? r (Nat.log 2 n + 1) g.parents x = some parents ∧
    g.find? x = some (r, ⟨parents, g.ranks⟩)

section Shallow
variable {f : DisjointSets n}

theorem getElem?_ranks (f : DisjointSets n) (i : Fin n) :
    (ofSets f).ranks[i.val]? = some (f.rank i) :=
  getElem?_toList f.ranks i

theorem card_elements_le (f : DisjointSets n) (r : Fin n) : (f.elements r).card ≤
    ((Finset.range n).filter fun x => ((ofSets f).find? x).map Prod.fst = some r.val).card := by
  refine Finset.card_le_card_of_injOn Fin.val (fun x hx => ?_) (Fin.val_injective.injOn)
  have hroot : f.root x = r := DisjointSets.mem_elements.1 hx
  rw [Finset.mem_coe, Finset.mem_filter, find?_ofSets, hroot]
  exact ⟨Finset.mem_range.2 x.isLt, rfl⟩

theorem loops_end (h : f.IsHeavy) (x : Fin n) :
    root? (ofSets f).parents (Nat.log 2 n + 1) x = some (f.root x).val ∧
    compress? (f.root x) (Nat.log 2 n + 1) (ofSets f).parents x =
      some (ofSets (f.compress x)).parents := by
  have hturns : (f.path x).length < Nat.log 2 n + 1 := Nat.lt_succ_of_le (h.length_path_le x)
  exact ⟨root?_table f hturns, compress?_table f hturns (.refl f x)⟩

theorem isShallow_ofSets (h : f.IsHeavy) : (ofSets f).IsShallow n where
  rises i p hpoints := by
    obtain ⟨k, rfl, -⟩ := exists_of_getElem?_table hpoints.1
    obtain ⟨hroot, rfl⟩ := pointsAt_iff.1 hpoints
    exact ⟨_, _, getElem?_ranks f k, getElem?_ranks f _, f.rank_lt_rank_parent hroot⟩
  heavy r k hparent hrank := by
    obtain ⟨r, rfl, hr⟩ := exists_of_getElem?_table hparent
    have hroot : f.root r = r := DisjointSets.root_of_isRoot (Fin.ext hr)
    obtain rfl : f.rank r = k := Option.some.inj ((getElem?_ranks f r).symm.trans hrank)
    exact (h r hroot).trans (card_elements_le f r)
  rank_le k hk := by
    obtain ⟨i, hi, rfl⟩ := List.mem_iff_getElem.1 hk
    rw [ofSets, Vector.length_toList] at hi
    exact h.rank_le_log ⟨i, hi⟩
  length_le _ hway := length_le_of_isChain h hway
  ends x hx :=
    have hloops := loops_end h ⟨x, hx⟩
    ⟨_, _, hloops.1, hloops.2, find?_ofSets f ⟨x, hx⟩⟩

end Shallow

/-- **Ranks and ways stay logarithmic.** No run of calls fails, as long as the number of elements
takes no more than 64 bits: the two loops end, and no rank rises beyond eight bits. -/
theorem run?_isShallow (hn : n < 2 ^ 64) (calls : List (Call n)) :
    let f := ((DisjointSets.singletons n).run calls).2
    (singletons n).run? calls = some (ofSets f) ∧ (ofSets f).IsShallow n := by
  exact ⟨run?_singletons hn calls, isShallow_ofSets (.run (.singletons n) calls)⟩

/-- Two pairs of the same rank make a root of rank 2. -/
theorem run?_isShallow_of_pairs : 4 < 2 ^ 64 ∧ ∃ g : Forest,
    (singletons 4).run? (n := 4) [.union 0 1, .union 2 3, .union 1 3] = some g ∧
      g.parents = [0, 0, 0, 2] ∧ g.ranks = [2, 0, 1, 0] ∧ g.IsShallow 4 := by
  have hn : 4 < 2 ^ 64 := by decide
  have hrun := run?_isShallow hn [.union 0 1, .union 2 3, .union 1 3]
  exact ⟨hn, _, hrun.1, by decide +kernel, by decide +kernel, hrun.2⟩

/-! ## Looking an element up -/

/-- The way of `x` has been shortened to the one step to its root `r`, and that is all. -/
structure IsShortened (g : Forest) (x r : Nat) (g' : Forest) : Prop where
  reached : ReflTransGen g.PointsAt x r
  root : g'.parents[r]? = some r
  onWay : ∀ y, ReflTransGen g.PointsAt x y → g'.parents[y]? = some r
  offWay : ∀ y, ¬ReflTransGen g.PointsAt x y → g'.parents[y]? = g.parents[y]?
  ranks : g'.ranks = g.ranks

theorem isShortened_ofSets (f : DisjointSets n) (x : Fin n) :
    (ofSets f).IsShortened x (f.root x) (ofSets (f.compress x)) := by
  have hroot : (ofSets (f.compress x)).parents[(f.root x).val]? = some (f.root x).val := by
    have hself : (f.compress x).parent (f.root x) = f.root x :=
      DisjointSets.isRoot_compress (f.isRoot_root x)
    rw [getElem?_parents, hself]
  refine ⟨reaches_iff.2 (.inr rfl), hroot, fun y hy => ?_, fun y hy => ?_, rfl⟩
  · rcases reaches_iff.1 hy with ⟨j, hj, rfl⟩ | rfl
    · rw [getElem?_parents, f.parent_compress_of_mem hj]
    · exact hroot
  · by_cases hlt : y < n
    · have hoff : ⟨y, hlt⟩ ∉ f.path x := fun hj => hy (reaches_iff.2 (.inl ⟨_, hj, rfl⟩))
      rw [getElem?_parents _ ⟨y, hlt⟩, getElem?_parents _ ⟨y, hlt⟩,
        f.parent_compress_of_not_mem hoff]
    · have houtside : ∀ f : DisjointSets n, (ofSets f).parents[y]? = none := fun f => by
        rw [List.getElem?_eq_none_iff, ofSets, length_table]
        omega
      rw [houtside, houtside]

/-- **Looking an element up shortens its way and changes nothing else.** After any run, whatever was
on the way of the element points at its root, which is found, and all else is as it was. -/
theorem find?_shortens_way (hn : n < 2 ^ 64) (calls : List (Call n)) (x : Fin n) :
    let f := ((DisjointSets.singletons n).run calls).2
    (singletons n).run? calls = some (ofSets f) ∧
    (ofSets f).find? x = some ((f.find x).1.val, ofSets (f.find x).2) ∧
    (ofSets f).IsShortened x (f.find x).1 (ofSets (f.find x).2) := by
  exact ⟨run?_singletons hn calls, find?_ofSets _ x, isShortened_ofSets _ x⟩

/-- The way from 3 leads over 2 to 0. -/
theorem find?_shortens_way_of_three : 4 < 2 ^ 64 ∧ ∃ g g' : Forest,
    (singletons 4).run? (n := 4) [.union 0 1, .union 2 3, .union 1 3] = some g ∧
      g.find? 3 = some (0, g') ∧ g.parents = [0, 0, 0, 2] ∧ g'.parents = [0, 0, 0, 0] ∧
      g.IsShortened 3 0 g' := by
  have hn : 4 < 2 ^ 64 := by decide
  obtain ⟨hrun, hfind, hshortened⟩ :=
    find?_shortens_way hn [.union 0 1, .union 2 3, .union 1 3] 3
  have hroot : (((DisjointSets.singletons 4).run
      [.union 0 1, .union 2 3, .union 1 3]).2.find 3).1.val = 0 := by decide +kernel
  rw [hroot] at hfind hshortened
  exact ⟨hn, _, _, hrun, hfind, by decide +kernel, by decide +kernel, hshortened⟩

end TwoVenues.Checked.Forest

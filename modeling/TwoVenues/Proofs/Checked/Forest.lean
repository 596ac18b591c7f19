import Mathlib.Data.List.FinRange
import TwoVenues.Proofs.Checked.Operations
import TwoVenues.Proofs.Clusters.DisjointSets

/-!
# Disjoint sets in two tables

The forest of disjoint sets as it lies in memory: a table of parents and a table of ranks of eight
bits, in which elements and roots are places. Nothing says that a parent is a place of the table,
that the way to a root ends, or that a rank may rise. For the tables of a `DisjointSets` the first
two always hold, and the third as long as ranks are below 255.

A loop over a table of `n` parents has `n` turns, and it fails if it has not ended by then.

* `Forest.root?`, `Forest.compress?` : the loops that look for a root and shorten the way to it;
* `Forest.find?`, `Forest.union?` : looking an element up, and joining two sets;
* `Forest.Sees` : what the second loop still sees of the sets;
* `Forest.find?_ofSets`, `Forest.union?_ofSets` : they never fail and agree with `DisjointSets`.
-/

namespace TwoVenues.Checked

/-- The next value of a count of eight bits, unless it is the last one. -/
def increment? (rank : Nat) : Option Nat := if rank < 255 then some (rank + 1) else none

theorem increment?_of_lt {rank : Nat} (h : rank < 255) : increment? rank = some (rank + 1) :=
  if_pos h

/-- The parents and the ranks of the elements `0, …, n - 1`. -/
structure Forest where
  parents : List Nat
  ranks : List Nat

namespace Forest

def singletons (n : Nat) : Forest := ⟨List.range n, List.replicate n 0⟩

/-! ## Calls -/

/-- The root of an element, by following parents for at most the given number of turns. -/
def root? (parents : List Nat) : (turns : Nat) → (i : Nat) → Option Nat
  | 0, _ => none
  | turns + 1, i => do
    let parent ← parents[i]?
    if parent = i then some i else root? parents turns parent

/-- Points every element on the way from `i` to the root `r` at the root, in at most the given
number of turns. -/
def compress? (r : Nat) : (turns : Nat) → (parents : List Nat) → (i : Nat) → Option (List Nat)
  | 0, _, _ => none
  | turns + 1, parents, i => do
    let parent ← parents[i]?
    if parent = r then some parents
    else
      let parents ← set? parents i r
      compress? r turns parents parent

def find? (g : Forest) (i : Nat) : Option (Nat × Forest) := do
  let r ← root? g.parents g.parents.length i
  let parents ← compress? r g.parents.length g.parents i
  return (r, { g with parents })

/-- Points the root of lower rank at the other, and at equal ranks the second at the first, whose
rank rises. -/
def link? (g : Forest) (r s : Nat) : Option Forest := do
  let rankR ← g.ranks[r]?
  let rankS ← g.ranks[s]?
  if rankR < rankS then
    let parents ← set? g.parents r s
    return { g with parents }
  else if rankS < rankR then
    let parents ← set? g.parents s r
    return { g with parents }
  else
    let parents ← set? g.parents s r
    let rank ← increment? rankR
    let ranks ← set? g.ranks r rank
    return ⟨parents, ranks⟩

def union? (g : Forest) (i j : Nat) : Option (Bool × Forest) := do
  let (r, g) ← g.find? i
  let (s, g) ← g.find? j
  if r = s then return (false, g)
  else
    let g ← g.link? r s
    return (true, g)

/-! ## The tables of disjoint sets -/

variable {n : Nat}

/-- The parents as numbers. -/
def table (parents : Vector (Fin n) n) : List Nat := parents.toList.map Fin.val

/-- The tables of disjoint sets. -/
def ofSets (f : DisjointSets n) : Forest := ⟨table f.parents, f.ranks.toList⟩

theorem singletons_eq (n : Nat) : singletons n = ofSets (DisjointSets.singletons n) := by
  have hparents : table (DisjointSets.singletons n).parents = List.range n := by
    simp [table, DisjointSets.singletons, Vector.toList_ofFn, List.ofFn_id]
  have hranks : (DisjointSets.singletons n).ranks.toList = List.replicate n 0 :=
    Vector.toList_replicate ..
  rw [ofSets, hparents, hranks]
  rfl

theorem getElem?_toList {α : Type} (v : Vector α n) (i : Fin n) :
    v.toList[i.val]? = some (v.get i) := by
  rw [List.getElem?_eq_getElem (by simp)]
  rfl

theorem set?_toList {α : Type} (v : Vector α n) (i : Fin n) (x : α) :
    set? v.toList i x = some (v.set i x i.isLt).toList := by
  rw [set?_of_lt (by simp), Vector.toList_set]

theorem getElem?_table (parents : Vector (Fin n) n) (i : Fin n) :
    (table parents)[i.val]? = some (parents.get i).val := by
  rw [table, List.getElem?_map, getElem?_toList]
  rfl

theorem set?_table (parents : Vector (Fin n) n) (i r : Fin n) :
    set? (table parents) i r = some (table (parents.set i r i.isLt)) := by
  rw [set?_of_lt (by simp [table]), table, table, Vector.toList_set, List.map_set]

/-! ## Finding -/

theorem length_table (parents : Vector (Fin n) n) : (table parents).length = n := by
  simp [table]

/-- Every turn leads to the next element of the way. -/
theorem root?_table (f : DisjointSets n) {turns : Nat} {i : Fin n}
    (hturns : (f.path i).length < turns) :
    root? (table f.parents) turns i = some (f.root i).val := by
  induction turns generalizing i with
  | zero => exact absurd hturns (Nat.not_lt_zero _)
  | succ turns ih =>
    rw [root?, getElem?_table, Option.bind_eq_bind, Option.bind_some]
    by_cases h : f.IsRoot i
    · have hparent : f.parents.get i = i := h
      rw [if_pos (congrArg Fin.val hparent), DisjointSets.root_of_isRoot h]
    · have hparent : ¬(f.parents.get i).val = i.val := fun heq => h (Fin.ext heq)
      rw [DisjointSets.path_of_not_isRoot h, List.length_cons] at hturns
      rw [if_neg hparent, DisjointSets.root_of_not_isRoot h]
      exact ih (Nat.lt_of_succ_lt_succ hturns)

/-- The parents on the way of an element are those of the sets, and its root points at itself. -/
structure Sees (f : DisjointSets n) (parents : Vector (Fin n) n) (i : Fin n) : Prop where
  path : ∀ j ∈ f.path i, parents.get j = f.parent j
  root : parents.get (f.root i) = f.root i

namespace Sees
variable {f : DisjointSets n} {parents : Vector (Fin n) n} {i : Fin n}

theorem refl (f : DisjointSets n) (i : Fin n) : Sees f f.parents i :=
  ⟨fun _ _ => rfl, f.isRoot_root i⟩

theorem parent (h : Sees f parents i) (hi : ¬f.IsRoot i) : parents.get i = f.parent i := by
  apply h.path
  rw [DisjointSets.path_of_not_isRoot hi]
  exact List.mem_cons_self

/-- What a turn changes lies behind it. -/
theorem set (h : Sees f parents i) (hi : ¬f.IsRoot i) :
    Sees f (parents.set i (f.root i) i.isLt) (f.parent i) where
  path j hj := by
    have hij : i ≠ j := fun hij => DisjointSets.not_mem_path_parent hi (hij ▸ hj)
    rw [DisjointSets.get_set, if_neg hij]
    apply h.path
    rw [DisjointSets.path_of_not_isRoot hi]
    exact List.mem_cons_of_mem _ hj
  root := by
    have hne : i ≠ f.root i := fun heq => hi (heq ▸ f.isRoot_root i)
    rw [← DisjointSets.root_of_not_isRoot hi, DisjointSets.get_set, if_neg hne, h.root]

end Sees

theorem compress?_table (f : DisjointSets n) {turns : Nat} {i : Fin n}
    {parents : Vector (Fin n) n} (hturns : (f.path i).length < turns) (h : Sees f parents i) :
    compress? (f.root i) turns (table parents) i =
      some (table (DisjointSets.redirect parents (f.root i) (f.path i))) := by
  induction turns generalizing i parents with
  | zero => exact absurd hturns (Nat.not_lt_zero _)
  | succ turns ih =>
    rw [compress?, getElem?_table, Option.bind_eq_bind, Option.bind_some]
    by_cases hi : f.IsRoot i
    · have hroot := h.root
      rw [DisjointSets.root_of_isRoot hi] at hroot ⊢
      rw [if_pos (congrArg Fin.val hroot), DisjointSets.path_of_isRoot hi]
      rfl
    · rw [h.parent hi, DisjointSets.path_of_not_isRoot hi]
      by_cases hend : (f.parent i).val = (f.root i).val
      · -- the element points at the root already
        have hisRoot : f.IsRoot (f.parent i) := by
          rw [Fin.ext hend]
          exact f.isRoot_root i
        have hself : parents.set i (f.root i) i.isLt = parents := by
          rw [← Fin.ext hend, ← h.parent hi]
          exact Vector.set_getElem_self _
        rw [if_pos hend, DisjointSets.path_of_isRoot hisRoot]
        exact congrArg (some ∘ table) hself.symm
      · rw [DisjointSets.path_of_not_isRoot hi, List.length_cons] at hturns
        have hrest := ih (Nat.lt_of_succ_lt_succ hturns) (h.set hi)
        rw [← DisjointSets.root_of_not_isRoot hi] at hrest
        rw [if_neg hend, set?_table, Option.bind_eq_bind, Option.bind_some, hrest]
        rfl

theorem find?_ofSets (f : DisjointSets n) (i : Fin n) :
    (ofSets f).find? i = some ((f.root i).val, ofSets (f.compress i)) := by
  have hturns : (f.path i).length < (table f.parents).length := by
    rw [length_table]
    exact f.length_path_lt i
  unfold find?
  simp only [ofSets, root?_table f hturns, compress?_table f hturns (.refl f i),
    Option.bind_eq_bind, Option.bind_some]
  rfl

/-- Two elements that point at each other have no root, and no way leads outside the table. -/
example : find? ⟨[1, 0], [0, 0]⟩ 0 = none ∧ find? ⟨[2, 1], [0, 0]⟩ 0 = none := ⟨rfl, rfl⟩

/-! ## Joining -/

theorem link?_ofSets (f : DisjointSets n) {r s : Fin n} (hr : f.IsRoot r) (hne : r ≠ s)
    (hrank : f.rank r < 255) : (ofSets f).link? r s = some (ofSets (f.link r s hr hne)) := by
  have hranks : ∀ i : Fin n, (ofSets f).ranks[i.val]? = some (f.rank i) := getElem?_toList f.ranks
  unfold link? DisjointSets.link
  rw [hranks, hranks]
  simp only [Option.bind_eq_bind, Option.bind_some]
  by_cases hlt : f.rank r < f.rank s
  · rw [if_pos hlt, dif_pos hlt, ofSets, set?_table]
    rfl
  · rw [if_neg hlt, dif_neg hlt]
    by_cases hgt : f.rank s < f.rank r
    · rw [if_pos hgt, dif_pos hgt, ofSets, set?_table]
      rfl
    · rw [if_neg hgt, dif_neg hgt, increment?_of_lt hrank]
      simp only [ofSets, set?_table, set?_toList, Option.bind_some]
      rfl

/-- Joining never fails while ranks are below the last value of eight bits. -/
theorem union?_ofSets {f : DisjointSets n} (hranks : ∀ i, f.rank i < 255) (i j : Fin n) :
    (ofSets f).union? i j = some ((f.union i j).1, ofSets (f.union i j).2) := by
  unfold union? DisjointSets.union
  simp only [find?_ofSets, Option.bind_eq_bind, Option.bind_some]
  by_cases hsame : f.root i = (f.compress i).root j
  · rw [dif_pos hsame, if_pos (congrArg Fin.val hsame)]
    rfl
  · rw [dif_neg hsame, if_neg fun heq => hsame (Fin.ext heq)]
    have hroot : ((f.compress i).compress j).IsRoot (f.root i) :=
      DisjointSets.isRoot_compress (DisjointSets.isRoot_compress (f.isRoot_root i))
    rw [link?_ofSets _ hroot hsame (hranks _)]
    rfl

end Forest

end TwoVenues.Checked

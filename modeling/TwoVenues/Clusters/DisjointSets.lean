/-!
# Disjoint sets

A partition of `0, …, n - 1` into disjoint sets, kept as a forest: every element points at its
parent, and an element that points at itself is the root that stands for its set. Ranks increase
along parents, which is why the way to a root ends (`root`) and why a root is never found on the
way (`rank_lt_root_of_mem_path`).

* `find` : the root of an element, after which every element on the way points at the root;
* `union` : joins two sets by pointing the root of lower rank at the other.
-/

namespace TwoVenues

/-- A partition of `0, …, n - 1`, as a forest. -/
structure DisjointSets (n : Nat) where
  parents : Vector (Fin n) n
  ranks : Vector Nat n
  rank_lt_parent : ∀ i : Fin n, parents.get i ≠ i → ranks.get i < ranks.get (parents.get i)

namespace DisjointSets

variable {n : Nat}

theorem get_eq_getElem {α : Type} (v : Vector α n) (i : Fin n) : v.get i = v[i] := rfl

theorem get_set {α : Type} (v : Vector α n) (i j : Fin n) (x : α) :
    (v.set i x).get j = if i = j then x else v.get j := by
  simp only [get_eq_getElem, Fin.getElem_fin, Vector.getElem_set, Fin.ext_iff]

def parent (f : DisjointSets n) (i : Fin n) : Fin n := f.parents.get i

def rank (f : DisjointSets n) (i : Fin n) : Nat := f.ranks.get i

/-- Whether an element stands for its set. -/
def IsRoot (f : DisjointSets n) (i : Fin n) : Prop := f.parent i = i

instance (f : DisjointSets n) (i : Fin n) : Decidable (f.IsRoot i) :=
  inferInstanceAs (Decidable (f.parent i = i))

theorem rank_lt_rank_parent (f : DisjointSets n) {i : Fin n} (h : ¬f.IsRoot i) :
    f.rank i < f.rank (f.parent i) :=
  f.rank_lt_parent i h

def singletons (n : Nat) : DisjointSets n where
  parents := Vector.ofFn id
  ranks := Vector.replicate n 0
  rank_lt_parent i h := by simp [get_eq_getElem] at h

/-! ## Roots -/

/-- The number of elements whose rank is higher than that of `i`, which bounds the way from `i` to
its root. -/
def above (f : DisjointSets n) (i : Fin n) : Nat :=
  (List.finRange n).countP fun j => decide (f.rank i < f.rank j)

theorem above_lt_above (f : DisjointSets n) {i p : Fin n} (hlt : f.rank i < f.rank p) :
    f.above p < f.above i := by
  have hmem := List.mem_finRange p
  unfold above
  generalize List.finRange n = js at hmem ⊢
  induction js with
  | nil => simp at hmem
  | cons j js ih =>
    have hmono : js.countP (fun j => decide (f.rank p < f.rank j)) ≤
        js.countP (fun j => decide (f.rank i < f.rank j)) :=
      List.countP_mono_left fun j _ hj => by
        simp only [decide_eq_true_eq] at hj ⊢
        omega
    rw [List.countP_cons, List.countP_cons]
    rcases List.mem_cons.1 hmem with rfl | hmem
    · rw [if_neg (by simp), if_pos (by simpa using hlt)]
      omega
    · have := ih hmem
      by_cases hj : f.rank p < f.rank j
      · rw [if_pos (by simpa using hj), if_pos (by simp only [decide_eq_true_eq]; omega)]
        omega
      · rw [if_neg (by simpa using hj)]
        split <;> omega

/-- The element that stands for the set of `i`. -/
def root (f : DisjointSets n) (i : Fin n) : Fin n :=
  if f.IsRoot i then i else f.root (f.parent i)
termination_by f.above i
decreasing_by exact f.above_lt_above (f.rank_lt_rank_parent ‹_›)

/-- The elements on the way from `i` to its root, the root left out. -/
def path (f : DisjointSets n) (i : Fin n) : List (Fin n) :=
  if f.IsRoot i then [] else i :: f.path (f.parent i)
termination_by f.above i
decreasing_by exact f.above_lt_above (f.rank_lt_rank_parent ‹_›)

theorem root_of_isRoot {f : DisjointSets n} {i : Fin n} (h : f.IsRoot i) : f.root i = i := by
  rw [root, if_pos h]

theorem root_of_not_isRoot {f : DisjointSets n} {i : Fin n} (h : ¬f.IsRoot i) :
    f.root i = f.root (f.parent i) := by
  rw [root, if_neg h]

theorem isRoot_root (f : DisjointSets n) (i : Fin n) : f.IsRoot (f.root i) := by
  fun_induction root f i <;> assumption

theorem rank_le_root (f : DisjointSets n) (i : Fin n) : f.rank i ≤ f.rank (f.root i) := by
  fun_induction path f i with
  | case1 i h => exact Nat.le_of_eq (congrArg f.rank (root_of_isRoot h).symm)
  | case2 i h ih =>
    rw [root_of_not_isRoot h]
    exact Nat.le_trans (Nat.le_of_lt (f.rank_lt_rank_parent h)) ih

theorem rank_lt_root_of_mem_path (f : DisjointSets n) {i j : Fin n} (h : j ∈ f.path i) :
    f.rank j < f.rank (f.root i) := by
  fun_induction path f i with
  | case1 => simp at h
  | case2 i hi ih =>
    rw [root_of_not_isRoot hi]
    rcases List.mem_cons.1 h with rfl | h
    · exact Nat.lt_of_lt_of_le (f.rank_lt_rank_parent hi) (f.rank_le_root _)
    · exact ih h

theorem not_isRoot_of_mem_path (f : DisjointSets n) {i j : Fin n} (h : j ∈ f.path i) :
    ¬f.IsRoot j := by
  fun_induction path f i with
  | case1 => simp at h
  | case2 i hi ih =>
    rcases List.mem_cons.1 h with rfl | h
    · exact hi
    · exact ih h

/-! ## Finding -/

/-- The parents after all the given elements have been pointed at `r`. -/
def redirect (parents : Vector (Fin n) n) (r : Fin n) (elements : List (Fin n)) :
    Vector (Fin n) n :=
  elements.foldl (fun parents (i : Fin n) => parents.set i r) parents

theorem get_redirect_of_not_mem (parents : Vector (Fin n) n) (r : Fin n) {elements : List (Fin n)}
    {j : Fin n} (h : j ∉ elements) : (redirect parents r elements).get j = parents.get j := by
  induction elements generalizing parents with
  | nil => rfl
  | cons i is ih =>
    have hij : i ≠ j := fun hij => h (hij ▸ List.mem_cons_self)
    rw [redirect, List.foldl_cons, ← redirect, ih _ fun hj => h (List.mem_cons_of_mem _ hj),
      get_set, if_neg hij]

theorem get_redirect_of_mem (parents : Vector (Fin n) n) (r : Fin n) {elements : List (Fin n)}
    {j : Fin n} (h : j ∈ elements) : (redirect parents r elements).get j = r := by
  induction elements generalizing parents with
  | nil => cases h
  | cons i is ih =>
    rw [redirect, List.foldl_cons, ← redirect]
    by_cases hj : j ∈ is
    · exact ih _ hj
    · obtain rfl : j = i := (List.mem_cons.1 h).resolve_right hj
      rw [get_redirect_of_not_mem _ _ hj, get_set, if_pos rfl]

/-- The same sets, with every element on the way from `i` to its root pointed at the root. -/
def compress (f : DisjointSets n) (i : Fin n) : DisjointSets n where
  parents := redirect f.parents (f.root i) (f.path i)
  ranks := f.ranks
  rank_lt_parent j h := by
    by_cases hj : j ∈ f.path i
    · rw [get_redirect_of_mem _ _ hj]
      exact f.rank_lt_root_of_mem_path hj
    · rw [get_redirect_of_not_mem _ _ hj] at h ⊢
      exact f.rank_lt_parent j h

theorem parent_compress_of_mem (f : DisjointSets n) {i j : Fin n} (h : j ∈ f.path i) :
    (f.compress i).parent j = f.root i :=
  get_redirect_of_mem _ _ h

theorem parent_compress_of_not_mem (f : DisjointSets n) {i j : Fin n} (h : j ∉ f.path i) :
    (f.compress i).parent j = f.parent j :=
  get_redirect_of_not_mem _ _ h

theorem rank_compress (f : DisjointSets n) (i j : Fin n) : (f.compress i).rank j = f.rank j := rfl

theorem isRoot_compress {f : DisjointSets n} {i j : Fin n} (h : f.IsRoot j) :
    (f.compress i).IsRoot j := by
  unfold IsRoot
  rw [parent_compress_of_not_mem f fun hj => f.not_isRoot_of_mem_path hj h]
  exact h

/-- The root of an element, and the sets after the way to it has been shortened. -/
def find (f : DisjointSets n) (i : Fin n) : Fin n × DisjointSets n := (f.root i, f.compress i)

/-! ## Joining -/

def pointAt (f : DisjointSets n) (r s : Fin n) (h : f.rank r < f.rank s) : DisjointSets n where
  parents := f.parents.set r s
  ranks := f.ranks
  rank_lt_parent j hj := by
    rw [get_set] at hj ⊢
    split at hj
    · next e =>
      obtain rfl := e
      rw [if_pos rfl]
      exact h
    · next e => rw [if_neg e]; exact f.rank_lt_parent j hj

def raise (f : DisjointSets n) (r : Fin n) (h : f.IsRoot r) : DisjointSets n where
  parents := f.parents
  ranks := f.ranks.set r (f.rank r + 1)
  rank_lt_parent j hj := by
    have hlt := f.rank_lt_parent j hj
    have hjr : r ≠ j := by
      rintro rfl
      exact hj h
    rw [get_set, get_set, if_neg hjr]
    split
    · next e =>
      rw [← e] at hlt
      exact Nat.lt_succ_of_lt hlt
    · exact hlt

/-- Joins the sets of two different roots: the one of lower rank is pointed at the other, and at
equal ranks the second at the first, whose rank rises. -/
def link (f : DisjointSets n) (r s : Fin n) (hr : f.IsRoot r) (ne : r ≠ s) : DisjointSets n :=
  if lt : f.rank r < f.rank s then f.pointAt r s lt
  else if gt : f.rank s < f.rank r then f.pointAt s r gt
  else
    (f.raise r hr).pointAt s r (by
      have : f.rank s = f.rank r := by omega
      simp only [rank, raise, get_set, ne, if_true, if_false] at this ⊢
      omega)

/-- Joins the sets of two elements; tells whether they were different sets. -/
def union (f : DisjointSets n) (i j : Fin n) : Bool × DisjointSets n :=
  let g := f.compress i
  let h := g.compress j
  if same : f.root i = g.root j then (false, h)
  else
    have isRoot := isRoot_compress (isRoot_compress (f.isRoot_root i))
    (true, h.link (f.root i) (g.root j) isRoot same)

end DisjointSets

end TwoVenues

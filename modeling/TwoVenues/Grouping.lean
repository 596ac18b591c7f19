/-!
# Grouping rows by a key

`sortedKeys` lists the distinct keys of some rows in ascending order, and `groupsBy` puts beside
each key the rows that have it, in the order in which they stand.
-/

namespace TwoVenues

variable {α κ : Type} [Ord κ]

/-- Adds a key to an ascending list of distinct keys. -/
def insertKey (k : κ) : List κ → List κ
  | [] => [k]
  | x :: xs =>
    match compare k x with
    | .lt => k :: x :: xs
    | .eq => x :: xs
    | .gt => x :: insertKey k xs

/-- The distinct members of a list, ascending. -/
def sortedKeys (ks : List κ) : List κ := ks.foldr insertKey []

/-- The groups of rows with one key, in ascending order of their keys. -/
def groupsBy [DecidableEq κ] (key : α → κ) (rows : List α) : List (κ × List α) :=
  (sortedKeys (rows.map key)).map fun k => (k, rows.filter (key · = k))

/-! ## Keys -/

section Keys

variable [Std.LawfulEqOrd κ]

theorem mem_insertKey {k x : κ} {ks : List κ} : x ∈ insertKey k ks ↔ x = k ∨ x ∈ ks := by
  induction ks with
  | nil => simp [insertKey]
  | cons y ys ih =>
    unfold insertKey
    split
    · simp
    · next h =>
      obtain rfl := Std.LawfulEqOrd.eq_of_compare h
      simp
    · simp [ih, or_left_comm]

theorem mem_sortedKeys {x : κ} {ks : List κ} : x ∈ sortedKeys ks ↔ x ∈ ks := by
  induction ks with
  | nil => simp [sortedKeys]
  | cons k ks ih =>
    rw [sortedKeys, List.foldr_cons, mem_insertKey, List.mem_cons]
    exact or_congr Iff.rfl ih

variable [Std.TransOrd κ]

theorem pairwise_insertKey {k : κ} {ks : List κ} (h : ks.Pairwise fun x y => compare x y = .lt) :
    (insertKey k ks).Pairwise fun x y => compare x y = .lt := by
  induction ks with
  | nil => simp [insertKey]
  | cons y ys ih =>
    obtain ⟨hy, hys⟩ := List.pairwise_cons.1 h
    unfold insertKey
    split
    · next hlt =>
      refine List.pairwise_cons.2 ⟨?_, h⟩
      intro z hz
      rcases List.mem_cons.1 hz with rfl | hz
      · exact hlt
      · exact Std.TransCmp.lt_trans hlt (hy z hz)
    · exact h
    · next hgt =>
      refine List.pairwise_cons.2 ⟨?_, ih hys⟩
      intro z hz
      rcases mem_insertKey.1 hz with rfl | hz
      · exact Std.OrientedCmp.lt_of_gt hgt
      · exact hy z hz

theorem pairwise_sortedKeys (ks : List κ) :
    (sortedKeys ks).Pairwise fun x y => compare x y = .lt := by
  induction ks with
  | nil => exact List.Pairwise.nil
  | cons k ks ih => exact pairwise_insertKey ih

end Keys

/-! ## Groups -/

theorem map_fst_groupsBy [DecidableEq κ] (key : α → κ) (rows : List α) :
    (groupsBy key rows).map Prod.fst = sortedKeys (rows.map key) := by
  simp [groupsBy, List.map_map, Function.comp_def]

theorem mem_groupsBy [DecidableEq κ] [Std.LawfulEqOrd κ] {key : α → κ}
    {rows : List α} {k : κ} {group : List α} :
    (k, group) ∈ groupsBy key rows ↔ group = rows.filter (key · = k) ∧ group ≠ [] := by
  simp only [groupsBy, List.mem_map, mem_sortedKeys, Prod.mk.injEq]
  constructor
  · rintro ⟨_, ⟨r, hr, rfl⟩, rfl, rfl⟩
    exact ⟨rfl, List.ne_nil_of_mem (List.mem_filter.2 ⟨hr, by simp⟩)⟩
  · rintro ⟨rfl, h⟩
    obtain ⟨r, hr⟩ := List.exists_mem_of_ne_nil _ h
    obtain ⟨hr, hk⟩ := List.mem_filter.1 hr
    exact ⟨k, ⟨r, hr, by simpa using hk⟩, rfl, rfl⟩

end TwoVenues

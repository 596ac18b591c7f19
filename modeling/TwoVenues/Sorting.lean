/-!
# Stable sorting

`sortBy before rows` puts rows in order, where `before x y` tells whether `x` may stand before
`y`. Rows of which either may stand first stay as they are. The result has the same rows
(`perm_sortBy`) and is in order (`pairwise_sortBy`).
-/

namespace TwoVenues

variable {α : Type} (before : α → α → Bool)

/-- Puts a row in front of the first one that it may stand before. -/
def insertBy (x : α) : List α → List α
  | [] => [x]
  | y :: ys => if before x y then x :: y :: ys else y :: insertBy x ys

/-- The rows in order. -/
def sortBy (rows : List α) : List α := rows.foldr (insertBy before) []

theorem perm_insertBy (x : α) (rows : List α) : (insertBy before x rows).Perm (x :: rows) := by
  induction rows with
  | nil => exact List.Perm.refl _
  | cons y ys ih =>
    unfold insertBy
    split
    · exact List.Perm.refl _
    · exact (ih.cons y).trans (List.Perm.swap x y ys)

theorem perm_sortBy (rows : List α) : (sortBy before rows).Perm rows := by
  induction rows with
  | nil => exact List.Perm.refl _
  | cons x xs ih => exact (perm_insertBy before x _).trans (ih.cons x)

theorem mem_sortBy {x : α} {rows : List α} : x ∈ sortBy before rows ↔ x ∈ rows :=
  (perm_sortBy before rows).mem_iff

theorem length_sortBy (rows : List α) : (sortBy before rows).length = rows.length :=
  (perm_sortBy before rows).length_eq

theorem pairwise_insertBy (trans : ∀ x y z, before x y → before y z → before x z)
    (total : ∀ x y, before x y ∨ before y x) {x : α} {rows : List α}
    (h : rows.Pairwise fun x y => before x y) :
    (insertBy before x rows).Pairwise fun x y => before x y := by
  induction rows with
  | nil => simp [insertBy]
  | cons y ys ih =>
    obtain ⟨hy, hys⟩ := List.pairwise_cons.1 h
    unfold insertBy
    split
    · next hxy =>
      refine List.pairwise_cons.2 ⟨fun z hz => ?_, h⟩
      rcases List.mem_cons.1 hz with rfl | hz
      · exact hxy
      · exact trans x y z hxy (hy z hz)
    · next hxy =>
      refine List.pairwise_cons.2 ⟨fun z hz => ?_, ih hys⟩
      rcases List.mem_cons.1 ((perm_insertBy before x ys).mem_iff.1 hz) with rfl | hz
      · exact (total z y).resolve_left hxy
      · exact hy z hz

theorem pairwise_sortBy (trans : ∀ x y z, before x y → before y z → before x z)
    (total : ∀ x y, before x y ∨ before y x) (rows : List α) :
    (sortBy before rows).Pairwise fun x y => before x y := by
  induction rows with
  | nil => exact List.Pairwise.nil
  | cons x xs ih => exact pairwise_insertBy before trans total ih

end TwoVenues

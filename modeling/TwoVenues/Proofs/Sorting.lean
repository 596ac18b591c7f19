import TwoVenues.Sorting

/-!
# Sorting some of the rows

* `sortBy_perm_sortBy` : sorting rows that stand in another order;
* `sortBy_congr`, `map_sortBy` : sorting depends on the order only as far as it compares the rows;
* `sortBy_eq_self` : rows in order stay as they are;
* `filter_sortBy` : rows that are left out leave the order of the others alone;
* `pairwise_ties_sortBy` : of two rows either of which may stand first, the first stays first;
* `pairwise_key_sortBy`, `filter_key_sortBy`, `eq_of_filter_key` : sorting by a key puts the keys in
  order and leaves the rows of each key as they stand, and there is only one list that does.
-/

namespace TwoVenues

variable {α : Type} {before before' : α → α → Bool}

theorem sortBy_perm_sortBy (before : α → α → Bool) {rows rows' : List α} (h : rows.Perm rows') :
    (sortBy before rows).Perm (sortBy before rows') :=
  (perm_sortBy before rows).trans (h.trans (perm_sortBy before rows').symm)

theorem insertBy_congr {x : α} {rows : List α} (h : ∀ y ∈ rows, before x y = before' x y) :
    insertBy before x rows = insertBy before' x rows := by
  induction rows with
  | nil => rfl
  | cons y ys ih =>
    rw [insertBy, insertBy, h y List.mem_cons_self, ih fun z hz => h z (List.mem_cons_of_mem _ hz)]

theorem sortBy_congr {rows : List α} (h : ∀ x ∈ rows, ∀ y ∈ rows, before x y = before' x y) :
    sortBy before rows = sortBy before' rows := by
  induction rows with
  | nil => rfl
  | cons x xs ih =>
    have hxs : sortBy before xs = sortBy before' xs :=
      ih fun y hy z hz => h y (List.mem_cons_of_mem _ hy) z (List.mem_cons_of_mem _ hz)
    rw [sortBy, List.foldr_cons, ← sortBy, hxs]
    exact insertBy_congr fun y hy => h x List.mem_cons_self y
      (List.mem_cons_of_mem _ ((mem_sortBy before').1 hy))

/-- Rows that are replaced by others in the same order. -/
theorem map_sortBy {β : Type} {before : β → β → Bool} {before' : α → α → Bool} {f : α → β}
    {rows : List α} (h : ∀ x ∈ rows, ∀ y ∈ rows, before (f x) (f y) = before' x y) :
    sortBy before (rows.map f) = (sortBy before' rows).map f := by
  have hinsert : ∀ x (ys : List α), (∀ y ∈ ys, before (f x) (f y) = before' x y) →
      insertBy before (f x) (ys.map f) = (insertBy before' x ys).map f := by
    intro x ys
    induction ys with
    | nil => exact fun _ => rfl
    | cons y ys ih =>
      intro hys
      rw [List.map_cons, insertBy, insertBy, hys y List.mem_cons_self,
        ih fun z hz => hys z (List.mem_cons_of_mem _ hz)]
      split <;> rfl
  induction rows with
  | nil => rfl
  | cons x xs ih =>
    have hxs := ih fun y hy z hz =>
      h y (List.mem_cons_of_mem _ hy) z (List.mem_cons_of_mem _ hz)
    rw [List.map_cons, sortBy, List.foldr_cons, ← sortBy, hxs]
    exact hinsert x _ fun y hy => h x List.mem_cons_self y
      (List.mem_cons_of_mem _ ((mem_sortBy before').1 hy))

/-! ## Rows that are kept -/

section Keep
variable {keep : α → Bool}

theorem insertBy_of_forall {x : α} {rows : List α} (h : ∀ y ∈ rows, before x y) :
    insertBy before x rows = x :: rows := by
  cases rows with
  | nil => rfl
  | cons y ys => rw [insertBy, if_pos (h y List.mem_cons_self)]

/-- Rows that are in order stay as they stand. -/
theorem sortBy_eq_self {rows : List α} (h : rows.Pairwise fun x y => before x y) :
    sortBy before rows = rows := by
  induction rows with
  | nil => rfl
  | cons x xs ih =>
    obtain ⟨hx, hxs⟩ := List.pairwise_cons.1 h
    rw [sortBy, List.foldr_cons, ← sortBy, ih hxs, insertBy_of_forall hx]

theorem filter_insertBy (trans : ∀ x y z, before x y → before y z → before x z) {x : α}
    {rows : List α} (hrows : rows.Pairwise fun x y => before x y) :
    (insertBy before x rows).filter keep =
      if keep x then insertBy before x (rows.filter keep) else rows.filter keep := by
  induction rows with
  | nil =>
    by_cases hx : keep x <;> simp [insertBy, hx]
  | cons y ys ih =>
    obtain ⟨hy, hys⟩ := List.pairwise_cons.1 hrows
    rw [insertBy]
    by_cases hxy : before x y
    · -- `x` goes in front of everything, and also of what is kept of it
      have hfront : ∀ z ∈ y :: ys, before x z := by
        intro z hz
        rcases List.mem_cons.1 hz with rfl | hz
        · exact hxy
        · exact trans x y z hxy (hy z hz)
      have hkept : ∀ z ∈ (y :: ys).filter keep, before x z := by
        intro z hz
        exact hfront z (List.mem_filter.1 hz).1
      rw [if_pos hxy, List.filter_cons, insertBy_of_forall hkept]
    · rw [if_neg hxy, List.filter_cons, List.filter_cons, ih hys]
      by_cases hky : keep y <;> by_cases hkx : keep x <;> simp [insertBy, hkx, hky, hxy]

theorem filter_sortBy (trans : ∀ x y z, before x y → before y z → before x z)
    (total : ∀ x y, before x y ∨ before y x) (rows : List α) :
    (sortBy before rows).filter keep = sortBy before (rows.filter keep) := by
  induction rows with
  | nil => rfl
  | cons x xs ih =>
    have hsorted := pairwise_sortBy before trans total xs
    rw [sortBy, List.foldr_cons, ← sortBy, filter_insertBy trans hsorted, ih, List.filter_cons]
    by_cases hx : keep x <;> simp [hx, sortBy]

end Keep

/-! ## Ties -/

section Rel
variable {rel : α → α → Prop}

theorem pairwise_ties_insertBy {x : α} {rows : List α} (hx : ∀ y ∈ rows, rel x y)
    (h : rows.Pairwise fun y z => before z y → rel y z) :
    (insertBy before x rows).Pairwise fun y z => before z y → rel y z := by
  induction rows with
  | nil => exact List.pairwise_singleton _ _
  | cons y ys ih =>
    obtain ⟨hy, hys⟩ := List.pairwise_cons.1 h
    unfold insertBy
    split
    · exact List.pairwise_cons.2 ⟨fun z hz _ => hx z hz, h⟩
    · next hxy =>
      refine List.pairwise_cons.2
        ⟨fun z hz htie => ?_, ih (fun z hz => hx z (List.mem_cons_of_mem _ hz)) hys⟩
      -- `x` does not tie with a row that it goes behind
      rcases List.mem_cons.1 ((perm_insertBy before x ys).mem_iff.1 hz) with rfl | hz
      · exact absurd htie hxy
      · exact hy z hz htie

/-- Rows of which either may stand first stay in the order in which they stood. -/
theorem pairwise_ties_sortBy {rows : List α} (h : rows.Pairwise rel) :
    (sortBy before rows).Pairwise fun x y => before y x → rel x y := by
  induction rows with
  | nil => exact List.Pairwise.nil
  | cons x xs ih =>
    obtain ⟨hx, hxs⟩ := List.pairwise_cons.1 h
    exact pairwise_ties_insertBy (fun y hy => hx y ((mem_sortBy before).1 hy)) (ih hxs)

end Rel

/-! ## Rows of one key -/

theorem mem_iff_of_filter_key {κ : Type} [DecidableEq κ] {key : α → κ} {xs ys : List α}
    (h : ∀ k, xs.filter (key · = k) = ys.filter (key · = k)) (z : α) : z ∈ xs ↔ z ∈ ys := by
  have hz := congrArg (z ∈ ·) (h (key z))
  simpa using hz

section Ties
variable {κ : Type} [LE κ] [Std.IsLinearOrder κ] {key : α → κ}

theorem key_le_of_mem {x z : α} {xs : List α} (h : (x :: xs).Pairwise fun x y => key x ≤ key y)
    (hz : z ∈ x :: xs) : key x ≤ key z := by
  rcases List.mem_cons.1 hz with rfl | hz
  · exact Std.le_refl _
  · exact (List.pairwise_cons.1 h).1 z hz

section Sorted
variable [DecidableLE κ] (key)

theorem key_trans (x y z : α) (hxy : decide (key x ≤ key y)) (hyz : decide (key y ≤ key z)) :
    decide (key x ≤ key z) :=
  decide_eq_true (Std.le_trans (of_decide_eq_true hxy) (of_decide_eq_true hyz))

theorem key_total (x y : α) : decide (key x ≤ key y) ∨ decide (key y ≤ key x) :=
  Std.le_total.imp decide_eq_true decide_eq_true

theorem pairwise_key_sortBy (rows : List α) :
    (sortBy (fun x y => decide (key x ≤ key y)) rows).Pairwise fun x y => key x ≤ key y :=
  (pairwise_sortBy _ (key_trans key) (key_total key) rows).imp of_decide_eq_true

theorem filter_key_sortBy [DecidableEq κ] (rows : List α) (k : κ) :
    (sortBy (fun x y => decide (key x ≤ key y)) rows).filter (key · = k) =
      rows.filter (key · = k) := by
  have hties : (rows.filter (key · = k)).Pairwise fun x y => decide (key x ≤ key y) := by
    refine List.pairwise_of_forall_mem_list fun x hx y hy => ?_
    have hx : key x = k := by simpa using (List.mem_filter.1 hx).2
    have hy : key y = k := by simpa using (List.mem_filter.1 hy).2
    simp [hx, hy, Std.le_refl]
  rw [filter_sortBy (key_trans key) (key_total key), sortBy_eq_self hties]

end Sorted

/-- Two lists in order are equal if they have the same rows of each key: their first rows have one
key, and each is the first row of that key. -/
theorem eq_of_filter_key [DecidableEq κ] (key : α → κ) {xs ys : List α}
    (hxs : xs.Pairwise fun x y => key x ≤ key y) (hys : ys.Pairwise fun x y => key x ≤ key y)
    (h : ∀ k, xs.filter (key · = k) = ys.filter (key · = k)) : xs = ys := by
  induction xs generalizing ys with
  | nil =>
    exact (List.eq_nil_iff_forall_not_mem.2 fun y hy => by
      simpa using (mem_iff_of_filter_key h y).2 hy).symm
  | cons x xs ih =>
    cases ys with
    | nil => simpa using (mem_iff_of_filter_key h x).1 List.mem_cons_self
    | cons y ys =>
      have hxy : key x ≤ key y :=
        key_le_of_mem hxs ((mem_iff_of_filter_key h y).2 List.mem_cons_self)
      have hyx : key y ≤ key x :=
        key_le_of_mem hys ((mem_iff_of_filter_key h x).1 List.mem_cons_self)
      have hkey : key y = key x := Std.le_antisymm hyx hxy
      have hfirst := h (key x)
      rw [List.filter_cons_of_pos (by simp), List.filter_cons_of_pos (by simp [hkey])] at hfirst
      obtain ⟨rfl, -⟩ := List.cons.inj hfirst
      refine congrArg (x :: ·) (ih hxs.of_cons hys.of_cons fun k => ?_)
      have hk := h k
      by_cases hxk : key x = k
      · rw [List.filter_cons_of_pos (by simpa using hxk),
          List.filter_cons_of_pos (by simpa using hxk)] at hk
        exact List.tail_eq_of_cons_eq hk
      · rwa [List.filter_cons_of_neg (by simpa using hxk),
          List.filter_cons_of_neg (by simpa using hxk)] at hk

end Ties

end TwoVenues

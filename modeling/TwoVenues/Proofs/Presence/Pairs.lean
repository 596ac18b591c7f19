import Mathlib.Data.List.Nodup
import Mathlib.Data.Nat.Choose.Basic
import TwoVenues.Presence.Report

/-!
# Pairs of rows

`laterPairs` takes every two members of a list once, the earlier one first.

* `laterPairs_map` : the pairs of the images are the images of the pairs;
* `length_laterPairs` : how many pairs there are;
* `exists_of_mem_map_laterPairs` : what is made of pairs;
* `mem_laterPairs_iff`, `pairwise_laterPairs` : in an ascending list these are the pairs in ascending
  order, and they are listed in lexicographic order;
* `nodup_laterPairs` : no two members are paired twice.
-/

namespace TwoVenues

variable {α β : Type}

theorem laterPairs_map (f : α → β) (xs : List α) :
    laterPairs (xs.map f) = (laterPairs xs).map (Prod.map f f) := by
  induction xs with
  | nil => rfl
  | cons x xs ih =>
    rw [List.map_cons, laterPairs, laterPairs, ih, List.map_append, List.map_map, List.map_map]
    rfl

theorem length_laterPairs (xs : List α) :
    (laterPairs xs).length = xs.length * (xs.length - 1) / 2 := by
  induction xs with
  | nil => simp [laterPairs]
  | cons x xs ih =>
    rw [laterPairs, List.length_append, List.length_map, ih, List.length_cons, Nat.triangle_succ,
      Nat.add_comm]

theorem mem_of_mem_laterPairs {xs : List α} {x y : α} (h : (x, y) ∈ laterPairs xs) :
    x ∈ xs ∧ y ∈ xs := by
  induction xs with
  | nil => cases h
  | cons z zs ih =>
    rcases List.mem_append.1 h with h | h
    · obtain ⟨w, hw, hpair⟩ := List.mem_map.1 h
      obtain ⟨rfl, rfl⟩ := Prod.mk.inj hpair
      exact ⟨List.mem_cons_self, List.mem_cons_of_mem _ hw⟩
    · exact ⟨List.mem_cons_of_mem _ (ih h).1, List.mem_cons_of_mem _ (ih h).2⟩

/-- What is made of pairs is made of two members of the list. -/
theorem exists_of_mem_map_laterPairs {f : α × α → β} {xs : List α} {c : β}
    (h : c ∈ (laterPairs xs).map f) : ∃ x ∈ xs, ∃ y ∈ xs, c = f (x, y) := by
  obtain ⟨⟨x, y⟩, hpair, rfl⟩ := List.mem_map.1 h
  obtain ⟨hx, hy⟩ := mem_of_mem_laterPairs hpair
  exact ⟨x, hx, y, hy, rfl⟩

theorem mem_laterPairs_iff {lt : α → α → Prop} (asymm : ∀ x y, lt x y → ¬lt y x) {xs : List α}
    (hsorted : xs.Pairwise lt) {x y : α} : (x, y) ∈ laterPairs xs ↔ x ∈ xs ∧ y ∈ xs ∧ lt x y := by
  induction xs with
  | nil => simp [laterPairs]
  | cons z zs ih =>
    obtain ⟨hz, hzs⟩ := List.pairwise_cons.1 hsorted
    rw [laterPairs, List.mem_append, ih hzs]
    constructor
    · rintro (h | ⟨hx, hy, hlt⟩)
      · obtain ⟨w, hw, hpair⟩ := List.mem_map.1 h
        obtain ⟨rfl, rfl⟩ := Prod.mk.inj hpair
        exact ⟨List.mem_cons_self, List.mem_cons_of_mem _ hw, hz _ hw⟩
      · exact ⟨List.mem_cons_of_mem _ hx, List.mem_cons_of_mem _ hy, hlt⟩
    · rintro ⟨hx, hy, hlt⟩
      rcases List.mem_cons.1 hx with rfl | hxs
      · rcases List.mem_cons.1 hy with rfl | hys
        · exact absurd hlt (asymm _ _ hlt)
        · exact Or.inl (List.mem_map.2 ⟨y, hys, rfl⟩)
      · rcases List.mem_cons.1 hy with rfl | hys
        -- the first member is below all others, so it is no second one of a pair
        · exact absurd (hz x hxs) (asymm _ _ hlt)
        · exact Or.inr ⟨hxs, hys, hlt⟩

theorem pairwise_laterPairs {lt : α → α → Prop} {xs : List α} (h : xs.Pairwise lt) :
    (laterPairs xs).Pairwise (Prod.Lex lt lt) := by
  induction xs with
  | nil => exact List.Pairwise.nil
  | cons z zs ih =>
    obtain ⟨hz, hzs⟩ := List.pairwise_cons.1 h
    refine List.pairwise_append.2 ⟨?_, ih hzs, ?_⟩
    · exact List.pairwise_map.2 (hzs.imp fun hlt => .right z hlt)
    · intro p hp q hq
      obtain ⟨w, -, rfl⟩ := List.mem_map.1 hp
      exact .left _ _ (hz q.1 (mem_of_mem_laterPairs hq).1)

theorem nodup_laterPairs {xs : List α} (h : xs.Nodup) : (laterPairs xs).Nodup := by
  induction xs with
  | nil => exact List.nodup_nil
  | cons z zs ih =>
    obtain ⟨hz, hzs⟩ := List.nodup_cons.1 h
    have hfirst : (zs.map (z, ·)).Nodup := hzs.map fun _ _ hpair => (Prod.mk.inj hpair).2
    refine List.nodup_append'.2 ⟨hfirst, ih hzs, fun p hp hlater => ?_⟩
    obtain ⟨w, -, rfl⟩ := List.mem_map.1 hp
    exact hz (mem_of_mem_laterPairs hlater).1

end TwoVenues

import Mathlib.Data.List.Perm.Basic

/-!
# Steps that may fail

What is known when steps one after the other have all ended well, and when one of them has not.

* `bind_eq_ok_iff`, `mapError_eq_ok_iff`, `mapError_eq_error_iff`, `map_eq_error_iff`,
  `toOption_eq_some_iff` : two steps, and one step seen with another kind of fault, another result or
  no fault;
* `mapM_eq_ok_iff`, `mapM_eq_some_iff`, `mapM_eq_some_map` : one step for each member of a list;
* `forall₂_filterMap` : one step for each member, of which those without a result are left out;
* `exists_of_mem_mapM`, `exists_mem_of_mapM` : every result is that of some member, and every member
  has a result;
* `exists_mapM_eq_ok_iff`, `mapM_eq_error_iff` : all members end well, or the first one that does not
  decides the fault;
* `mapM_perm` : the members in another order.
-/

namespace TwoVenues

variable {ε ε' α β : Type}

theorem bind_eq_ok_iff {x : Except ε α} {f : α → Except ε β} {b : β} :
    x >>= f = .ok b ↔ ∃ a, x = .ok a ∧ f a = .ok b := by
  cases x with
  | error e => simp [bind, Except.bind]
  | ok a => simp [bind, Except.bind]

theorem mapError_eq_ok_iff {x : Except ε α} {f : ε → ε'} {a : α} :
    x.mapError f = .ok a ↔ x = .ok a := by
  cases x <;> simp [Except.mapError]

theorem mapError_eq_error_iff {x : Except ε α} {f : ε → ε'} {e' : ε'} :
    x.mapError f = .error e' ↔ ∃ e, x = .error e ∧ f e = e' := by
  cases x <;> simp [Except.mapError]

theorem map_eq_error_iff {x : Except ε α} {f : α → β} {e : ε} : x.map f = .error e ↔ x = .error e := by
  cases x <;> simp [Except.map]

theorem toOption_eq_some_iff {x : Except ε α} {a : α} : x.toOption = some a ↔ x = .ok a := by
  cases x <;> simp [Except.toOption]

theorem mapM_eq_ok_iff {f : α → Except ε β} {xs : List α} {ys : List β} :
    xs.mapM f = .ok ys ↔ List.Forall₂ (fun x y => f x = .ok y) xs ys := by
  induction xs generalizing ys with
  | nil => cases ys <;> simp [pure, Except.pure]
  | cons x xs ih =>
    rw [List.mapM_cons, List.forall₂_cons_left_iff, bind_eq_ok_iff]
    simp only [bind_eq_ok_iff, ih, pure, Except.pure, Except.ok.injEq]
    constructor
    · rintro ⟨y, hy, ys', hys, rfl⟩
      exact ⟨y, ys', hy, hys, rfl⟩
    · rintro ⟨y, ys', hy, hys, rfl⟩
      exact ⟨y, hy, ys', hys, rfl⟩

theorem mapM_eq_some_iff {f : α → Option β} {xs : List α} {ys : List β} :
    xs.mapM f = some ys ↔ List.Forall₂ (fun x y => f x = some y) xs ys := by
  induction xs generalizing ys with
  | nil => cases ys <;> simp
  | cons x xs ih =>
    rw [List.mapM_cons, List.forall₂_cons_left_iff]
    simp only [Option.bind_eq_bind, Option.bind_eq_some_iff, ih, pure, Option.some.injEq]
    constructor
    · rintro ⟨y, hy, ys', hys, rfl⟩
      exact ⟨y, ys', hy, hys, rfl⟩
    · rintro ⟨y, ys', hy, hys, rfl⟩
      exact ⟨y, hy, ys', hys, rfl⟩

/-- A step that fails for no member of a list. -/
theorem mapM_eq_some_map {f : α → Option β} {g : α → β} {xs : List α}
    (h : ∀ x ∈ xs, f x = some (g x)) : xs.mapM f = some (xs.map g) := by
  induction xs with
  | nil => rfl
  | cons x xs ih =>
    rw [List.mapM_cons, h x List.mem_cons_self, ih fun y hy => h y (List.mem_cons_of_mem _ hy)]
    rfl

/-- The results of the members that have one. -/
theorem forall₂_filterMap (f : α → Option β) (xs : List α) :
    List.Forall₂ (fun x y => f x = some y) (xs.filter fun x => (f x).isSome) (xs.filterMap f) := by
  induction xs with
  | nil => exact .nil
  | cons x xs ih =>
    cases hx : f x with
    | none => simpa [List.filterMap_cons, hx] using ih
    | some y => simpa [List.filterMap_cons, hx] using ih

theorem exists_of_mem_mapM {f : α → Except ε β} {xs : List α} {ys : List β}
    (h : xs.mapM f = .ok ys) {y : β} (hy : y ∈ ys) : ∃ x ∈ xs, f x = .ok y := by
  induction mapM_eq_ok_iff.1 h with
  | nil => cases hy
  | cons hx _ ih =>
    rcases List.mem_cons.1 hy with rfl | hy
    · exact ⟨_, List.mem_cons_self, hx⟩
    · obtain ⟨x, hmem, hx⟩ := ih (mapM_eq_ok_iff.2 ‹_›) hy
      exact ⟨x, List.mem_cons_of_mem _ hmem, hx⟩

theorem exists_mem_of_mapM {f : α → Except ε β} {xs : List α} {ys : List β}
    (h : xs.mapM f = .ok ys) {x : α} (hx : x ∈ xs) : ∃ y ∈ ys, f x = .ok y := by
  induction mapM_eq_ok_iff.1 h with
  | nil => cases hx
  | cons hy _ ih =>
    rcases List.mem_cons.1 hx with rfl | hx
    · exact ⟨_, List.mem_cons_self, hy⟩
    · obtain ⟨y, hmem, hy⟩ := ih (mapM_eq_ok_iff.2 ‹_›) hx
      exact ⟨y, List.mem_cons_of_mem _ hmem, hy⟩

theorem exists_mapM_eq_ok_iff {f : α → Except ε β} {xs : List α} :
    (∃ ys, xs.mapM f = .ok ys) ↔ ∀ x ∈ xs, ∃ y, f x = .ok y := by
  constructor
  · rintro ⟨ys, hys⟩ x hx
    obtain ⟨y, -, hy⟩ := exists_mem_of_mapM hys hx
    exact ⟨y, hy⟩
  · intro h
    induction xs with
    | nil => exact ⟨[], rfl⟩
    | cons x xs ih =>
      obtain ⟨y, hy⟩ := h x List.mem_cons_self
      obtain ⟨ys, hys⟩ := ih fun z hz => h z (List.mem_cons_of_mem _ hz)
      exact ⟨y :: ys, mapM_eq_ok_iff.2 (.cons hy (mapM_eq_ok_iff.1 hys))⟩

theorem exists_append_of_mapM_eq_error {f : α → Except ε β} {xs : List α} {e : ε}
    (h : xs.mapM f = .error e) : ∃ before x after, xs = before ++ x :: after ∧
      (∀ y ∈ before, ∃ b, f y = .ok b) ∧ f x = .error e := by
  induction xs with
  | nil => cases h
  | cons x xs ih =>
    rw [List.mapM_cons] at h
    cases hx : f x with
    | error e' =>
      rw [hx] at h
      cases h
      exact ⟨[], x, xs, rfl, by simp, hx⟩
    | ok b =>
      cases hxs : xs.mapM f with
      | ok bs =>
        rw [hx, hxs] at h
        cases h
      | error e' =>
        rw [hx, hxs] at h
        cases h
        obtain ⟨before, x', after, rfl, hbefore, hx'⟩ := ih hxs
        refine ⟨x :: before, x', after, rfl, ?_, hx'⟩
        intro y hy
        rcases List.mem_cons.1 hy with rfl | hy
        · exact ⟨b, hx⟩
        · exact hbefore y hy

/-- The fault of a list is that of the first member that has one. -/
theorem mapM_eq_error_iff {f : α → Except ε β} {xs : List α} {e : ε} :
    xs.mapM f = .error e ↔ ∃ before x after, xs = before ++ x :: after ∧
      (∀ y ∈ before, ∃ b, f y = .ok b) ∧ f x = .error e := by
  refine ⟨exists_append_of_mapM_eq_error, ?_⟩
  rintro ⟨before, x, after, rfl, hbefore, hx⟩
  obtain ⟨bs, hbs⟩ := exists_mapM_eq_ok_iff.2 hbefore
  rw [List.mapM_append, hbs, List.mapM_cons, hx]
  rfl

theorem mapM_perm {f : α → Except ε β} {xs xs' : List α} {ys : List β} (h : xs.Perm xs')
    (hys : xs.mapM f = .ok ys) : ∃ ys', xs'.mapM f = .ok ys' ∧ ys.Perm ys' := by
  have hsteps : List.Forall₂ (flip fun x y => f x = .ok y) ys xs :=
    (mapM_eq_ok_iff.1 hys).flip
  obtain ⟨ys', hperm, hsteps'⟩ : Relation.Comp List.Perm
      (List.Forall₂ (flip fun x y => f x = .ok y)) ys xs' := by
    rw [← List.forall₂_comp_perm_eq_perm_comp_forall₂]
    exact ⟨xs, hsteps, h⟩
  exact ⟨ys', mapM_eq_ok_iff.2 hsteps'.flip, hperm⟩

end TwoVenues

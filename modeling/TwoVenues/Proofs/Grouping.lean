import Mathlib.Data.List.Nodup
import Mathlib.Data.List.Perm.Basic
import TwoVenues.Grouping

/-!
# Groups and their rows

* `nodup_sortedKeys`, `eq_sortedKeys` : the one ascending list of the keys, without repetitions;
* `groupsBy_map`, `groupsBy_map_key` : rows and keys that are replaced by others;
* `sortedKeys_filter`, `groupsBy_filter` : keys that are left out take nothing with them but their
  own groups;
* `perm_flatMap_groupsBy` : the groups, one after the other, hold every row exactly once;
* `filter_flatMap_groupsBy` : what is made of all groups, and what of it comes from one of them;
* `filter_key_eq_singleton` : the rows of a key, if no two rows share one;
* `perm_groups` : the groups depend only on which rows have one key, not on what the keys are.
-/

namespace TwoVenues

variable {α κ : Type}

theorem nodup_of_ascending [Ord κ] [Std.ReflOrd κ] {ks : List κ}
    (h : ks.Pairwise fun x y => compare x y = .lt) : ks.Nodup := by
  refine h.imp ?_
  rintro x y hlt rfl
  rw [Std.ReflOrd.compare_self] at hlt
  cases hlt

theorem nodup_sortedKeys [Ord κ] [Std.LawfulEqOrd κ] [Std.TransOrd κ] (ks : List κ) :
    (sortedKeys ks).Nodup :=
  nodup_of_ascending (pairwise_sortedKeys ks)

/-- Only one list of given members is ascending. -/
theorem eq_sortedKeys [Ord κ] [Std.LawfulEqOrd κ] [Std.TransOrd κ] {ks xs : List κ}
    (hxs : xs.Pairwise fun x y => compare x y = .lt) (hmem : ∀ k, k ∈ xs ↔ k ∈ ks) :
    xs = sortedKeys ks := by
  have hperm : xs.Perm (sortedKeys ks) :=
    (List.perm_ext_iff_of_nodup (nodup_of_ascending hxs) (nodup_sortedKeys ks)).2 fun k =>
      (hmem k).trans mem_sortedKeys.symm
  refine hperm.eq_of_pairwise (fun x y _ _ hxy hyx => ?_) hxs (pairwise_sortedKeys ks)
  -- of two keys in order, the one is not also before the other
  rw [Std.OrientedCmp.gt_of_lt hyx] at hxy
  cases hxy

theorem sortedKeys_perm [Ord κ] [Std.LawfulEqOrd κ] [Std.TransOrd κ] {ks ks' : List κ}
    (h : ks.Perm ks') : sortedKeys ks = sortedKeys ks' :=
  eq_sortedKeys (pairwise_sortedKeys ks) fun _ => mem_sortedKeys.trans h.mem_iff

/-! ## Other rows and other keys -/

theorem groupsBy_map {β : Type} [Ord κ] [DecidableEq κ] (key : α → κ) (f : β → α)
    (rows : List β) :
    groupsBy key (rows.map f) = (groupsBy (key ∘ f) rows).map fun p => (p.1, p.2.map f) := by
  simp only [groupsBy, List.map_map, List.filter_map]
  rfl

section Embedding
variable {κ' : Type} [Ord κ] [Ord κ'] {e : κ → κ'}
  (he : ∀ x y, compare (e x) (e y) = compare x y)
include he

theorem sortedKeys_map (ks : List κ) : sortedKeys (ks.map e) = (sortedKeys ks).map e := by
  have hinsert : ∀ k (xs : List κ), insertKey (e k) (xs.map e) = (insertKey k xs).map e := by
    intro k xs
    induction xs with
    | nil => rfl
    | cons x xs ih =>
      rw [List.map_cons, insertKey, insertKey, he]
      cases compare k x with
      | lt | eq => rfl
      | gt => exact congrArg (e x :: ·) ih
  induction ks with
  | nil => rfl
  | cons k ks ih =>
    rw [List.map_cons, sortedKeys, List.foldr_cons, ← sortedKeys, ih, hinsert]
    rfl

/-- Keys that are replaced by others in the same order. -/
theorem groupsBy_map_key [Std.LawfulEqOrd κ] [Std.ReflOrd κ'] [DecidableEq κ] [DecidableEq κ']
    (key : α → κ) (rows : List α) :
    groupsBy (e ∘ key) rows = (groupsBy key rows).map fun p => (e p.1, p.2) := by
  have hinjective : ∀ x y, e x = e y ↔ x = y := by
    intro x y
    refine ⟨fun h => Std.LawfulEqOrd.eq_of_compare ?_, congrArg e⟩
    rw [← he, h, Std.ReflOrd.compare_self]
  rw [groupsBy, groupsBy, ← List.map_map, sortedKeys_map he, List.map_map, List.map_map]
  simp only [Function.comp_def, hinjective]

end Embedding

/-! ## Some of the keys -/

section Some
variable [Ord κ] [Std.LawfulEqOrd κ] [Std.TransOrd κ]

theorem sortedKeys_filter (keep : κ → Bool) (ks : List κ) :
    sortedKeys (ks.filter keep) = (sortedKeys ks).filter keep := by
  refine (eq_sortedKeys ((pairwise_sortedKeys ks).filter keep) fun k => ?_).symm
  rw [List.mem_filter, List.mem_filter, mem_sortedKeys]

theorem groupsBy_filter [DecidableEq κ] (key : α → κ) (keep : κ → Bool) (rows : List α) :
    groupsBy key (rows.filter fun r => keep (key r)) =
      (groupsBy key rows).filter fun group => keep group.1 := by
  have hkeys : (rows.filter fun r => keep (key r)).map key = (rows.map key).filter keep := by
    rw [List.filter_map]
    rfl
  rw [groupsBy, groupsBy, hkeys, sortedKeys_filter, List.filter_map]
  refine List.map_congr_left fun k hk => ?_
  have hkeep : keep k = true := (List.mem_filter.1 hk).2
  rw [List.filter_filter]
  refine congrArg _ (List.filter_congr fun r _ => ?_)
  by_cases hr : key r = k
  · simp [hr, hkeep]
  · simp [hr]

end Some

/-- Rows regrouped by distinct keys that cover them. -/
theorem perm_flatMap_filter [DecidableEq κ] (key : α → κ) {ks : List κ} (hks : ks.Nodup)
    {rows : List α} (hrows : ∀ r ∈ rows, key r ∈ ks) :
    (ks.flatMap fun k => rows.filter (key · = k)).Perm rows := by
  induction ks generalizing rows with
  | nil =>
    have : rows = [] := List.eq_nil_iff_forall_not_mem.2 fun r hr => by simpa using hrows r hr
    simp [this]
  | cons k ks ih =>
    obtain ⟨hk, hks⟩ := List.nodup_cons.1 hks
    -- the rows without key `k` are regrouped by the other keys
    have hcover : ∀ r ∈ rows.filter fun r => !decide (key r = k), key r ∈ ks := by
      intro r hr
      obtain ⟨hr, hne⟩ := List.mem_filter.1 hr
      rcases List.mem_cons.1 (hrows r hr) with h | h
      · simp [h] at hne
      · exact h
    have hrest := ih hks hcover
    have hsame : (ks.flatMap fun j =>
        (rows.filter fun r => !decide (key r = k)).filter (key · = j)) =
          ks.flatMap fun j => rows.filter (key · = j) := by
      refine List.flatMap_congr fun j hj => ?_
      rw [List.filter_filter]
      refine List.filter_congr fun r _ => ?_
      have hjk : j ≠ k := fun h => hk (h ▸ hj)
      by_cases hr : key r = j
      · simp [hr, hjk]
      · simp [hr]
    rw [hsame] at hrest
    rw [List.flatMap_cons]
    exact (hrest.append_left _).trans (List.filter_append_perm _ rows)

theorem perm_flatMap_groupsBy [Ord κ] [Std.LawfulEqOrd κ] [Std.TransOrd κ] [DecidableEq κ]
    (key : α → κ) (rows : List α) : ((groupsBy key rows).flatMap Prod.snd).Perm rows := by
  rw [groupsBy, List.flatMap_map]
  exact perm_flatMap_filter key (nodup_sortedKeys _) fun r hr =>
    mem_sortedKeys.2 (List.mem_map_of_mem hr)

/-! ## What is made of one group -/

theorem flatMap_eq_of_nodup {β : Type} {ks : List κ} {f : κ → List β} {k : κ} (hks : ks.Nodup)
    (hk : k ∈ ks) (hf : ∀ j ∈ ks, j ≠ k → f j = []) : ks.flatMap f = f k := by
  induction ks with
  | nil => cases hk
  | cons j js ih =>
    obtain ⟨hj, hjs⟩ := List.nodup_cons.1 hks
    rw [List.flatMap_cons]
    by_cases hjk : j = k
    · have hothers : js.flatMap f = [] := by
        rw [List.flatMap_eq_nil_iff]
        intro i hi
        exact hf i (List.mem_cons_of_mem _ hi) fun hik => hj (hjk ▸ hik ▸ hi)
      rw [hothers, List.append_nil, hjk]
    · have hrest := ih hjs ((List.mem_cons.1 hk).resolve_left (Ne.symm hjk))
        fun i hi => hf i (List.mem_cons_of_mem _ hi)
      rw [hf j List.mem_cons_self hjk, List.nil_append, hrest]

/-- If results keep the key of the rows that they come from, those with one key come from the group
of that key. -/
theorem filter_flatMap_groupsBy {β : Type} [Ord κ] [Std.LawfulEqOrd κ] [Std.TransOrd κ]
    [DecidableEq κ] {key : α → κ} {key' : β → κ} {f : List α → List β} (hnil : f [] = [])
    (hf : ∀ group, ∀ y ∈ f group, ∃ x ∈ group, key x = key' y) (rows : List α) (k : κ) :
    ((groupsBy key rows).flatMap fun group => f group.2).filter (key' · = k) =
      f (rows.filter (key · = k)) := by
  have hkey : ∀ j, ∀ y ∈ f (rows.filter (key · = j)), key' y = j := by
    intro j y hy
    obtain ⟨x, hx, hxy⟩ := hf _ y hy
    rw [← hxy]
    simpa using (List.mem_filter.1 hx).2
  have hothers : ∀ j, j ≠ k → (f (rows.filter (key · = j))).filter (key' · = k) = [] := by
    intro j hjk
    refine List.filter_eq_nil_iff.2 fun y hy => ?_
    simpa [hkey j y hy] using hjk
  rw [groupsBy, List.flatMap_map, List.filter_flatMap]
  by_cases hk : k ∈ sortedKeys (rows.map key)
  · rw [flatMap_eq_of_nodup (nodup_sortedKeys _) hk fun j _ => hothers j]
    exact List.filter_eq_self.2 fun y hy => by simpa using hkey k y hy
  · have hnone : rows.filter (key · = k) = [] := by
      refine List.filter_eq_nil_iff.2 fun r hr hrk => hk (mem_sortedKeys.2 ?_)
      exact List.mem_map.2 ⟨r, hr, by simpa using hrk⟩
    rw [hnone, hnil, List.flatMap_eq_nil_iff]
    exact fun j hj => hothers j fun h => hk (h ▸ hj)

/-! ## Distinct keys -/

section Distinct
variable [DecidableEq κ] {key : α → κ} {rows : List α}

theorem length_filter_key_le_one (h : (rows.map key).Nodup) (k : κ) :
    (rows.filter (key · = k)).length ≤ 1 := by
  calc (rows.filter (key · = k)).length
      = rows.countP (key · = k) := List.countP_eq_length_filter.symm
    _ = (rows.map key).count k := by
        rw [List.count, List.countP_map]
        exact List.countP_congr fun r _ => by simp
    _ ≤ 1 := List.nodup_iff_count_le_one.1 h k

theorem filter_key_eq_singleton (h : (rows.map key).Nodup) {r : α} (hr : r ∈ rows) :
    rows.filter (key · = key r) = [r] := by
  have hmem : r ∈ rows.filter (key · = key r) := List.mem_filter.2 ⟨hr, by simp⟩
  obtain ⟨x, hx⟩ := List.length_eq_one_iff.1
    (Nat.le_antisymm (length_filter_key_le_one h (key r)) (List.length_pos_of_mem hmem))
  rw [hx] at hmem ⊢
  rw [List.mem_singleton.1 hmem]

end Distinct

/-! ## The groups without their keys -/

section Groups
variable [Ord κ] [Std.LawfulEqOrd κ] [DecidableEq κ] {key key' : α → κ} {rows group : List α}

theorem mem_groups_iff : group ∈ (groupsBy key rows).map Prod.snd ↔
    ∃ r ∈ rows, rows.filter (key · = key r) = group := by
  simp only [groupsBy, List.map_map, List.mem_map, mem_sortedKeys, Function.comp_apply]
  constructor
  · rintro ⟨_, ⟨r, hr, rfl⟩, rfl⟩
    exact ⟨r, hr, rfl⟩
  · rintro ⟨r, hr, rfl⟩
    exact ⟨key r, ⟨r, hr, rfl⟩, rfl⟩

theorem nodup_groups [Std.TransOrd κ] : ((groupsBy key rows).map Prod.snd).Nodup := by
  rw [groupsBy, List.map_map]
  refine List.Nodup.map_on (fun k hk k' _ hgroups => ?_) (nodup_sortedKeys _)
  -- a row with key `k` stands in the group of `k`, hence in that of `k'`
  obtain ⟨r, hr, rfl⟩ := List.mem_map.1 (mem_sortedKeys.1 hk)
  have hmem : r ∈ rows.filter (key · = key r) := List.mem_filter.2 ⟨hr, by simp⟩
  have hmem' : r ∈ rows.filter (key · = k') := by
    rw [← show rows.filter (key · = key r) = rows.filter (key · = k') from hgroups]
    exact hmem
  simpa using (List.mem_filter.1 hmem').2

theorem perm_groups [Std.TransOrd κ]
    (h : ∀ x ∈ rows, ∀ y ∈ rows, key x = key y ↔ key' x = key' y) :
    ((groupsBy key rows).map Prod.snd).Perm ((groupsBy key' rows).map Prod.snd) := by
  have hsame : ∀ r ∈ rows, rows.filter (key · = key r) = rows.filter (key' · = key' r) :=
    fun r hr => List.filter_congr fun x hx => decide_eq_decide.2 (h x hx r hr)
  rw [List.perm_ext_iff_of_nodup nodup_groups nodup_groups]
  intro group
  rw [mem_groups_iff, mem_groups_iff]
  exact exists_congr fun r => and_congr_right fun hr => by rw [hsame r hr]

end Groups

end TwoVenues

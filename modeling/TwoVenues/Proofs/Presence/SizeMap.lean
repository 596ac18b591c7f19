import Mathlib.Data.List.Nodup
import Mathlib.Data.List.Perm.Basic
import TwoVenues.Presence.SizeMap

/-!
# Maps of distinct sizes

A map that is made of distinct sizes holds the entries it was made of, in ascending order.

* `perm_insertEntry` : an entry under a new size is added to the others;
* `perm_entries_ofList` : the entries of the map are the given ones;
* `ofList_perm` : the order in which they are given plays no part;
* `values_ofList_subset` : values of a map of any sizes are among the given ones;
* `pairwise_sizes`, `nodup_sizes` : sizes are ascending, and none is there twice;
* `eq_of_valueKey_eq`, `eq_of_fst_eq` : the size says which entry it is;
* `length_sizes_le` : there are no more sizes than doubles.
-/

namespace TwoVenues.SizeMap

variable {α : Type}

theorem perm_insertEntry {size : Size} {value : α} {entries : List (Size × α)}
    (h : ∀ e ∈ entries, e.1.valueKey ≠ size.valueKey) :
    (insertEntry size value entries).Perm ((size, value) :: entries) := by
  induction entries with
  | nil => exact .refl _
  | cons e rest ih =>
    have hne : ¬size.valueKey = e.1.valueKey := fun hkey => h e List.mem_cons_self hkey.symm
    have hrest := ih fun d hd => h d (List.mem_cons_of_mem _ hd)
    by_cases hlt : size.valueKey < e.1.valueKey
    · rw [insertEntry, if_pos hlt]
    · rw [insertEntry, if_neg hlt, if_neg hne]
      exact (hrest.cons e).trans (.swap ..)

theorem perm_entries_foldl_insert {entries : List (Size × α)} {m : SizeMap α}
    (h : ((m.entries ++ entries).map (·.1.valueKey)).Nodup) :
    (entries.foldl (fun m e => m.insert e.1 e.2) m).entries.Perm (m.entries ++ entries) := by
  induction entries generalizing m with
  | nil => rw [List.append_nil]; exact .refl _
  | cons e rest ih =>
    -- `e` goes into the map first, so no later entry may have its size
    have hmove : (m.entries ++ e :: rest).Perm (e :: m.entries ++ rest) := List.perm_middle
    have hnodup := (hmove.map (·.1.valueKey)).nodup_iff.1 h
    rw [List.cons_append, List.map_cons, List.nodup_cons] at hnodup
    have hnew : ∀ d ∈ m.entries, d.1.valueKey ≠ e.1.valueKey := fun d hd hkey =>
      hnodup.1 (List.mem_map.2 ⟨d, List.mem_append_left _ hd, hkey⟩)
    have hinsert : ((m.insert e.1 e.2).entries ++ rest).Perm (e :: m.entries ++ rest) :=
      (perm_insertEntry hnew).append_right rest
    refine (ih ?_).trans (hinsert.trans hmove.symm)
    exact ((hinsert.trans hmove.symm).map _).nodup_iff.2 h

theorem perm_entries_ofList {entries : List (Size × α)}
    (h : (entries.map (·.1.valueKey)).Nodup) : (ofList entries).entries.Perm entries :=
  perm_entries_foldl_insert (m := empty) h

/-- Two maps of the same entries are the same, as the sizes say which entry stands where. -/
theorem eq_of_perm_entries {m m' : SizeMap α} (h : m.entries.Perm m'.entries) : m = m' := by
  have hentries : m.entries = m'.entries :=
    h.eq_of_pairwise (fun _ _ _ _ hlt hgt => absurd hlt (Int.not_lt.2 (Int.le_of_lt hgt)))
      m.ascending m'.ascending
  cases m
  cases m'
  cases hentries
  rfl

theorem ofList_perm {entries entries' : List (Size × α)}
    (h : (entries.map (·.1.valueKey)).Nodup) (hperm : entries.Perm entries') :
    ofList entries = ofList entries' := by
  apply eq_of_perm_entries
  have h' : (entries'.map (·.1.valueKey)).Nodup := (hperm.map _).nodup_iff.1 h
  exact (perm_entries_ofList h).trans (hperm.trans (perm_entries_ofList h').symm)

/-! ## Sizes that may repeat -/

theorem snd_of_mem_insertEntry {size : Size} {value : α} {entries : List (Size × α)}
    {e : Size × α} (h : e ∈ insertEntry size value entries) :
    e.2 = value ∨ e.2 ∈ entries.map Prod.snd := by
  induction entries with
  | nil =>
    obtain rfl := List.mem_singleton.1 h
    exact .inl rfl
  | cons d rest ih =>
    rw [List.map_cons]
    by_cases hlt : size.valueKey < d.1.valueKey
    · rw [insertEntry, if_pos hlt] at h
      rcases List.mem_cons.1 h with rfl | h
      · exact .inl rfl
      · exact .inr (List.mem_map_of_mem h)
    · rw [insertEntry, if_neg hlt] at h
      by_cases heq : size.valueKey = d.1.valueKey
      · rw [if_pos heq] at h
        rcases List.mem_cons.1 h with rfl | h
        · exact .inl rfl
        · exact .inr (List.mem_cons_of_mem _ (List.mem_map_of_mem h))
      · rw [if_neg heq] at h
        rcases List.mem_cons.1 h with rfl | h
        · exact .inr List.mem_cons_self
        · exact (ih h).imp_right (List.mem_cons_of_mem _)

/-- Values are only ever replaced by other values that are stored. -/
theorem values_ofList_subset (entries : List (Size × α)) :
    (ofList entries).values ⊆ entries.map Prod.snd := by
  have hfold : ∀ (rest : List (Size × α)) (m : SizeMap α), ∀ v ∈
      (rest.foldl (fun m e => m.insert e.1 e.2) m).values, v ∈ m.values ∨ v ∈ rest.map Prod.snd := by
    intro rest
    induction rest with
    | nil => exact fun m v hv => .inl hv
    | cons d rest ih =>
      intro m v hv
      rw [List.map_cons]
      rcases ih (m.insert d.1 d.2) v hv with hv | hv
      · obtain ⟨e, he, rfl⟩ := List.mem_map.1 hv
        rcases snd_of_mem_insertEntry he with heq | hmem
        · exact .inr (heq ▸ List.mem_cons_self)
        · exact .inl hmem
      · exact .inr (List.mem_cons_of_mem _ hv)
  intro v hv
  rcases hfold entries empty v hv with hv | hv
  · cases hv
  · exact hv

/-! ## The sizes of a map -/

theorem pairwise_sizes (m : SizeMap α) :
    m.sizes.Pairwise fun x y => x.valueKey < y.valueKey :=
  List.pairwise_map.2 m.ascending

theorem nodup_sizes (m : SizeMap α) : m.sizes.Nodup := by
  refine m.pairwise_sizes.imp ?_
  rintro x y hlt rfl
  exact Int.lt_irrefl _ hlt

/-- Sizes of entries are keys, so not even another spelling of a size has an entry of its own. -/
theorem eq_of_valueKey_eq {m : SizeMap α} {d e : Size × α} (hd : d ∈ m.entries)
    (he : e ∈ m.entries) (h : d.1.valueKey = e.1.valueKey) : d = e := by
  have hkeys : (m.entries.map (·.1.valueKey)).Pairwise (· < ·) := List.pairwise_map.2 m.ascending
  exact List.inj_on_of_nodup_map (hkeys.imp Int.ne_of_lt) hd he h

theorem eq_of_fst_eq {m : SizeMap α} {d e : Size × α} (hd : d ∈ m.entries) (he : e ∈ m.entries)
    (h : d.1 = e.1) : d = e :=
  eq_of_valueKey_eq hd he (congrArg (·.valueKey) h)

/-! ## The number of sizes -/

theorem length_le_of_ascending {low high : Int} {keys : List Int} (h : keys.Pairwise (· < ·))
    (hbounds : ∀ k ∈ keys, low ≤ k ∧ k < high) : keys.length ≤ (high - low).toNat := by
  induction keys generalizing low with
  | nil => exact Nat.zero_le _
  | cons k keys ih =>
    obtain ⟨hk, hkeys⟩ := List.pairwise_cons.1 h
    obtain ⟨hlow, hhigh⟩ := hbounds k List.mem_cons_self
    have habove : ∀ l ∈ keys, k + 1 ≤ l ∧ l < high := fun l hl =>
      ⟨hk l hl, (hbounds l (List.mem_cons_of_mem _ hl)).2⟩
    have hrest := ih hkeys habove
    rw [List.length_cons]
    omega

theorem valueKey_bounds (size : Size) :
    -0x8000000000000000 ≤ size.valueKey ∧ size.valueKey < 0x8000000000000000 := by
  have hbits := size.toFloat.toBits.toNat_lt
  simp only [Double.Signed.valueKey, Double.valueKey, Double.totalKey]
  split
  · decide
  · split <;> omega

theorem length_sizes_le (m : SizeMap α) : m.sizes.length ≤ 0x10000000000000000 := by
  have hascending : (m.sizes.map (·.valueKey)).Pairwise (· < ·) :=
    List.pairwise_map.2 m.pairwise_sizes
  have hbounds : ∀ key ∈ m.sizes.map (·.valueKey),
      -0x8000000000000000 ≤ key ∧ key < 0x8000000000000000 := by
    intro key hkey
    obtain ⟨size, -, rfl⟩ := List.mem_map.1 hkey
    exact valueKey_bounds size
  have hlength := length_le_of_ascending hascending hbounds
  rwa [List.length_map] at hlength

end TwoVenues.SizeMap

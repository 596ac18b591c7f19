import TwoVenues.Presence.Basic

/-!
# Maps from sizes

A map from sizes to values, in ascending order of sizes. Sizes are the same key if they are equal as
numbers; storing under a key that is there replaces the value and leaves the key as it is.
-/

namespace TwoVenues

/-- A map from sizes, ascending. -/
structure SizeMap (α : Type) where
  entries : List (Size × α)
  ascending : entries.Pairwise fun x y => x.1.valueKey < y.1.valueKey

namespace SizeMap

variable {α : Type}

/-- The entries with a value stored under a size. -/
def insertEntry (size : Size) (value : α) : List (Size × α) → List (Size × α)
  | [] => [(size, value)]
  | (x, v) :: rest =>
    if size.valueKey < x.valueKey then (size, value) :: (x, v) :: rest
    else if size.valueKey = x.valueKey then (x, value) :: rest
    else (x, v) :: insertEntry size value rest

theorem valueKey_of_mem_insertEntry {size : Size} {value : α} {entries : List (Size × α)}
    {e : Size × α} (h : e ∈ insertEntry size value entries) :
    e.1.valueKey = size.valueKey ∨
      ∃ d ∈ entries, e.1.valueKey = d.1.valueKey := by
  induction entries with
  | nil =>
    obtain rfl := List.mem_singleton.1 h
    exact .inl rfl
  | cons d rest ih =>
    unfold insertEntry at h
    split at h
    · rcases List.mem_cons.1 h with rfl | h
      · exact .inl rfl
      · exact .inr ⟨e, h, rfl⟩
    · split at h
      · rcases List.mem_cons.1 h with rfl | h
        · exact .inr ⟨d, List.mem_cons_self, rfl⟩
        · exact .inr ⟨e, List.mem_cons_of_mem _ h, rfl⟩
      · rcases List.mem_cons.1 h with rfl | h
        · exact .inr ⟨_, List.mem_cons_self, rfl⟩
        · rcases ih h with h | ⟨c, hc, h⟩
          · exact .inl h
          · exact .inr ⟨c, List.mem_cons_of_mem _ hc, h⟩

theorem ascending_insertEntry {size : Size} {value : α} {entries : List (Size × α)}
    (h : entries.Pairwise fun x y => x.1.valueKey < y.1.valueKey) :
    (insertEntry size value entries).Pairwise
      fun x y => x.1.valueKey < y.1.valueKey := by
  induction entries with
  | nil => simp [insertEntry]
  | cons d rest ih =>
    obtain ⟨hd, hrest⟩ := List.pairwise_cons.1 h
    unfold insertEntry
    split
    · next hlt =>
      refine List.pairwise_cons.2 ⟨fun e he => ?_, h⟩
      rcases List.mem_cons.1 he with rfl | he
      · exact hlt
      · exact Int.lt_trans hlt (hd e he)
    · split
      · exact List.pairwise_cons.2 ⟨hd, hrest⟩
      · next hlt hne =>
        refine List.pairwise_cons.2 ⟨fun e he => ?_, ih hrest⟩
        rcases valueKey_of_mem_insertEntry he with he | ⟨c, hc, he⟩
        · simp only [he]; omega
        · simp only [he]; exact hd c hc

def empty : SizeMap α := ⟨[], List.Pairwise.nil⟩

def insert (m : SizeMap α) (size : Size) (value : α) : SizeMap α :=
  ⟨insertEntry size value m.entries, ascending_insertEntry m.ascending⟩

/-- The map that stores values one after the other. -/
def ofList (entries : List (Size × α)) : SizeMap α :=
  entries.foldl (fun m (size, value) => m.insert size value) empty

def sizes (m : SizeMap α) : List Size := m.entries.map Prod.fst

def values (m : SizeMap α) : List α := m.entries.map Prod.snd

end SizeMap

end TwoVenues

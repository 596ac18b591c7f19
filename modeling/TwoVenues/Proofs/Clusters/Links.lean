import Mathlib.Data.List.Nodup
import TwoVenues.Clusters.Groups
import TwoVenues.Proofs.Clusters.DisjointSets

/-!
# Links between sizes

* `Linked stats pairs minCorrelation maxPValue x y` : a qualifying pair links the sizes `x` and `y`,
  both of which are among the statistics;
* `place?_eq_some_iff` : where a size stands among statistics of distinct sizes;
* `represents_sets` : the sets of places are the classes of the links;
* `root_sets_eq_iff` : two places share a set exactly if a chain of links joins their sizes.
-/

namespace TwoVenues.SizeGroup

/-- A correlation links two sizes of the statistics, which may be given there as other spellings of
the same numbers. -/
def Linked (stats : List SizeStats) (pairs : List SizeCorrelation)
    (minCorrelation maxPValue : Float) (x y : Size) : Prop :=
  x ∈ stats.map (·.size) ∧ y ∈ stats.map (·.size) ∧
    ∃ pair ∈ pairs, pair.isLink minCorrelation maxPValue = true ∧
      pair.size1.valueKey = x.valueKey ∧ pair.size2.valueKey = y.valueKey

variable {stats : List SizeStats} {pairs : List SizeCorrelation} {minCorrelation maxPValue : Float}

/-! ## Places -/

theorem get_inj_of_nodup (hstats : (stats.map (·.size.valueKey)).Nodup) {i j : Fin stats.length}
    (h : (stats.get i).size.valueKey = (stats.get j).size.valueKey) : i = j := by
  have hi : (i : Nat) < (stats.map (·.size.valueKey)).length := by simp
  have hj : (j : Nat) < (stats.map (·.size.valueKey)).length := by simp
  have hget : (stats.map (·.size.valueKey))[(i : Nat)] =
      (stats.map (·.size.valueKey))[(j : Nat)] := by
    rw [List.getElem_map, List.getElem_map]
    exact h
  exact Fin.ext (hstats.getElem_inj_iff.1 hget)

theorem place?_eq_some_iff (hstats : (stats.map (·.size.valueKey)).Nodup) {size : Size}
    {i : Fin stats.length} :
    place? stats size = some i ↔ (stats.get i).size.valueKey = size.valueKey := by
  constructor
  · intro h
    simpa using List.find?_some h
  · intro h
    have hmem : i ∈ (List.finRange stats.length).reverse :=
      List.mem_reverse.2 (List.mem_finRange i)
    cases hplace : place? stats size with
    | none =>
      have := List.find?_eq_none.1 hplace i hmem
      exact absurd (decide_eq_true h) this
    | some j =>
      have hj : (stats.get j).size.valueKey = size.valueKey := by simpa using List.find?_some hplace
      rw [get_inj_of_nodup hstats (hj.trans h.symm)]

/-! ## Sets of places -/

/-- The places of the two sizes of a correlation, if both are among the statistics. -/
def edge? (stats : List SizeStats) (pair : SizeCorrelation) :
    Option (Fin stats.length × Fin stats.length) :=
  match place? stats pair.size1, place? stats pair.size2 with
  | some i, some j => some (i, j)
  | _, _ => none

theorem edge?_eq_some_iff {pair : SizeCorrelation} {i j : Fin stats.length} :
    edge? stats pair = some (i, j) ↔
      place? stats pair.size1 = some i ∧ place? stats pair.size2 = some j := by
  unfold edge?
  cases place? stats pair.size1 <;> cases place? stats pair.size2 <;> simp

theorem represents_join {f : DisjointSets stats.length}
    {edges : List (Fin stats.length × Fin stats.length)} (h : f.Represents edges)
    (pair : SizeCorrelation) :
    (join stats f pair).Represents (edges ++ (edge? stats pair).toList) := by
  unfold join edge?
  cases place? stats pair.size1 with
  | none => rwa [Option.toList_none, List.append_nil]
  | some i =>
    cases place? stats pair.size2 with
    | none => rwa [Option.toList_none, List.append_nil]
    | some j => exact h.union i j

theorem represents_sets (stats : List SizeStats) (links : List SizeCorrelation) :
    (sets stats links).Represents (links.filterMap (edge? stats)) :=
  (DisjointSets.Represents.singletons _).foldl represents_join links

/-! ## Chains of links -/

theorem size_mem (i : Fin stats.length) : (stats.get i).size ∈ stats.map (·.size) :=
  List.mem_map_of_mem (List.getElem_mem i.isLt)

theorem mem_edges_iff_linked (hstats : (stats.map (·.size.valueKey)).Nodup)
    {i j : Fin stats.length} :
    (i, j) ∈ (pairs.filter (·.isLink minCorrelation maxPValue)).filterMap (edge? stats) ↔
      Linked stats pairs minCorrelation maxPValue (stats.get i).size (stats.get j).size := by
  simp only [List.mem_filterMap, List.mem_filter, edge?_eq_some_iff, place?_eq_some_iff hstats]
  constructor
  · rintro ⟨pair, ⟨hpair, hlink⟩, hi, hj⟩
    exact ⟨size_mem i, size_mem j, pair, hpair, hlink, hi.symm, hj.symm⟩
  · rintro ⟨-, -, pair, hpair, hlink, hi, hj⟩
    exact ⟨pair, ⟨hpair, hlink⟩, hi.symm, hj.symm⟩

theorem exists_place {x : Size} (h : x ∈ stats.map (·.size)) :
    ∃ i : Fin stats.length, (stats.get i).size = x := by
  obtain ⟨t, ht, rfl⟩ := List.mem_map.1 h
  obtain ⟨i, hi, rfl⟩ := List.getElem_of_mem ht
  exact ⟨⟨i, hi⟩, rfl⟩

/-- A chain of links that goes anywhere runs through places of the statistics. -/
theorem exists_places_of_eqvGen {r : Fin stats.length → Fin stats.length → Prop}
    (hstats : (stats.map (·.size.valueKey)).Nodup)
    (hr : ∀ i j, Linked stats pairs minCorrelation maxPValue (stats.get i).size
      (stats.get j).size → r i j)
    {x y : Size} (h : Relation.EqvGen (Linked stats pairs minCorrelation maxPValue) x y) :
    x = y ∨ ∃ i j, (stats.get i).size = x ∧ (stats.get j).size = y ∧ Relation.EqvGen r i j := by
  induction h with
  | rel x y h =>
    obtain ⟨i, rfl⟩ := exists_place h.1
    obtain ⟨j, rfl⟩ := exists_place h.2.1
    exact Or.inr ⟨i, j, rfl, rfl, .rel _ _ (hr i j h)⟩
  | refl x => exact Or.inl rfl
  | symm x y _ ih =>
    rcases ih with rfl | ⟨i, j, hi, hj, hij⟩
    · exact Or.inl rfl
    · exact Or.inr ⟨j, i, hj, hi, .symm _ _ hij⟩
  | trans x y z _ _ ih₁ ih₂ =>
    rcases ih₁ with rfl | ⟨i, j, hi, hj, hij⟩
    · exact ih₂
    · rcases ih₂ with rfl | ⟨j', k, hj', hk, hjk⟩
      · exact Or.inr ⟨i, j, hi, hj, hij⟩
      · obtain rfl := get_inj_of_nodup hstats (congrArg (·.valueKey) (hj.trans hj'.symm))
        exact Or.inr ⟨i, k, hi, hk, .trans _ _ _ hij hjk⟩

theorem root_sets_eq_iff (hstats : (stats.map (·.size.valueKey)).Nodup)
    (pairs : List SizeCorrelation) (minCorrelation maxPValue : Float) (i j : Fin stats.length) :
    (sets stats (pairs.filter (·.isLink minCorrelation maxPValue))).root i =
        (sets stats (pairs.filter (·.isLink minCorrelation maxPValue))).root j ↔
      Relation.EqvGen (Linked stats pairs minCorrelation maxPValue) (stats.get i).size
        (stats.get j).size := by
  rw [represents_sets stats _ i j]
  constructor
  · intro h
    have heq : Equivalence fun i j : Fin stats.length =>
        Relation.EqvGen (Linked stats pairs minCorrelation maxPValue) (stats.get i).size
          (stats.get j).size :=
      ⟨fun _ => .refl _, .symm _ _, .trans _ _ _⟩
    exact heq.eqvGen_iff.1 (h.mono fun a b hab => .rel _ _ ((mem_edges_iff_linked hstats).1 hab))
  · intro h
    rcases exists_places_of_eqvGen hstats (fun _ _ => (mem_edges_iff_linked hstats).2) h with
      hij | ⟨i', j', hi, hj, hij⟩
    · rw [get_inj_of_nodup hstats (congrArg (·.valueKey) hij)]
      exact .refl _
    · obtain rfl := get_inj_of_nodup hstats (congrArg (·.valueKey) hi)
      obtain rfl := get_inj_of_nodup hstats (congrArg (·.valueKey) hj)
      exact hij

end TwoVenues.SizeGroup

import TwoVenues.Proofs.Checked.Forest
import TwoVenues.Proofs.Checked.Orders
import TwoVenues.Proofs.Clusters.Groups
import TwoVenues.Proofs.Clusters.Ranks

/-!
# Groups of sizes, with checked tables

The places of the statistics are joined in the two tables of a forest, looked up there once more one
after the other, and grouped by what was found; the groups are put in order by their first members.
Ranks stay below 255 since no table has `2 ^ 255` places, and a group has the place it was made for
as a member.

* `joinAll_eq`, `roots?_ofSets` : the joined forest and the roots that are found in it;
* `sortGroups_eq` : groups with members, in order;
* `groups_eq` : the groups of the sizes in the statistics.
-/

namespace TwoVenues.Checked

/-! ## Joining -/

def join (stats : List SizeStats) (g : Forest) (pair : SizeCorrelation) : Option Forest :=
  match SizeGroup.place? stats pair.size1, SizeGroup.place? stats pair.size2 with
  | some i, some j => do
    let (_, g) ← g.union? i j
    return g
  | _, _ => some g

/-- The forest of the places, joined by the links between their sizes. -/
def joinAll (stats : List SizeStats) (links : List SizeCorrelation) : Option Forest :=
  links.foldlM (join stats) (Forest.singletons stats.length)

section Join
variable {stats : List SizeStats} (hstats : stats.length < 2 ^ 255)
include hstats

theorem join_ofSets {f : DisjointSets stats.length} (h : f.IsHeavy) (pair : SizeCorrelation) :
    join stats (.ofSets f) pair = some (.ofSets (SizeGroup.join stats f pair)) ∧
      (SizeGroup.join stats f pair).IsHeavy := by
  unfold join SizeGroup.join
  cases SizeGroup.place? stats pair.size1 with
  | none => exact ⟨rfl, h⟩
  | some i =>
    cases SizeGroup.place? stats pair.size2 with
    | none => exact ⟨rfl, h⟩
    | some j =>
      refine ⟨?_, h.union i j⟩
      simp only [Forest.union?_ofSets (h.rank_lt hstats)]
      rfl

theorem joinAll_eq (links : List SizeCorrelation) :
    joinAll stats links = some (.ofSets (SizeGroup.sets stats links)) := by
  have hfold : ∀ (rest : List SizeCorrelation) (f : DisjointSets stats.length), f.IsHeavy →
      rest.foldlM (join stats) (.ofSets f) =
        some (.ofSets (rest.foldl (SizeGroup.join stats) f)) := by
    intro rest
    induction rest with
    | nil => exact fun _ _ => rfl
    | cons pair rest ih =>
      intro f hf
      obtain ⟨hjoin, hheavy⟩ := join_ofSets hstats hf pair
      rw [List.foldlM_cons, hjoin, Option.bind_eq_bind, Option.bind_some, ih _ hheavy]
      rfl
  rw [joinAll, Forest.singletons_eq]
  exact hfold links _ (.singletons _)

end Join

/-! ## Components -/

/-- The roots of some elements, which are looked up one after the other. -/
def Forest.roots? (g : Forest) : List Nat → Option (List Nat)
  | [] => some []
  | i :: rest => do
    let (r, g) ← g.find? i
    let others ← g.roots? rest
    return r :: others

def ofMembers (members : List SizeStats) : SizeGroup where
  sizes := sortWith sizeOrder (members.map (·.size))
  avgPresenceFraction :=
    Statistics.sum (members.map (·.presenceFraction)) / Float.ofNat members.length

/-- The groups of the statistics whose places have one root. -/
def components (stats : List SizeStats) (roots : List Nat) : List SizeGroup :=
  (groupsBy Prod.fst (roots.zip stats)).map fun p => ofMembers (p.2.map Prod.snd)

theorem Forest.roots?_ofSets {n : Nat} (f : DisjointSets n) (elements : List (Fin n)) :
    (ofSets f).roots? (elements.map Fin.val) = some (elements.map fun i => (f.root i).val) := by
  induction elements generalizing f with
  | nil => rfl
  | cons i rest ih =>
    rw [List.map_cons, roots?, find?_ofSets, Option.bind_eq_bind, Option.bind_some]
    -- looking `i` up has changed the forest, but not the roots in it
    simp only [ih, DisjointSets.root_compress]
    rfl

theorem ofMembers_eq (members : List SizeStats) :
    ofMembers members = SizeGroup.ofMembers members := by
  rw [ofMembers, sortWith_sizeOrder]
  rfl

theorem components_eq (stats : List SizeStats) (f : DisjointSets stats.length) :
    components stats ((List.finRange stats.length).map fun i => (f.root i).val) =
      SizeGroup.components stats f := by
  have hzip : (((List.finRange stats.length).map fun i => (f.root i).val).zip stats) =
      (List.finRange stats.length).map fun i => ((f.root i).val, stats.get i) := by
    rw [← List.zip_map', List.map_get_finRange]
  have hkeys : groupsBy (Fin.val ∘ f.root) (List.finRange stats.length) =
      (groupsBy f.root (List.finRange stats.length)).map fun p => (p.1.val, p.2) :=
    groupsBy_map_key (e := Fin.val) (fun _ _ => rfl) _ _
  unfold components SizeGroup.components
  rw [hzip, groupsBy_map, show Prod.fst ∘ (fun i => ((f.root i).val, stats.get i)) =
    Fin.val ∘ f.root from rfl, hkeys, List.map_map, List.map_map]
  simp only [Function.comp_def, List.map_map, ofMembers_eq]

/-! ## Order -/

def sortGroups (groups : List SizeGroup) : Option (List SizeGroup) := do
  let keyed ← groups.mapM fun g => do
    let first ← g.sizes[0]?
    return (first, g)
  return (sortWith firstOrder keyed).map Prod.snd

theorem sortGroups_eq {groups : List SizeGroup} (h : ∀ g ∈ groups, g.sizes ≠ []) :
    sortGroups groups = some (sortBy SizeGroup.standsBefore groups) := by
  let first := fun (g : SizeGroup) => g.sizes.head?.getD .negativeNan
  have hfirst : ∀ g ∈ groups, g.sizes[0]? = some (first g) ∧ (first g).totalKey = g.firstKey := by
    intro g hg
    obtain ⟨x, xs, hx⟩ := List.exists_cons_of_ne_nil (h g hg)
    simp [first, SizeGroup.firstKey, hx]
  have hkeyed : groups.mapM (fun g => do
      let first ← g.sizes[0]?
      return (first, g)) = some (groups.map fun g => (first g, g)) := by
    refine mapM_eq_some_map fun g hg => ?_
    rw [(hfirst g hg).1]
    rfl
  have horder : ∀ g ∈ groups, ∀ g' ∈ groups, (firstOrder (first g, g) (first g', g')).isLE =
      SizeGroup.standsBefore g g' := by
    intro g hg g' hg'
    rw [SizeGroup.standsBefore_eq (h g hg) (h g' hg'), ← (hfirst g hg).2, ← (hfirst g' hg').2]
    exact isLE_compareOn (fun x : Size × SizeGroup => x.1.totalKey) _ _
  unfold sortGroups sortWith
  rw [hkeyed, Option.bind_eq_bind, Option.bind_some, map_sortBy horder, List.map_map]
  exact congrArg some (List.map_id _)

def groups (stats : List SizeStats) (pairs : List SizeCorrelation)
    (minCorrelation maxPValue : Float) : Option (List SizeGroup) := do
  let forest ← joinAll stats (pairs.filter (·.isLink minCorrelation maxPValue))
  let roots ← forest.roots? (List.range stats.length)
  sortGroups (components stats roots)

theorem groups_eq {stats : List SizeStats} (hstats : stats.length < 2 ^ 255)
    (pairs : List SizeCorrelation) (minCorrelation maxPValue : Float) :
    groups stats pairs minCorrelation maxPValue =
      some (SizeGroup.ofStats stats pairs minCorrelation maxPValue) := by
  have hplaces : List.range stats.length = (List.finRange stats.length).map Fin.val :=
    List.map_coe_finRange_eq_range.symm
  unfold groups
  rw [joinAll_eq hstats, Option.bind_eq_bind, Option.bind_some, hplaces, Forest.roots?_ofSets,
    Option.bind_eq_bind, Option.bind_some, components_eq, SizeGroup.ofStats_eq]
  refine sortGroups_eq fun g hg => ?_
  obtain ⟨i, rfl⟩ := SizeGroup.mem_components.1 hg
  exact SizeGroup.sizes_component_ne_nil i

end TwoVenues.Checked

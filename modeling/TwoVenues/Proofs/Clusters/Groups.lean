import TwoVenues.Proofs.Clusters.Links
import TwoVenues.Proofs.Double.NumericOrder
import TwoVenues.Proofs.Grouping
import TwoVenues.Proofs.Sorting

/-!
# Groups are the connected components

* `SizeGroup.component stats f i` : the group of all places in the set of the place `i`;
* `SizeGroup.mem_components` : the groups are those of the places;
* `SizeGroup.perm_sizes_components` : together the groups have every size once;
* `SizeGroup.exists_least` : groups are ordered by their least members;
* `SizeGroup.IsComponents` : what it means to be the groups of some linked sizes.
-/

namespace TwoVenues

/-- A correlation that is not a number links nothing, nor does a p-value that is not. -/
theorem SizeCorrelation.isLink_eq_false {pair : SizeCorrelation} (minCorrelation maxPValue : Float)
    (h : pair.correlation.isNaN = true ∨ pair.pValue.isNaN = true) :
    pair.isLink minCorrelation maxPValue = false := by
  refine Bool.eq_false_iff.2 fun hlink => ?_
  rw [isLink, Bool.and_eq_true, decide_eq_true_iff, decide_eq_true_iff] at hlink
  obtain ⟨hcorrelation, hp⟩ := hlink
  have hc := (Double.lt_iff.1 hcorrelation).2.1
  have hv := (Double.lt_iff.1 hp).1
  rw [hc, hv] at h
  rcases h with h | h <;> cases h

namespace SizeGroup

/-- The groups of a list of statistics whose sizes are linked. -/
structure IsComponents (stats : List SizeStats) (linked : Size → Size → Prop)
    (groups : List SizeGroup) : Prop where
  /-- Every size stands in exactly one group. -/
  covers : (groups.flatMap (·.sizes)).Perm (stats.map (·.size))
  nonempty : ∀ g ∈ groups, g.sizes ≠ []
  /-- Two sizes share a group exactly if a chain of links joins them. -/
  shares : ∀ x ∈ stats.map (·.size), ∀ y ∈ stats.map (·.size),
    (∃ g ∈ groups, x ∈ g.sizes ∧ y ∈ g.sizes) ↔ Relation.EqvGen linked x y
  ascending : ∀ g ∈ groups, g.sizes.Pairwise fun x y => x.totalLe y = true
  /-- The least member of a group is also below the later groups. -/
  ordered : groups.Pairwise fun g h => ∃ x ∈ g.sizes, ∀ y ∈ g.sizes ++ h.sizes, x.totalLe y = true
  average : ∀ g ∈ groups, g.avgPresenceFraction =
    Statistics.sum ((stats.filter (·.size ∈ g.sizes)).map (·.presenceFraction)) /
      Float.ofNat g.sizes.length

variable {stats : List SizeStats} {f : DisjointSets stats.length}

/-! ## Components -/

/-- The statistics of all places in the set of a place. -/
def members (stats : List SizeStats) (f : DisjointSets stats.length) (i : Fin stats.length) :
    List SizeStats :=
  ((List.finRange stats.length).filter (f.root · = f.root i)).map stats.get

def component (stats : List SizeStats) (f : DisjointSets stats.length) (i : Fin stats.length) :
    SizeGroup :=
  ofMembers (members stats f i)

/-- The groups before they are put in order. -/
def components (stats : List SizeStats) (f : DisjointSets stats.length) : List SizeGroup :=
  (groupsBy f.root (List.finRange stats.length)).map fun p => ofMembers (p.2.map stats.get)

theorem mem_components {g : SizeGroup} :
    g ∈ components stats f ↔ ∃ i, g = component stats f i := by
  unfold components component members
  rw [List.mem_map]
  constructor
  · rintro ⟨⟨k, places⟩, hp, rfl⟩
    obtain ⟨rfl, hne⟩ := mem_groupsBy.1 hp
    obtain ⟨i, hi⟩ := List.exists_mem_of_ne_nil _ hne
    have hk : f.root i = k := by simpa using (List.mem_filter.1 hi).2
    exact ⟨i, by rw [hk]⟩
  · rintro ⟨i, rfl⟩
    refine ⟨(f.root i, _), mem_groupsBy.2 ⟨rfl, ?_⟩, rfl⟩
    exact List.ne_nil_of_mem (List.mem_filter.2 ⟨List.mem_finRange i, by simp⟩)

theorem perm_sizes_ofMembers (ms : List SizeStats) :
    (ofMembers ms).sizes.Perm (ms.map (·.size)) :=
  perm_sortBy _ _

theorem mem_sizes_component {i : Fin stats.length} {x : Size} :
    x ∈ (component stats f i).sizes ↔ ∃ j, f.root j = f.root i ∧ (stats.get j).size = x := by
  rw [component, (perm_sizes_ofMembers _).mem_iff, members, List.map_map]
  simp [List.mem_filter]

theorem perm_sizes_components :
    ((components stats f).flatMap (·.sizes)).Perm (stats.map (·.size)) := by
  have hplaces : (List.finRange stats.length).map stats.get = stats := List.map_get_finRange stats
  calc (components stats f).flatMap (·.sizes)
      = (groupsBy f.root (List.finRange stats.length)).flatMap fun p =>
          (ofMembers (p.2.map stats.get)).sizes := by rw [components, List.flatMap_map]
    List.Perm _ ((groupsBy f.root (List.finRange stats.length)).flatMap fun p =>
          (p.2.map stats.get).map (·.size)) :=
        List.Perm.flatMap_left _ fun p _ => perm_sizes_ofMembers _
    _ = (((groupsBy f.root (List.finRange stats.length)).flatMap Prod.snd).map stats.get).map
          (·.size) := by rw [List.map_flatMap, List.map_flatMap]
    List.Perm _ (((List.finRange stats.length).map stats.get).map (·.size)) :=
        ((perm_flatMap_groupsBy f.root _).map _).map _
    _ = stats.map (·.size) := by rw [hplaces]

theorem ofStats_eq (stats : List SizeStats) (pairs : List SizeCorrelation)
    (minCorrelation maxPValue : Float) : ofStats stats pairs minCorrelation maxPValue =
      sortBy standsBefore (components stats
        (sets stats (pairs.filter (·.isLink minCorrelation maxPValue)))) := rfl

theorem sizes_component_ne_nil (i : Fin stats.length) : (component stats f i).sizes ≠ [] :=
  List.ne_nil_of_mem (mem_sizes_component.2 ⟨i, rfl, rfl⟩)

/-! ## Order -/

theorem ascending_ofMembers (ms : List SizeStats) :
    (ofMembers ms).sizes.Pairwise fun x y => x.totalLe y = true :=
  pairwise_sortBy Double.Signed.totalLe (fun _ _ _ => Double.Signed.totalLe_trans)
    Double.Signed.totalLe_total _

/-- The place of the first member in the total order. -/
def firstKey (g : SizeGroup) : Int := (g.sizes.head?.map (·.totalKey)).getD 0

theorem standsBefore_eq {g h : SizeGroup} (hg : g.sizes ≠ []) (hh : h.sizes ≠ []) :
    standsBefore g h = decide (g.firstKey ≤ h.firstKey) := by
  obtain ⟨x, xs, hx⟩ := List.exists_cons_of_ne_nil hg
  obtain ⟨y, ys, hy⟩ := List.exists_cons_of_ne_nil hh
  simp only [standsBefore, firstKey, hx, hy]
  rfl

/-- Groups with members are ordered by their first members. -/
theorem pairwise_sortBy_standsBefore {groups : List SizeGroup}
    (hgroups : ∀ g ∈ groups, g.sizes ≠ []) :
    (sortBy standsBefore groups).Pairwise fun g h => g.firstKey ≤ h.firstKey := by
  rw [sortBy_congr fun g hg h hh => standsBefore_eq (hgroups g hg) (hgroups h hh)]
  refine (pairwise_sortBy _ (fun g h k hgh hhk => ?_) (fun g h => ?_) groups).imp fun hgh => ?_
  · simp only [decide_eq_true_eq] at *
    exact Int.le_trans hgh hhk
  · simp only [decide_eq_true_eq]
    exact Int.le_total _ _
  · simpa using hgh

theorem exists_firstKey {g : SizeGroup} (hg : g.sizes ≠ []) :
    ∃ x ∈ g.sizes, x.totalKey = g.firstKey := by
  obtain ⟨x, xs, hx⟩ := List.exists_cons_of_ne_nil hg
  refine ⟨x, hx ▸ List.mem_cons_self, ?_⟩
  rw [firstKey, hx]
  rfl

theorem firstKey_le {g : SizeGroup} (hg : g.sizes.Pairwise fun x y => x.totalLe y = true)
    {y : Size} (hy : y ∈ g.sizes) : g.firstKey ≤ y.totalKey := by
  unfold firstKey
  cases hx : g.sizes with
  | nil => rw [hx] at hy; cases hy
  | cons x xs =>
    rw [hx] at hg hy
    rcases List.mem_cons.1 hy with rfl | hy
    · exact Int.le_refl _
    · exact of_decide_eq_true ((List.pairwise_cons.1 hg).1 y hy)

/-- The first member of an ascending group is the least of it, and below the groups after it. -/
theorem exists_least {g h : SizeGroup} (hg : g.sizes ≠ [])
    (hgs : g.sizes.Pairwise fun x y => x.totalLe y = true)
    (hhs : h.sizes.Pairwise fun x y => x.totalLe y = true) (hgh : g.firstKey ≤ h.firstKey) :
    ∃ x ∈ g.sizes, ∀ y ∈ g.sizes ++ h.sizes, x.totalLe y = true := by
  obtain ⟨x, hx, hkey⟩ := exists_firstKey hg
  refine ⟨x, hx, fun y hy => decide_eq_true ?_⟩
  rw [hkey]
  rcases List.mem_append.1 hy with hy | hy
  · exact firstKey_le hgs hy
  · exact Int.le_trans hgh (firstKey_le hhs hy)

/-! ## Members -/

theorem members_eq_filter (hstats : (stats.map (·.size.valueKey)).Nodup) (i : Fin stats.length) :
    members stats f i = stats.filter (·.size ∈ (component stats f i).sizes) := by
  have hplaces : (List.finRange stats.length).map stats.get = stats := List.map_get_finRange stats
  have hmem : ∀ j : Fin stats.length,
      (stats.get j).size ∈ (component stats f i).sizes ↔ f.root j = f.root i := by
    intro j
    rw [mem_sizes_component]
    constructor
    · rintro ⟨k, hk, hsize⟩
      rwa [← get_inj_of_nodup hstats (congrArg (·.valueKey) hsize)]
    · intro hj
      exact ⟨j, hj, rfl⟩
  calc members stats f i
      = ((List.finRange stats.length).filter
          ((fun t : SizeStats => decide (t.size ∈ (component stats f i).sizes)) ∘ stats.get)).map
            stats.get := by
        rw [members]
        congr 1
        exact List.filter_congr fun j _ => decide_eq_decide.2 (hmem j).symm
    _ = stats.filter (·.size ∈ (component stats f i).sizes) := by
        rw [← List.filter_map, hplaces]

theorem average_component (hstats : (stats.map (·.size.valueKey)).Nodup) (i : Fin stats.length) :
    (component stats f i).avgPresenceFraction =
      Statistics.sum ((stats.filter (·.size ∈ (component stats f i).sizes)).map
        (·.presenceFraction)) / Float.ofNat (component stats f i).sizes.length := by
  rw [← members_eq_filter hstats, component, (perm_sizes_ofMembers _).length_eq, List.length_map]
  rfl

/-! ## Chains -/

theorem shares_iff (hstats : (stats.map (·.size.valueKey)).Nodup) {i j : Fin stats.length} :
    (∃ g ∈ components stats f, (stats.get i).size ∈ g.sizes ∧ (stats.get j).size ∈ g.sizes) ↔
      f.root i = f.root j := by
  constructor
  · rintro ⟨g, hg, hi, hj⟩
    obtain ⟨k, rfl⟩ := mem_components.1 hg
    obtain ⟨i', hi', hsi⟩ := mem_sizes_component.1 hi
    obtain ⟨j', hj', hsj⟩ := mem_sizes_component.1 hj
    obtain rfl := get_inj_of_nodup hstats (congrArg (·.valueKey) hsi)
    obtain rfl := get_inj_of_nodup hstats (congrArg (·.valueKey) hsj)
    exact hi'.trans hj'.symm
  · intro h
    exact ⟨component stats f j, mem_components.2 ⟨j, rfl⟩, mem_sizes_component.2 ⟨i, h, rfl⟩,
      mem_sizes_component.2 ⟨j, rfl, rfl⟩⟩

/-- A chain of links that leads to no other size stays where it is. -/
theorem eq_of_eqvGen {linked : Size → Size → Prop} {x y : Size}
    (hx : ∀ y, linked x y ∨ linked y x → y = x) (h : Relation.EqvGen linked x y) : y = x := by
  have heq : Equivalence fun a b : Size => (a = x ↔ b = x) :=
    ⟨fun _ => Iff.rfl, Iff.symm, Iff.trans⟩
  have hiff := heq.eqvGen_iff.1 <| h.mono fun a b hab =>
    ⟨fun ha => hx b (Or.inl (ha ▸ hab)), fun hb => hx a (Or.inr (hb ▸ hab))⟩
  exact hiff.1 rfl

theorem sizes_component_eq_singleton (hstats : (stats.map (·.size.valueKey)).Nodup)
    {i : Fin stats.length}
    (h : ∀ j, f.root j = f.root i → (stats.get j).size = (stats.get i).size) :
    (component stats f i).sizes = [(stats.get i).size] := by
  have hplaces : (List.finRange stats.length).filter (f.root · = f.root i) = [i] := by
    refine List.perm_singleton.1 ((List.perm_ext_iff_of_nodup
      ((List.nodup_finRange _).filter _) (List.nodup_singleton i)).2 fun j => ?_)
    rw [List.mem_filter, List.mem_singleton]
    constructor
    · rintro ⟨-, hj⟩
      exact get_inj_of_nodup hstats (congrArg (·.valueKey) (h j (of_decide_eq_true hj)))
    · rintro rfl
      exact ⟨List.mem_finRange j, by simp⟩
  rw [component, members, hplaces]
  rfl

section Chains
variable {linked : Size → Size → Prop} (hstats : (stats.map (·.size.valueKey)).Nodup)
  (hroot : ∀ i j, f.root i = f.root j ↔
    Relation.EqvGen linked (stats.get i).size (stats.get j).size)
include hstats hroot

theorem isComponents_sortBy :
    IsComponents stats linked (sortBy standsBefore (components stats f)) := by
  have hperm := perm_sortBy standsBefore (components stats f)
  have hnonempty : ∀ g ∈ components stats f, g.sizes ≠ [] := fun g hg => by
    obtain ⟨i, rfl⟩ := mem_components.1 hg
    exact sizes_component_ne_nil i
  have hascending : ∀ g ∈ components stats f, g.sizes.Pairwise fun x y => x.totalLe y = true :=
    fun g hg => by
      obtain ⟨i, rfl⟩ := mem_components.1 hg
      exact ascending_ofMembers _
  constructor
  · exact (hperm.flatMap_right _).trans perm_sizes_components
  · exact fun g hg => hnonempty g (hperm.mem_iff.1 hg)
  · intro x hx y hy
    obtain ⟨i, rfl⟩ := exists_place hx
    obtain ⟨j, rfl⟩ := exists_place hy
    rw [← hroot, ← shares_iff hstats]
    simp only [hperm.mem_iff]
  · exact fun g hg => hascending g (hperm.mem_iff.1 hg)
  · refine (pairwise_sortBy_standsBefore hnonempty).imp_of_mem fun hg hh hgh => ?_
    rw [hperm.mem_iff] at hg hh
    exact exists_least (hnonempty _ hg) (hascending _ hg) (hascending _ hh) hgh
  · intro g hg
    obtain ⟨i, rfl⟩ := mem_components.1 (hperm.mem_iff.1 hg)
    exact average_component hstats i

theorem exists_singleton {x : Size} (hx : x ∈ stats.map (·.size))
    (halone : ∀ y, linked x y ∨ linked y x → y = x) :
    ∃ g ∈ sortBy standsBefore (components stats f), g.sizes = [x] := by
  obtain ⟨i, rfl⟩ := exists_place hx
  refine ⟨component stats f i, (mem_sortBy _).2 (mem_components.2 ⟨i, rfl⟩),
    sizes_component_eq_singleton hstats fun j hj => eq_of_eqvGen halone ?_⟩
  exact (hroot i j).1 hj.symm

theorem sizes_eq_singleton {x : Size} (halone : ∀ y, linked x y ∨ linked y x → y = x)
    {g : SizeGroup} (hg : g ∈ sortBy standsBefore (components stats f)) (hx : x ∈ g.sizes) :
    g.sizes = [x] := by
  obtain ⟨i, rfl⟩ := mem_components.1 ((mem_sortBy _).1 hg)
  obtain ⟨j, hj, rfl⟩ := mem_sizes_component.1 hx
  have hsame : ∀ k, f.root k = f.root i → (stats.get k).size = (stats.get j).size := fun k hk =>
    eq_of_eqvGen halone ((hroot j k).1 (hj.trans hk.symm))
  rw [← hsame i rfl]
  exact sizes_component_eq_singleton hstats fun k hk => (hsame k hk).trans (hsame i rfl).symm

end Chains

/-- **The groups are exactly the connected components of the linked sizes.** A size without links
is a group of its own, and a correlation that is undefined links nothing. -/
theorem ofStats_isComponents {stats : List SizeStats}
    (hstats : (stats.map (·.size.valueKey)).Nodup) (pairs : List SizeCorrelation)
    (minCorrelation maxPValue : Float) :
    IsComponents stats (Linked stats pairs minCorrelation maxPValue)
      (ofStats stats pairs minCorrelation maxPValue) ∧
    (∀ x ∈ stats.map (·.size),
      (∀ y, Linked stats pairs minCorrelation maxPValue x y ∨
        Linked stats pairs minCorrelation maxPValue y x → y = x) →
      ∃ g ∈ ofStats stats pairs minCorrelation maxPValue, g.sizes = [x]) ∧
    ∀ pair : SizeCorrelation, pair.correlation.isNaN = true ∨ pair.pValue.isNaN = true →
      pair.isLink minCorrelation maxPValue = false := by
  have hroot := root_sets_eq_iff hstats pairs minCorrelation maxPValue
  rw [ofStats_eq]
  exact ⟨isComponents_sortBy hstats hroot, fun x hx => exists_singleton hstats hroot hx,
    fun pair h => pair.isLink_eq_false minCorrelation maxPValue h⟩

/-- Two sizes share a group if both are linked to a third, though not to each other. -/
theorem chain_shares_group :
    let stats : List SizeStats :=
      [⟨.ofFloat 30.0, 0.5, 2, 4⟩, ⟨.ofFloat 10.0, 0.25, 1, 4⟩, ⟨.ofFloat 20.0, 0.5, 2, 4⟩]
    let pairs : List SizeCorrelation :=
      [⟨.ofFloat 10.0, .ofFloat 20.0, 0.9, 0.01⟩, ⟨.ofFloat 10.0, .ofFloat 30.0, 0.1, 0.6⟩,
        ⟨.ofFloat 20.0, .ofFloat 30.0, 0.95, 0.001⟩]
    (stats.map (·.size.valueKey)).Nodup ∧
      ∃ g ∈ ofStats stats pairs 0.8 0.05, .ofFloat 10.0 ∈ g.sizes ∧ .ofFloat 30.0 ∈ g.sizes := by
  intro stats pairs
  have hstats : (stats.map (·.size.valueKey)).Nodup := by decide +kernel
  obtain ⟨hcomponents, -⟩ := ofStats_isComponents hstats pairs 0.8 0.05
  have hfirst : Linked stats pairs 0.8 0.05 (.ofFloat 10.0) (.ofFloat 20.0) := by
    unfold Linked
    decide +kernel
  have hsecond : Linked stats pairs 0.8 0.05 (.ofFloat 20.0) (.ofFloat 30.0) := by
    unfold Linked
    decide +kernel
  refine ⟨hstats, (hcomponents.shares _ (by decide +kernel) _ (by decide +kernel)).2 ?_⟩
  exact .trans _ _ _ (.rel _ _ hfirst) (.rel _ _ hsecond)

end SizeGroup

end TwoVenues

import TwoVenues.Proofs.Clusters.Groups
import TwoVenues.Proofs.Sorting

/-!
# The order of the links

The order in which links are joined decides which places stand for their sets, and hence the order
in which the sets are visited. Ordering the groups by their least members hides this order, except
where one size is given twice and is the least member of two groups.

* `root_sets_perm` : which places share a set does not depend on the order of the links;
* `perm_components` : the groups depend on nothing but that;
* `map_head?_sortBy`, `sortBy_eq_of_perm` : groups in the order of their least members;
* `nodup_head?_components` : groups of distinct sizes have distinct least members;
* `ofStats_order_of_links` : what the order of the links leaves as it is.
-/

namespace TwoVenues.SizeGroup

variable {stats : List SizeStats}

/-! ## Sets and groups -/

theorem root_sets_perm {links links' : List SizeCorrelation} (h : links.Perm links')
    (i j : Fin stats.length) : (sets stats links).root i = (sets stats links).root j ↔
      (sets stats links').root i = (sets stats links').root j := by
  have hedges : ∀ e, e ∈ links.filterMap (edge? stats) ↔ e ∈ links'.filterMap (edge? stats) :=
    fun _ => (h.filterMap _).mem_iff
  rw [represents_sets stats links i j, represents_sets stats links' i j]
  simp only [hedges]

theorem perm_components {f g : DisjointSets stats.length}
    (h : ∀ i j, f.root i = f.root j ↔ g.root i = g.root j) :
    (components stats f).Perm (components stats g) := by
  have hplaces : ∀ f : DisjointSets stats.length, components stats f =
      ((groupsBy f.root (List.finRange stats.length)).map Prod.snd).map
        fun places => ofMembers (places.map stats.get) := by
    intro f
    rw [List.map_map]
    rfl
  rw [hplaces, hplaces]
  exact (perm_groups fun i _ j _ => h i j).map _

/-! ## Groups in order -/

section Order
variable {groups groups' : List SizeGroup}

theorem nonempty_components (f : DisjointSets stats.length) :
    ∀ g ∈ components stats f, g.sizes ≠ [] := by
  intro g hg
  obtain ⟨i, rfl⟩ := mem_components.1 hg
  exact sizes_component_ne_nil i

theorem head?_eq_of_firstKey {g h : SizeGroup} (hg : g.sizes ≠ []) (hh : h.sizes ≠ [])
    (hkey : g.firstKey = h.firstKey) : g.sizes.head? = h.sizes.head? := by
  obtain ⟨x, xs, hx⟩ := List.exists_cons_of_ne_nil hg
  obtain ⟨y, ys, hy⟩ := List.exists_cons_of_ne_nil hh
  simp only [firstKey, hx, hy, List.head?_cons, Option.map_some, Option.getD_some] at hkey ⊢
  rw [Double.Signed.totalKey_injective hkey]

theorem map_head?_sortBy (hperm : groups.Perm groups') (hgroups : ∀ g ∈ groups, g.sizes ≠ []) :
    (sortBy standsBefore groups).map (·.sizes.head?) =
      (sortBy standsBefore groups').map (·.sizes.head?) := by
  have hgroups' : ∀ g ∈ groups', g.sizes ≠ [] := fun g hg => hgroups g (hperm.mem_iff.2 hg)
  have hsorted := sortBy_perm_sortBy standsBefore hperm
  have hpairwise : ∀ gs : List SizeGroup, (∀ g ∈ gs, g.sizes ≠ []) →
      ((sortBy standsBefore gs).map (·.sizes.head?)).Pairwise fun x y =>
        (x.map (·.totalKey)).getD 0 ≤ (y.map (·.totalKey)).getD 0 := fun gs hgs =>
    List.pairwise_map.2 (pairwise_sortBy_standsBefore hgs)
  refine (hsorted.map _).eq_of_pairwise ?_ (hpairwise _ hgroups) (hpairwise _ hgroups')
  intro x y hx hy hxy hyx
  obtain ⟨g, hg, rfl⟩ := List.mem_map.1 hx
  obtain ⟨h, hh, rfl⟩ := List.mem_map.1 hy
  rw [mem_sortBy] at hg hh
  exact head?_eq_of_firstKey (hgroups g hg) (hgroups' h hh) (Int.le_antisymm hxy hyx)

theorem sortBy_eq_of_perm (hperm : groups.Perm groups') (hgroups : ∀ g ∈ groups, g.sizes ≠ [])
    (hheads : (groups.map (·.sizes.head?)).Nodup) :
    sortBy standsBefore groups = sortBy standsBefore groups' := by
  have hgroups' : ∀ g ∈ groups', g.sizes ≠ [] := fun g hg => hgroups g (hperm.mem_iff.2 hg)
  have hsorted := sortBy_perm_sortBy standsBefore hperm
  refine hsorted.eq_of_pairwise (fun g h hg hh hgh hhg => ?_)
    (pairwise_sortBy_standsBefore hgroups) (pairwise_sortBy_standsBefore hgroups')
  rw [mem_sortBy] at hg hh
  have hkey := head?_eq_of_firstKey (hgroups g hg) (hgroups' h hh) (Int.le_antisymm hgh hhg)
  exact List.inj_on_of_nodup_map hheads hg (hperm.mem_iff.2 hh) hkey

/-- No two groups have a size in common, let alone as their least member. -/
theorem nodup_head?_components (hstats : (stats.map (·.size)).Nodup)
    (f : DisjointSets stats.length) :
    ((components stats f).map (·.sizes.head?)).Nodup := by
  have hsizes : ((components stats f).flatMap (·.sizes)).Nodup :=
    perm_sizes_components.nodup_iff.2 hstats
  obtain ⟨-, hdisjoint⟩ := List.nodup_flatMap.1 hsizes
  refine List.pairwise_map.2 (hdisjoint.imp_of_mem fun {g h} hg _ hgh heq => ?_)
  obtain ⟨x, xs, hx⟩ := List.exists_cons_of_ne_nil (nonempty_components f g hg)
  have hmem : x ∈ g.sizes := by rw [hx]; exact List.mem_cons_self
  rw [hx, List.head?_cons] at heq
  exact hgh hmem (List.mem_of_head? heq.symm)

end Order

/-- **The order of the correlations shows at most in the order of groups with one least member.**
The groups are the same, with the same members and averages, and their least members stand in the
same order; if no size is given twice, the groups stand in the same order too. -/
theorem ofStats_order_of_links {pairs pairs' : List SizeCorrelation} (h : pairs.Perm pairs')
    (stats : List SizeStats) (minCorrelation maxPValue : Float) :
    let groups := ofStats stats pairs minCorrelation maxPValue
    let groups' := ofStats stats pairs' minCorrelation maxPValue
    groups.Perm groups' ∧
    groups.map (·.sizes.head?) = groups'.map (·.sizes.head?) ∧
    ((stats.map (·.size)).Nodup → groups = groups') := by
  have hlinks := h.filter (·.isLink minCorrelation maxPValue)
  have hperm := perm_components fun i j : Fin stats.length => root_sets_perm hlinks i j
  have hgroups := nonempty_components
    (sets stats (pairs.filter (·.isLink minCorrelation maxPValue)))
  simp only [ofStats_eq]
  exact ⟨sortBy_perm_sortBy standsBefore hperm, map_head?_sortBy hperm hgroups,
    fun hstats => sortBy_eq_of_perm hperm hgroups (nodup_head?_components hstats _)⟩

/-- In two orders of the links different places stand for the set of 10, 20 and 30. -/
theorem ofStats_order_of_links_of_chain :
    let stats : List SizeStats :=
      [⟨.ofFloat 20.0, 0.5, 2, 4⟩, ⟨.ofFloat 40.0, 0.5, 2, 4⟩, ⟨.ofFloat 10.0, 0.25, 1, 4⟩,
        ⟨.ofFloat 30.0, 0.5, 2, 4⟩]
    let links : List SizeCorrelation :=
      [⟨.ofFloat 10.0, .ofFloat 20.0, 0.95, 0.001⟩, ⟨.ofFloat 20.0, .ofFloat 30.0, 0.9, 0.01⟩]
    (links.Perm links.reverse ∧ (stats.map (·.size)).Nodup) ∧
      (sets stats links).root 0 ≠ (sets stats links.reverse).root 0 ∧
      (ofStats stats links 0.8 0.05).length = 2 ∧
      ofStats stats links 0.8 0.05 = ofStats stats links.reverse 0.8 0.05 := by
  intro stats links
  have hperm : links.Perm links.reverse := (List.reverse_perm links).symm
  have hstats : (stats.map (·.size)).Nodup := by decide +kernel
  obtain ⟨-, -, heq⟩ := ofStats_order_of_links hperm stats 0.8 0.05
  exact ⟨⟨hperm, hstats⟩, by decide +kernel, by decide +kernel, heq hstats⟩

/-- The size 1 is given twice, and only the latter is linked to 2 and through it to 3. Which of the
two groups of least member 1 comes first depends on which link comes first. -/
theorem exists_order_of_links :
    let stats : List SizeStats :=
      [⟨.ofFloat 2.0, 0.5, 2, 4⟩, ⟨.ofFloat 1.0, 0.5, 2, 4⟩, ⟨.ofFloat 1.0, 0.5, 2, 4⟩,
        ⟨.ofFloat 3.0, 0.5, 2, 4⟩]
    let links : List SizeCorrelation :=
      [⟨.ofFloat 1.0, .ofFloat 2.0, 0.95, 0.001⟩, ⟨.ofFloat 2.0, .ofFloat 3.0, 0.95, 0.001⟩]
    links.Perm links.reverse ∧
    (ofStats stats links 0.8 0.05).map (·.sizes) =
      [[.ofFloat 1.0], [.ofFloat 1.0, .ofFloat 2.0, .ofFloat 3.0]] ∧
    (ofStats stats links.reverse 0.8 0.05).map (·.sizes) =
      [[.ofFloat 1.0, .ofFloat 2.0, .ofFloat 3.0], [.ofFloat 1.0]] ∧
    ofStats stats links 0.8 0.05 ≠ ofStats stats links.reverse 0.8 0.05 := by
  decide +kernel

end TwoVenues.SizeGroup

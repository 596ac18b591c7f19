import Mathlib.Data.List.FinRange
import Mathlib.Data.List.Flatten
import TwoVenues.Presence.Bands
import TwoVenues.Proofs.Double.Keys
import TwoVenues.Proofs.Grouping
import TwoVenues.Proofs.Outcome

/-!
# Bands hold the percentages that are shared

Sizes may be there several times, so entries of the statistics are told apart by their places. Bands
are the groups of the places whose percentages round to one centre; `-0` and `0` are one centre, and
so is whatever is not a number, as it may be for a fraction or a width that is not finite.

* `Band.centreAt`, `Band.entryAt` : the centre of an entry, and the entry as it stands in a band;
* `Band.HoldsPlaces`, `Band.IsBanding` : what a band, and what all bands have to be;
* `Band.placesBy`, `Band.ofStats_eq` : the bands are made of the groups of places;
* `Band.ofStats_isBanding` : the bands of any statistics at any width.
-/

namespace TwoVenues.Band

variable {width : Float} {stats : List SizeStats}

/-- The centre of the band that the entry at a place falls in. -/
def centreAt (width : Float) (stats : List SizeStats) (i : Fin stats.length) : Float :=
  centre width (percent (stats.get i))

/-- The entry at a place as it stands in a band. -/
def entryAt (stats : List SizeStats) (i : Fin stats.length) : Size × Float :=
  ((stats.get i).size, percent (stats.get i))

/-- A band of the entries at the given places, in the order in which they stand. -/
structure HoldsPlaces (width : Float) (stats : List SizeStats) (places : List (Fin stats.length))
    (band : Band) : Prop where
  entries : band.sizes = places.map (entryAt stats)
  ascending : places.Pairwise (· < ·)
  centre : ∀ i ∈ places, Double.IsSame (centreAt width stats i) band.centrePct
  shared : 2 ≤ band.sizes.length

/-- What the bands of some statistics have to be, if the entries of each one stand at the given
places: an entry has the only place that it can have, and it has one if its centre is shared. -/
structure IsBanding (width : Float) (stats : List SizeStats)
    (places : List (List (Fin stats.length))) (bands : List Band) : Prop where
  descending : bands.Pairwise fun b c => Double.IsBelow c.centrePct b.centrePct
  holds : List.Forall₂ (HoldsPlaces width stats) places bands
  once : places.flatten.Nodup
  listed : ∀ i, i ∈ places.flatten ↔
    ∃ j, j ≠ i ∧ Double.IsSame (centreAt width stats j) (centreAt width stats i)

/-! ## The places of each centre -/

/-- The key of the centre of the entry at a place. -/
def keyAt (width : Float) (stats : List SizeStats) (i : Fin stats.length) : Int :=
  Double.valueKey (centreAt width stats i)

/-- The places of the statistics by their centres, ascending. -/
def placesBy (width : Float) (stats : List SizeStats) : List (Int × List (Fin stats.length)) :=
  groupsBy (keyAt width stats) (List.finRange stats.length)

/-- The band of the entries at some places, if there are several. -/
def ofPlaces (width : Float) (stats : List SizeStats) (places : List (Fin stats.length)) :
    Option Band :=
  ofMembers width (places.map stats.get)

theorem ofStats_eq (s : PresenceSettings) (stats : List SizeStats) :
    ofStats s stats = (placesBy s.bandWidthPct stats).reverse.filterMap
      fun group => ofPlaces s.bandWidthPct stats group.2 := by
  have hgroups : groupsBy (fun r => Double.valueKey (centre s.bandWidthPct (percent r))) stats =
      (placesBy s.bandWidthPct stats).map fun p => (p.1, p.2.map stats.get) := by
    conv_lhs => rw [← List.map_get_finRange stats]
    exact groupsBy_map _ _ _
  unfold ofStats
  simp only [hgroups, ← List.map_reverse, List.filterMap_map]
  rfl

theorem mem_placesBy {group : Int × List (Fin stats.length)} : group ∈ placesBy width stats ↔
    group.2 = (List.finRange stats.length).filter (keyAt width stats · = group.1) ∧
      group.2 ≠ [] :=
  mem_groupsBy

theorem mem_group_iff {group : Int × List (Fin stats.length)} (h : group ∈ placesBy width stats)
    {i : Fin stats.length} : i ∈ group.2 ↔ keyAt width stats i = group.1 := by
  rw [(mem_placesBy.1 h).1]
  simp

theorem pairwise_group {group : Int × List (Fin stats.length)}
    (h : group ∈ placesBy width stats) : group.2.Pairwise (· < ·) := by
  rw [(mem_placesBy.1 h).1]
  exact (List.pairwise_lt_finRange _).filter _

/-- An ascending list that holds a place has another one if it has two. -/
theorem two_le_length_iff {places : List (Fin stats.length)} (h : places.Pairwise (· < ·))
    {i : Fin stats.length} (hi : i ∈ places) : 2 ≤ places.length ↔ ∃ j, j ≠ i ∧ j ∈ places := by
  constructor
  · intro hlength
    match places with
    | first :: second :: rest =>
      have hlt : first < second := List.rel_of_pairwise_cons h List.mem_cons_self
      by_cases hfirst : first = i
      · exact ⟨second, hfirst ▸ hlt.ne', by simp⟩
      · exact ⟨first, hfirst, by simp⟩
  · rintro ⟨j, hne, hj⟩
    have hpair : [j, i].Nodup := by simpa using hne
    exact (List.subperm_of_subset hpair (by simp [hi, hj])).length_le

theorem exists_mem_placesBy (i : Fin stats.length) :
    ∃ group ∈ placesBy width stats, i ∈ group.2 := by
  have hperm := perm_flatMap_groupsBy (keyAt width stats) (List.finRange stats.length)
  exact List.mem_flatMap.1 (hperm.mem_iff.2 (List.mem_finRange i))

/-! ## The band of some places -/

section Places
variable {places : List (Fin stats.length)} {band : Band}

theorem isSome_ofPlaces : (ofPlaces width stats places).isSome ↔ 2 ≤ places.length := by
  unfold ofPlaces
  match places with
  | [] => simp [ofMembers]
  | [i] => simp [ofMembers]
  | i :: j :: rest => simp [ofMembers]

theorem ofPlaces_spec (h : ofPlaces width stats places = some band) :
    band.sizes = places.map (entryAt stats) ∧
      ∃ i ∈ places, band.centrePct = centreAt width stats i := by
  have hsome : 2 ≤ places.length := isSome_ofPlaces.1 (Option.isSome_of_eq_some h)
  unfold ofPlaces at h
  match places with
  | [] => simp at hsome
  | [i] => simp at hsome
  | i :: j :: rest =>
    obtain rfl := Option.some.inj h
    refine ⟨?_, i, List.mem_cons_self, rfl⟩
    show ((i :: j :: rest).map stats.get).map (fun r => (r.size, percent r)) = _
    rw [List.map_map]
    rfl

/-- The centre of a band is that of each of its members. -/
theorem key_ofPlaces {group : Int × List (Fin stats.length)} (hgroup : group ∈ placesBy width stats)
    (h : ofPlaces width stats group.2 = some band) : Double.valueKey band.centrePct = group.1 := by
  obtain ⟨-, i, hi, hcentre⟩ := ofPlaces_spec h
  rw [hcentre]
  exact (mem_group_iff hgroup).1 hi

theorem holdsPlaces_ofPlaces {group : Int × List (Fin stats.length)}
    (hgroup : group ∈ placesBy width stats) (h : ofPlaces width stats group.2 = some band) :
    HoldsPlaces width stats group.2 band where
  entries := (ofPlaces_spec h).1
  ascending := pairwise_group hgroup
  centre i hi := by
    rw [← Double.valueKey_eq_iff, key_ofPlaces hgroup h]
    exact (mem_group_iff hgroup).1 hi
  shared := by
    rw [(ofPlaces_spec h).1, List.length_map]
    exact isSome_ofPlaces.1 (Option.isSome_of_eq_some h)

end Places

/-! ## All bands -/

/-- The places of the groups that make a band, the highest first. -/
def sharedPlaces (width : Float) (stats : List SizeStats) : List (Int × List (Fin stats.length)) :=
  (placesBy width stats).reverse.filter fun group => (ofPlaces width stats group.2).isSome

theorem mem_sharedPlaces {group : Int × List (Fin stats.length)} :
    group ∈ sharedPlaces width stats ↔ group ∈ placesBy width stats ∧ 2 ≤ group.2.length := by
  simp [sharedPlaces, isSome_ofPlaces]

theorem pairwise_bands (s : PresenceSettings) (stats : List SizeStats) :
    (ofStats s stats).Pairwise fun b c => Double.IsBelow c.centrePct b.centrePct := by
  have hkeys : ((placesBy s.bandWidthPct stats).map Prod.fst).Pairwise
      fun x y => compare x y = .lt := by
    rw [placesBy, map_fst_groupsBy]
    exact pairwise_sortedKeys _
  have hgroups : (placesBy s.bandWidthPct stats).reverse.Pairwise fun g h =>
      g ∈ placesBy s.bandWidthPct stats ∧ h ∈ placesBy s.bandWidthPct stats ∧ h.1 < g.1 := by
    rw [List.pairwise_reverse]
    refine (List.pairwise_map.1 hkeys).imp_of_mem fun hg hh hlt => ?_
    exact ⟨hh, hg, Int.compare_eq_lt.1 hlt⟩
  rw [ofStats_eq]
  refine hgroups.filterMap _ fun g h ⟨hg, hh, hlt⟩ b hb c hc => ?_
  rw [← Double.valueKey_lt_iff, key_ofPlaces hg hb, key_ofPlaces hh hc]
  exact hlt

theorem forall₂_holdsPlaces (s : PresenceSettings) (stats : List SizeStats) :
    List.Forall₂ (HoldsPlaces s.bandWidthPct stats)
      ((sharedPlaces s.bandWidthPct stats).map Prod.snd) (ofStats s stats) := by
  rw [List.forall₂_map_left_iff, ofStats_eq]
  have hbands := forall₂_filterMap (fun group => ofPlaces s.bandWidthPct stats group.2)
    (placesBy s.bandWidthPct stats).reverse
  have hplaces : ∀ group ∈ sharedPlaces s.bandWidthPct stats,
      group ∈ placesBy s.bandWidthPct stats := fun _ h => (mem_sharedPlaces.1 h).1
  refine ((List.forall₂_and_left _ _).2 ⟨hplaces, hbands⟩).imp fun group band h => ?_
  exact holdsPlaces_ofPlaces h.1 h.2

theorem nodup_sharedPlaces : ((sharedPlaces width stats).map Prod.snd).flatten.Nodup := by
  have hall : ((placesBy width stats).map Prod.snd).flatten.Nodup := by
    rw [← List.flatMap_def]
    exact (perm_flatMap_groupsBy _ _).nodup_iff.2 (List.nodup_finRange _)
  have hreverse : ((placesBy width stats).reverse.map Prod.snd).flatten.Nodup :=
    (((placesBy width stats).reverse_perm.map Prod.snd).flatten).nodup_iff.2 hall
  exact hreverse.sublist ((List.filter_sublist.map Prod.snd).flatten)

theorem mem_sharedPlaces_iff (i : Fin stats.length) :
    i ∈ ((sharedPlaces width stats).map Prod.snd).flatten ↔
      ∃ j, j ≠ i ∧ keyAt width stats j = keyAt width stats i := by
  obtain ⟨group, hgroup, hi⟩ : ∃ group ∈ placesBy width stats, i ∈ group.2 := exists_mem_placesBy i
  have hkey : keyAt width stats i = group.1 := (mem_group_iff hgroup).1 hi
  have hlisted : i ∈ ((sharedPlaces width stats).map Prod.snd).flatten ↔ 2 ≤ group.2.length := by
    rw [← List.flatMap_def, List.mem_flatMap]
    constructor
    · rintro ⟨group', hgroup', hi'⟩
      obtain ⟨hmem, hlength⟩ := mem_sharedPlaces.1 hgroup'
      have hkey' : group'.1 = group.1 := ((mem_group_iff hmem).1 hi').symm.trans hkey
      rw [(mem_placesBy.1 hgroup).1, ← hkey', ← (mem_placesBy.1 hmem).1]
      exact hlength
    · intro hlength
      exact ⟨group, mem_sharedPlaces.2 ⟨hgroup, hlength⟩, hi⟩
  rw [hlisted, hkey, two_le_length_iff (pairwise_group hgroup) hi]
  simp only [mem_group_iff hgroup]

/-- **Bands hold exactly the percentages that are shared.** They stand in descending order; an entry is
in one of them if another entry has its centre, and then just once, in the place that it had. -/
theorem ofStats_isBanding (s : PresenceSettings) (stats : List SizeStats) :
    ∃ places, IsBanding s.bandWidthPct stats places (ofStats s stats) := by
  refine ⟨(sharedPlaces s.bandWidthPct stats).map Prod.snd, pairwise_bands s stats,
    forall₂_holdsPlaces s stats, nodup_sharedPlaces, fun i => ?_⟩
  rw [mem_sharedPlaces_iff]
  simp only [keyAt, Double.valueKey_eq_iff]

-- `-0.02` rounds to `-0` percent, in the band of `0`. What is not a number has a band of its own.
example : (ofStats {} ([0.0, 0.25, -0.02, 0.0 / 0.0, 0.02, 0.0 / 0.0].map fun fraction =>
    ⟨.ofFloat 1.0, fraction, 0, 0⟩)).map (fun band => band.sizes.length) = [2, 3] := by
  decide +kernel

end TwoVenues.Band

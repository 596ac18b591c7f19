import Mathlib.Algebra.BigOperators.Group.Finset.Basic
import Mathlib.Data.List.Forall2
import Mathlib.Data.List.ProdSigma
import Mathlib.Data.Prod.Lex
import Mathlib.Data.String.Basic
import TwoVenues.Pairing.Alignment
import TwoVenues.Proofs.Grouping

/-!
# The alignment is an inner join

* `Join.Matches x y` : the two quotes pair;
* `Join.product` : the nested loop over both lists, which keeps the matching quotes;
* `Join.keys`, `Join.multiplicity` : the distinct keys of a venue, and how often each is quoted;
* `Join.perm_pairs_product` : grouping by key pairs the quotes that the nested loop pairs;
* `Join.length_pairs`, `Join.unmatched_eq_card` : the counters as sizes of sets of keys;
* `QuotePair.sortKeys`, `isLE_order_iff` : what pairs are sorted by, in lexicographic order;
* `QuotePair.IsRow` : what the observation of a pair says.
-/

namespace TwoVenues

namespace Join

/-! ## The join without grouping -/

/-- Two quotes pair if each is given for its own venue, and both for one contract at one time. -/
def Matches (x y : Quote) : Prop :=
  x.venue = .a ∧ y.venue = .b ∧ x.time = y.time ∧
    Contract.key x.instrument = Contract.key y.instrument

instance (x y : Quote) : Decidable (Matches x y) := inferInstanceAs (Decidable (_ ∧ _))

/-- The pairs of one quote of each list that match, one for each two places in the lists. -/
def product (quotesA quotesB : List Quote) : List QuotePair :=
  ((quotesA.product quotesB).filter fun p => Matches p.1 p.2).map fun p =>
    ⟨⟨p.1.time, Contract.key p.1.instrument⟩, p.1, p.2⟩

/-- The distinct keys that a venue quotes. -/
def keys (venue : Venue) (quotes : List Quote) : Finset JoinKey :=
  ((quotes.filter (·.venue = venue)).map JoinKey.ofQuote).toFinset

def multiplicity (venue : Venue) (quotes : List Quote) (key : JoinKey) : Nat :=
  quotes.countP fun q => q.venue = venue ∧ JoinKey.ofQuote q = key

theorem matches_iff {x y : Quote} :
    Matches x y ↔ x.venue = .a ∧ y.venue = .b ∧ JoinKey.ofQuote y = JoinKey.ofQuote x := by
  unfold Matches JoinKey.ofQuote
  rw [JoinKey.mk.injEq, eq_comm (a := y.time), eq_comm (a := Contract.key y.instrument)]

theorem mem_product {quotesA quotesB : List Quote} {p : QuotePair} :
    p ∈ product quotesA quotesB ↔ ∃ x ∈ quotesA, ∃ y ∈ quotesB, Matches x y ∧
      p = ⟨JoinKey.ofQuote x, x, y⟩ := by
  simp only [product, List.mem_map, List.mem_filter, Prod.exists, List.pair_mem_product,
    decide_eq_true_eq]
  constructor
  · rintro ⟨x, y, ⟨⟨hx, hy⟩, hmatch⟩, rfl⟩
    exact ⟨x, hx, y, hy, hmatch, rfl⟩
  · rintro ⟨x, hx, y, hy, hmatch, rfl⟩
    exact ⟨x, y, ⟨⟨hx, hy⟩, hmatch⟩, rfl⟩

theorem mem_keys {venue : Venue} {quotes : List Quote} {key : JoinKey} :
    key ∈ keys venue quotes ↔ ∃ q ∈ quotes, q.venue = venue ∧ JoinKey.ofQuote q = key := by
  simp only [keys, List.mem_toFinset, List.mem_map, List.mem_filter, decide_eq_true_eq, and_assoc]

theorem multiplicity_eq_zero {venue : Venue} {quotes : List Quote} {key : JoinKey}
    (h : key ∉ keys venue quotes) : multiplicity venue quotes key = 0 := by
  refine List.countP_eq_zero.2 fun q hq hk => h (mem_keys.2 ⟨q, hq, ?_⟩)
  simpa using hk

/-! ## The sides -/

theorem map_fst_side (venue : Venue) (quotes : List Quote) :
    (side venue quotes).map Prod.fst = (quotes.filter (·.venue = venue)).map JoinKey.ofQuote := by
  rw [side, List.map_map]
  rfl

theorem toFinset_map_fst_side (venue : Venue) (quotes : List Quote) :
    ((side venue quotes).map Prod.fst).toFinset = keys venue quotes := by
  rw [map_fst_side, keys]

/-- Every quote is on its side or given for the other venue. -/
theorem length_side_add_countP (venue : Venue) (quotes : List Quote) :
    (side venue quotes).length + quotes.countP (·.venue ≠ venue) = quotes.length := by
  rw [side, List.length_map, ← List.countP_eq_length_filter,
    List.length_eq_countP_add_countP (fun q : Quote => decide (q.venue = venue))]
  congr 2
  funext q
  simp

theorem matching_side (venue : Venue) (quotes : List Quote) (key : JoinKey) :
    matching key (side venue quotes) =
      quotes.filter fun q => q.venue = venue ∧ JoinKey.ofQuote q = key := by
  rw [matching, side, List.filter_map, List.map_map, List.filter_filter]
  refine (List.map_id _).trans (List.filter_congr fun q _ => ?_)
  simp [Bool.and_comm]

theorem length_matching_side (venue : Venue) (quotes : List Quote) (key : JoinKey) :
    (matching key (side venue quotes)).length = multiplicity venue quotes key := by
  rw [matching_side, multiplicity, List.countP_eq_length_filter]

/-! ## Pairs -/

/-- Going through the keys of one side, and through its quotes with each key, is going through its
quotes. -/
theorem perm_pairs (sideA sideB : List KeyedQuote) :
    (pairs sideA sideB).Perm
      (sideA.flatMap fun p => (matching p.1 sideB).map fun y => ⟨p.1, p.2, y⟩) := by
  have hgroup : pairs sideA sideB = ((groupsBy Prod.fst sideA).flatMap Prod.snd).flatMap fun p =>
      (matching p.1 sideB).map fun y => ⟨p.1, p.2, y⟩ := by
    rw [pairs, groupsBy, List.flatMap_map, List.flatMap_assoc]
    refine List.flatMap_congr fun key _ => ?_
    rw [show matching key sideA = (sideA.filter (·.1 = key)).map Prod.snd from rfl,
      List.flatMap_map]
    refine List.flatMap_congr fun p hp => ?_
    have hkey : p.1 = key := by simpa using (List.mem_filter.1 hp).2
    rw [hkey]
  rw [hgroup]
  exact (perm_flatMap_groupsBy Prod.fst sideA).flatMap_right _

theorem product_eq_flatMap (quotesA quotesB : List Quote) :
    product quotesA quotesB = (quotesA.filter (·.venue = .a)).flatMap fun x =>
      (matching (JoinKey.ofQuote x) (side .b quotesB)).map fun y => ⟨JoinKey.ofQuote x, x, y⟩ := by
  unfold product List.product
  induction quotesA with
  | nil => rfl
  | cons x xs ih =>
    rw [List.flatMap_cons, List.filter_append, List.map_append, ih, List.filter_map, List.map_map]
    by_cases hx : x.venue = .a
    · rw [List.filter_cons_of_pos (by simpa using hx), List.flatMap_cons, matching_side]
      congr 1
      refine congrArg (List.map _) (List.filter_congr fun y _ => ?_)
      simp [matches_iff, hx]
    · rw [List.filter_cons_of_neg (by simpa using hx)]
      have hnone : (quotesB.filter ((fun p : Quote × Quote => decide (Matches p.1 p.2)) ∘
          fun y => (x, y))) = [] :=
        List.filter_eq_nil_iff.2 fun y _ => by simp [matches_iff, hx]
      rw [hnone, List.map_nil, List.nil_append]

theorem perm_pairs_product (quotesA quotesB : List Quote) :
    (pairs (side .a quotesA) (side .b quotesB)).Perm (product quotesA quotesB) := by
  refine (perm_pairs _ _).trans (List.Perm.of_eq ?_)
  rw [product_eq_flatMap,
    show side .a quotesA =
      (quotesA.filter (·.venue = .a)).map fun q => (JoinKey.ofQuote q, q) from rfl,
    List.flatMap_map]

/-! ## Counters -/

theorem length_pairs (quotesA quotesB : List Quote) :
    (pairs (side .a quotesA) (side .b quotesB)).length =
      ∑ key ∈ keys .a quotesA ∩ keys .b quotesB,
        multiplicity .a quotesA key * multiplicity .b quotesB key := by
  have hrow : ∀ key, ((matching key (side .a quotesA)).flatMap fun x =>
      (matching key (side .b quotesB)).map fun y => (⟨key, x, y⟩ : QuotePair)).length =
        multiplicity .a quotesA key * multiplicity .b quotesB key := fun key => by
    rw [List.length_flatMap]
    simp only [List.length_map]
    rw [List.map_const', List.sum_replicate_nat, length_matching_side, length_matching_side]
  have hkeys : (sortedKeys ((side .a quotesA).map Prod.fst)).toFinset = keys .a quotesA := by
    rw [← toFinset_map_fst_side]
    ext key
    rw [List.mem_toFinset, List.mem_toFinset, mem_sortedKeys]
  calc (pairs (side .a quotesA) (side .b quotesB)).length
      = ((sortedKeys ((side .a quotesA).map Prod.fst)).map fun key =>
          multiplicity .a quotesA key * multiplicity .b quotesB key).sum := by
        rw [pairs, List.length_flatMap]
        exact congrArg List.sum (List.map_congr_left fun key _ => hrow key)
    _ = ∑ key ∈ keys .a quotesA, multiplicity .a quotesA key * multiplicity .b quotesB key := by
        rw [← hkeys, List.sum_toFinset _ (nodup_sortedKeys _)]
    _ = _ := by
        refine (Finset.sum_subset Finset.inter_subset_left fun key ha hab => ?_).symm
        have hb : key ∉ keys .b quotesB := fun hb => hab (Finset.mem_inter.2 ⟨ha, hb⟩)
        rw [multiplicity_eq_zero hb, Nat.mul_zero]

theorem unmatched_eq_card (one other : List KeyedQuote) :
    unmatched one other =
      ((one.map Prod.fst).toFinset \ (other.map Prod.fst).toFinset).card := by
  rw [unmatched, List.countP_eq_length_filter,
    ← List.toFinset_card_of_nodup ((nodup_sortedKeys _).filter _)]
  congr 1
  ext key
  simp [mem_sortedKeys]

theorem unmatched_side (one other : Venue) (quotes quotes' : List Quote) :
    unmatched (side one quotes) (side other quotes') =
      (keys one quotes \ keys other quotes').card := by
  rw [unmatched_eq_card, toFinset_map_fst_side, toFinset_map_fst_side]

end Join

/-! ## Rows in order -/

theorem isLE_compareLex_compareOn {α κ : Type} [LinearOrder κ] (key : α → κ)
    (cmp : α → α → Ordering) {x y : α} :
    (compareLex (compareOn key) cmp x y).isLE ↔
      key x < key y ∨ key x = key y ∧ (cmp x y).isLE := by
  rcases lt_trichotomy (key x) (key y) with h | h | h
  · simp [compareLex, compareOn, compare_lt_iff_lt.2 h, h]
  · simp [compareLex, compareOn, h]
  · simp [compareLex, compareOn, compare_gt_iff_gt.2 h, h.not_gt, h.ne']

namespace QuotePair

theorem perm_sort (pairs : List QuotePair) : (sort pairs).Perm pairs :=
  perm_sortBy _ pairs

theorem isLE_order_trans {x y z : QuotePair} (hxy : (order x y).isLE) (hyz : (order y z).isLE) :
    (order x z).isLE :=
  Std.TransCmp.isLE_trans hxy hyz

theorem isLE_order_total (x y : QuotePair) : (order x y).isLE ∨ (order y x).isLE := by
  have hswap : order y x = (order x y).swap := Std.OrientedCmp.eq_swap
  rw [hswap]
  cases order x y <;> simp

theorem pairwise_sort (pairs : List QuotePair) :
    (sort pairs).Pairwise fun p q => (order p q).isLE := by
  refine pairwise_sortBy _ ?_ isLE_order_total pairs
  intro x y z
  exact isLE_order_trans

/-- What pairs are sorted by, the first that differs deciding: time, contract, the two names and the
places of the two values in the total order. -/
def sortKeys (p : QuotePair) : Time ×ₗ String ×ₗ String ×ₗ String ×ₗ Int ×ₗ Int :=
  toLex (p.key.time, toLex (p.key.instrument, toLex (p.a.instrument, toLex (p.b.instrument,
    toLex (p.a.value.totalKey, p.b.value.totalKey)))))

theorem isLE_order_iff {p q : QuotePair} : (order p q).isLE ↔ p.sortKeys ≤ q.sortKeys := by
  simp only [order, sortKeys, isLE_compareLex_compareOn, Prod.Lex.toLex_le_toLex]
  simp only [compareOn, ← compare_le_iff_le, Ordering.ne_gt_iff_isLE]

/-- The observation has the key of the pair and the names and values of its quotes, and no price. -/
structure IsRow (p : QuotePair) (o : Observation) : Prop where
  time : o.time = p.key.time
  instrument : o.instrument = p.key.instrument
  nameA : o.nameA = p.a.instrument
  nameB : o.nameB = p.b.instrument
  valueA : o.valueA = p.a.value.toFloat
  valueB : o.valueB = p.b.value.toFloat
  referencePrice : o.referencePrice = none
  nativeB : o.nativeB = none

theorem forall₂_isRow (pairs : List QuotePair) :
    List.Forall₂ IsRow pairs (pairs.map toObservation) := by
  rw [List.forall₂_map_right_iff, List.forall₂_same]
  intro p _
  constructor <;> rfl

end QuotePair

/-- **Without a reference the alignment is exactly the inner join of the two venues**, in order, and
the counters agree with it. -/
theorem align_none_eq_inner_join (quotesA quotesB : List Quote) :
    (∃ pairs : List QuotePair,
      pairs.Perm (Join.product quotesA quotesB) ∧
      pairs.Pairwise (fun p q => p.sortKeys ≤ q.sortKeys) ∧
      List.Forall₂ QuotePair.IsRow pairs (align quotesA quotesB none)) ∧
    (let keysA := Join.keys .a quotesA
     let keysB := Join.keys .b quotesB
     let counts := alignmentCounts quotesA quotesB none
     counts.samplesA + counts.samplesB + counts.misrouted = quotesA.length + quotesB.length ∧
     counts.paired = (align quotesA quotesB none).length ∧
     counts.paired = ∑ key ∈ keysA ∩ keysB,
       Join.multiplicity .a quotesA key * Join.multiplicity .b quotesB key ∧
     counts.unmatchedA = (keysA \ keysB).card ∧
     counts.unmatchedB = (keysB \ keysA).card ∧
     (keysA ∩ keysB).card ≤ keysB.card ∧
     counts.unmatchedB = keysB.card - (keysA ∩ keysB).card) := by
  constructor
  · exact ⟨_, (QuotePair.perm_sort _).trans (Join.perm_pairs_product quotesA quotesB),
      (QuotePair.pairwise_sort _).imp QuotePair.isLE_order_iff.1, QuotePair.forall₂_isRow _⟩
  · have hpaired : (align quotesA quotesB none).length =
        (Join.pairs (Join.side .a quotesA) (Join.side .b quotesB)).length := by
      change ((QuotePair.sort _).map _).length = _
      rw [List.length_map, (QuotePair.perm_sort _).length_eq]
    have hcard : (Join.keys .a quotesA ∩ Join.keys .b quotesB).card ≤
        (Join.keys .b quotesB).card := Finset.card_le_card Finset.inter_subset_right
    have hdiff := Join.unmatched_side .b .a quotesB quotesA
    refine ⟨?_, rfl, hpaired.trans (Join.length_pairs quotesA quotesB),
      Join.unmatched_side .a .b quotesA quotesB, hdiff, hcard, ?_⟩
    · have ha := Join.length_side_add_countP .a quotesA
      have hb := Join.length_side_add_countP .b quotesB
      change (Join.side .a quotesA).length + (Join.side .b quotesB).length +
        (quotesA.countP (·.venue ≠ .a) + quotesB.countP (·.venue ≠ .b)) = _
      omega
    · rw [← Finset.card_sdiff_of_subset Finset.inter_subset_right, Finset.sdiff_inter_self_right]
      exact hdiff

end TwoVenues

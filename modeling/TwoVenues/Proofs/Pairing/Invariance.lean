import Mathlib.Algebra.GroupWithZero.Nat
import TwoVenues.Proofs.Pairing.InnerJoin

/-!
# The alignment does not depend on any order

Neither the order of the quotes nor the order in which distinct keys are visited shows in an
alignment. Sorting brings all pairs into one order, since pairs in the same place of the order are
the same pair: their quotes agree in name and value, and their venues and times follow from the
side and the key.

* `QuotePair.sort_eq_of_perm` : sorting forgets the order of pairs that the order tells apart;
* `Join.eq_of_order` : it tells apart the pairs of a join;
* `Join.Enumerates`, `pass` : the alignment as a pass over keys in any order, with the counters that
  it keeps on the way;
* `align_perm`, `alignmentCounts_perm`, `pass_eq` : none of the orders matters.
-/

namespace TwoVenues

attribute [ext] Quote

/-! ## Sorting -/

theorem QuotePair.sort_eq_of_perm {ps qs : List QuotePair} (hperm : ps.Perm qs)
    (hties : ∀ p ∈ ps, ∀ q ∈ ps, order p q = .eq → p = q) : sort ps = sort qs := by
  have hsorted : (sort ps).Perm (sort qs) :=
    (perm_sort ps).trans (hperm.trans (perm_sort qs).symm)
  refine hsorted.eq_of_pairwise ?_ (pairwise_sort ps) (pairwise_sort qs)
  intro p q hp hq hpq hqp
  refine hties p ((perm_sort ps).mem_iff.1 hp) q ?_ (Std.OrientedCmp.isLE_antisymm hpq hqp)
  exact hperm.mem_iff.2 ((perm_sort qs).mem_iff.1 hq)

namespace Join

section Pairs
variable {quotesA quotesB quotesA' quotesB' : List Quote}

theorem eq_of_order {p q : QuotePair} (hp : p ∈ product quotesA quotesB)
    (hq : q ∈ product quotesA quotesB) (h : QuotePair.order p q = .eq) : p = q := by
  obtain ⟨x, -, y, -, hmatch, rfl⟩ := mem_product.1 hp
  obtain ⟨x', -, y', -, hmatch', rfl⟩ := mem_product.1 hq
  obtain ⟨htime, hinstrument, hnameA, hnameB, hvalueA, hvalueB⟩ := QuotePair.order_eq_iff.1 h
  obtain ⟨hvenueA, hvenueB, hxy, -⟩ := hmatch
  obtain ⟨hvenueA', hvenueB', hxy', -⟩ := hmatch'
  change x.time = x'.time at htime
  have hx : x = x' := Quote.ext htime (hvenueA.trans hvenueA'.symm) hnameA hvalueA
  have hy : y = y' :=
    Quote.ext (hxy.symm.trans (htime.trans hxy')) (hvenueB.trans hvenueB'.symm) hnameB hvalueB
  rw [hx, hy]

theorem perm_side (hA : quotesA.Perm quotesA') (venue : Venue) :
    (side venue quotesA).Perm (side venue quotesA') :=
  (hA.filter _).map _

theorem perm_product (hA : quotesA.Perm quotesA') (hB : quotesB.Perm quotesB') :
    (product quotesA quotesB).Perm (product quotesA' quotesB') :=
  ((hA.product hB).filter _).map _

theorem sort_pairs_eq (hA : quotesA.Perm quotesA') (hB : quotesB.Perm quotesB')
    {ps : List QuotePair} (hps : ps.Perm (product quotesA' quotesB')) :
    QuotePair.sort ps = QuotePair.sort (pairs (side .a quotesA) (side .b quotesB)) := by
  have hpairs := perm_pairs_product quotesA quotesB
  refine QuotePair.sort_eq_of_perm (hps.trans ((perm_product hA hB).symm.trans hpairs.symm)) ?_
  intro p hp q hq hpq
  exact eq_of_order (hps.mem_iff.1 hp) (hps.mem_iff.1 hq) hpq

end Pairs

end Join

/-! ## The order of the quotes -/

section Quotes
variable {quotesA quotesA' quotesB quotesB' : List Quote}

theorem align_perm (hA : quotesA.Perm quotesA') (hB : quotesB.Perm quotesB')
    (reference : Option (List PricePoint)) :
    align quotesA' quotesB' reference = align quotesA quotesB reference := by
  unfold align Join.observations
  rw [Join.sort_pairs_eq hA hB (Join.perm_pairs_product quotesA' quotesB')]

theorem Join.keys_perm (hA : quotesA.Perm quotesA') (venue : Venue) :
    keys venue quotesA' = keys venue quotesA :=
  (List.toFinset_eq_of_perm _ _ ((hA.filter _).map _)).symm

theorem alignmentCounts_perm (hA : quotesA.Perm quotesA') (hB : quotesB.Perm quotesB')
    (reference : Option (List PricePoint)) :
    alignmentCounts quotesA' quotesB' reference = alignmentCounts quotesA quotesB reference := by
  simp only [alignmentCounts, align_perm hA hB, Join.unmatched_side, Join.keys_perm hA,
    Join.keys_perm hB, (Join.perm_side hA _).length_eq, (Join.perm_side hB _).length_eq,
    hA.countP_eq, hB.countP_eq]

end Quotes

/-! ## The order of the keys -/

namespace Join

/-- The keys of a side in some order, each once. -/
structure Enumerates (keys : List JoinKey) (side : List KeyedQuote) : Prop where
  nodup : keys.Nodup
  mem_iff : ∀ key, key ∈ keys ↔ key ∈ side.map Prod.fst

/-- The pairs, as the keys of venue A are visited in some order. -/
def pairsThrough (keysA : List JoinKey) (sideA sideB : List KeyedQuote) : List QuotePair :=
  keysA.flatMap fun key =>
    (matching key sideA).flatMap fun x => (matching key sideB).map fun y => ⟨key, x, y⟩

/-- The alignment as a pass over the keys of venue A in some order, with the keys of venue B that
remain unmatched as the difference of two numbers. -/
def pass (keysA keysB : List JoinKey) (quotesA quotesB : List Quote)
    (reference : Option (List PricePoint)) : List Observation × AlignmentCounts :=
  let sideA := side .a quotesA
  let sideB := side .b quotesB
  let rows := (QuotePair.sort (pairsThrough keysA sideA sideB)).map QuotePair.toObservation
  let rows := match reference with
    | none => rows
    | some points => Conversion.convert points rows
  (rows,
    { samplesA := (keysA.map fun key => (matching key sideA).length).sum
      samplesB := (keysB.map fun key => (matching key sideB).length).sum
      misrouted := quotesA.countP (·.venue ≠ .a) + quotesB.countP (·.venue ≠ .b)
      paired := rows.length
      unmatchedA := keysA.countP fun key => !keysB.contains key
      unmatchedB := keysB.length - (keysA.filter fun key => keysB.contains key).length
      unresolvedReference :=
        if reference.isSome then rows.countP (·.referencePrice.isNone) else 0 })

section Keys
variable {keysA keysB : List JoinKey} {sideA sideB : List KeyedQuote}

theorem Enumerates.perm (h : Enumerates keysA sideA) :
    keysA.Perm (sortedKeys (sideA.map Prod.fst)) := by
  rw [List.perm_ext_iff_of_nodup h.nodup (nodup_sortedKeys _)]
  intro key
  rw [h.mem_iff, mem_sortedKeys]

theorem Enumerates.toFinset_eq (h : Enumerates keysA sideA) :
    keysA.toFinset = (sideA.map Prod.fst).toFinset := by
  ext key
  rw [List.mem_toFinset, List.mem_toFinset, h.mem_iff]

/-- The quotes of all keys are all quotes. -/
theorem Enumerates.sum_length (h : Enumerates keysA sideA) :
    (keysA.map fun key => (matching key sideA).length).sum = sideA.length := by
  have hcover : ∀ p ∈ sideA, p.1 ∈ keysA := by
    intro p hp
    exact (h.mem_iff p.1).2 (List.mem_map_of_mem hp)
  rw [← (perm_flatMap_filter Prod.fst h.nodup hcover).length_eq, List.length_flatMap]
  simp [matching]

theorem Enumerates.countP_unmatched (hA : Enumerates keysA sideA) (hB : Enumerates keysB sideB) :
    (keysA.countP fun key => !keysB.contains key) = unmatched sideA sideB := by
  rw [unmatched, hA.perm.countP_eq]
  congr 1
  funext key
  simp only [List.contains_eq_mem, hB.mem_iff]

theorem Enumerates.length_sub_matched (hA : Enumerates keysA sideA)
    (hB : Enumerates keysB sideB) :
    keysB.length - (keysA.filter fun key => keysB.contains key).length = unmatched sideB sideA := by
  have hmatched : (keysA.filter fun key => keysB.contains key).toFinset =
      keysA.toFinset ∩ keysB.toFinset := by
    ext key
    simp
  have hcard := Finset.card_sdiff (s := keysA.toFinset) (t := keysB.toFinset)
  rw [unmatched_eq_card, ← hA.toFinset_eq, ← hB.toFinset_eq,
    ← List.toFinset_card_of_nodup hB.nodup,
    ← List.toFinset_card_of_nodup (hA.nodup.filter _), hmatched, hcard]

theorem Enumerates.perm_pairs (h : Enumerates keysA sideA) :
    (pairsThrough keysA sideA sideB).Perm (pairs sideA sideB) :=
  h.perm.flatMap_right _

end Keys

theorem Enumerates.sort_pairsThrough {keysA : List JoinKey} {quotesA quotesB : List Quote}
    (h : Enumerates keysA (side .a quotesA)) :
    QuotePair.sort (pairsThrough keysA (side .a quotesA) (side .b quotesB)) =
      QuotePair.sort (pairs (side .a quotesA) (side .b quotesB)) :=
  sort_pairs_eq (List.Perm.refl _) (List.Perm.refl _)
    (h.perm_pairs.trans (perm_pairs_product quotesA quotesB))

theorem pass_eq {keysA keysB : List JoinKey} {quotesA quotesB : List Quote}
    (hkeysA : Enumerates keysA (side .a quotesA)) (hkeysB : Enumerates keysB (side .b quotesB))
    (reference : Option (List PricePoint)) :
    pass keysA keysB quotesA quotesB reference =
      (align quotesA quotesB reference, alignmentCounts quotesA quotesB reference) := by
  unfold pass
  simp only [hkeysA.sort_pairsThrough, hkeysA.sum_length, hkeysB.sum_length,
    hkeysA.countP_unmatched hkeysB, hkeysA.length_sub_matched hkeysB]
  rfl

end Join

/-- **The alignment and its counters do not depend on the order of the quotes**, nor on the order in
which the keys of either venue are visited; neither do the pairs it is made of, whose values have
their sign even where they are not numbers. -/
theorem align_order_irrelevant {quotesA quotesA' quotesB quotesB' : List Quote}
    (hA : quotesA.Perm quotesA') (hB : quotesB.Perm quotesB')
    (reference : Option (List PricePoint)) :
    let pairs := QuotePair.sort (Join.pairs (Join.side .a quotesA) (Join.side .b quotesB))
    QuotePair.sort (Join.pairs (Join.side .a quotesA') (Join.side .b quotesB')) = pairs ∧
    align quotesA' quotesB' reference = align quotesA quotesB reference ∧
    alignmentCounts quotesA' quotesB' reference = alignmentCounts quotesA quotesB reference ∧
    ∀ keysA keysB, Join.Enumerates keysA (Join.side .a quotesA') →
      Join.Enumerates keysB (Join.side .b quotesB') →
      QuotePair.sort
        (Join.pairsThrough keysA (Join.side .a quotesA') (Join.side .b quotesB')) = pairs ∧
      Join.pass keysA keysB quotesA' quotesB' reference =
        (align quotesA quotesB reference, alignmentCounts quotesA quotesB reference) := by
  have hsort := Join.sort_pairs_eq hA hB (Join.perm_pairs_product quotesA' quotesB')
  refine ⟨hsort, align_perm hA hB reference, alignmentCounts_perm hA hB reference, ?_⟩
  intro keysA keysB hkeysA hkeysB
  refine ⟨hkeysA.sort_pairsThrough.trans hsort, ?_⟩
  rw [Join.pass_eq hkeysA hkeysB, align_perm hA hB, alignmentCounts_perm hA hB]

/-- Quotes of one contract in both spellings, with one value that is not a number in either sign, in
two orders; the later time is visited first. -/
theorem align_order_irrelevant_on_ties :
    let iso := "ETH-20250531-2700-C"
    let dmy := "ETH-31MAY25-2700-C"
    let quotesA : List Quote := [⟨0, .a, iso, .ofFloat Double.nan⟩, ⟨0, .a, dmy, .ofFloat 1.0⟩,
      ⟨0, .a, iso, .negativeNan⟩, ⟨9, .a, iso, .ofFloat 2.0⟩]
    let quotesA' : List Quote := [⟨9, .a, iso, .ofFloat 2.0⟩, ⟨0, .a, iso, .negativeNan⟩,
      ⟨0, .a, dmy, .ofFloat 1.0⟩, ⟨0, .a, iso, .ofFloat Double.nan⟩]
    let quotesB : List Quote := [⟨9, .b, dmy, .ofFloat 3.0⟩, ⟨0, .b, dmy, .ofFloat (-0.0)⟩,
      ⟨0, .b, dmy, .ofFloat 0.0⟩, ⟨7, .b, dmy, .ofFloat 4.0⟩]
    let keysA : List JoinKey := [⟨9, iso⟩, ⟨0, iso⟩]
    let keysB : List JoinKey := [⟨0, iso⟩, ⟨7, iso⟩, ⟨9, iso⟩]
    let reference : List PricePoint := [⟨9, 6.0⟩, ⟨0, 5.0⟩]
    (quotesA.Perm quotesA' ∧ Join.Enumerates keysA (Join.side .a quotesA') ∧
      Join.Enumerates keysB (Join.side .b quotesB)) ∧
    (align quotesA quotesB (some reference)).length = 7 ∧
    QuotePair.sort (Join.pairsThrough keysA (Join.side .a quotesA') (Join.side .b quotesB)) =
      QuotePair.sort (Join.pairs (Join.side .a quotesA) (Join.side .b quotesB)) ∧
    Join.pass keysA keysB quotesA' quotesB (some reference) =
      (align quotesA quotesB (some reference),
        alignmentCounts quotesA quotesB (some reference)) := by
  intro iso dmy quotesA quotesA' quotesB keysA keysB reference
  have hA : quotesA.Perm quotesA' := by decide +kernel
  have hsideA : (Join.side .a quotesA').map Prod.fst =
      [⟨9, iso⟩, ⟨0, iso⟩, ⟨0, iso⟩, ⟨0, iso⟩] := by decide +kernel
  have hsideB : (Join.side .b quotesB).map Prod.fst =
      [⟨9, iso⟩, ⟨0, iso⟩, ⟨0, iso⟩, ⟨7, iso⟩] := by decide +kernel
  have hkeysA : Join.Enumerates keysA (Join.side .a quotesA') :=
    ⟨by decide, fun key => by rw [hsideA]; simp [keysA]⟩
  have hkeysB : Join.Enumerates keysB (Join.side .b quotesB) :=
    ⟨by decide, fun key => by rw [hsideB]; simp only [keysB, List.mem_cons]; tauto⟩
  refine ⟨⟨hA, hkeysA, hkeysB⟩, by decide +kernel, ?_⟩
  exact (align_order_irrelevant hA (List.Perm.refl quotesB) (some reference)).2.2.2 keysA keysB
    hkeysA hkeysB

end TwoVenues

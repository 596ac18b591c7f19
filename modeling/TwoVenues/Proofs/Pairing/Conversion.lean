import Mathlib.Order.Bounds.Basic
import TwoVenues.Proofs.Pairing.InnerJoin

/-!
# Conversion carries the latest price forward

One pass over the rows, which keeps the last price it met, gives every row the price at the latest
observed time that has one.

* `valuesAt`, `meanAt` : the finite reference values at a time, and their mean;
* `resolvedTimes` : the observed times up to some time that have a finite reference point;
* `IsLatestMean` : what the pass keeps, the mean at the greatest of some times, if there is one;
* `IsLatestMean.step` : going on to one more time;
* `Converts`, `convert_spec` : each converted row beside the row it comes from;
* `exists_gap` : rows without a price come first.
-/

namespace TwoVenues

namespace Conversion

/-! ## Prices -/

/-- The finite reference values at a time, as they stand in the series. -/
def valuesAt (reference : List PricePoint) (time : Time) : List Float :=
  (reference.filter fun p => p.time = time && p.value.isFinite).map (·.value)

/-- The sum of the finite reference values at a time, from left to right, by their number. -/
def meanAt (reference : List PricePoint) (time : Time) : Float :=
  (valuesAt reference time).foldl (· + ·) 0.0 / Float.ofNat (valuesAt reference time).length

def HasPoint (reference : List PricePoint) (time : Time) : Prop :=
  ∃ p ∈ reference, p.time = time ∧ p.value.isFinite

theorem hasPoint_iff {reference : List PricePoint} {time : Time} :
    HasPoint reference time ↔ valuesAt reference time ≠ [] := by
  simp [HasPoint, valuesAt]

theorem priceAt?_eq (reference : List PricePoint) (time : Time) :
    priceAt? reference time =
      if valuesAt reference time = [] then none else some (meanAt reference time) := by
  unfold priceAt? meanAt valuesAt
  cases (reference.filter fun p => p.time = time && p.value.isFinite).map (·.value) <;> rfl

/-! ## The latest price -/

/-- The mean at the greatest of some times; none if there are no times. -/
def IsLatestMean (reference : List PricePoint) (times : Set Time) : Option Float → Prop
  | some price => ∃ time, IsGreatest times time ∧ price = meanAt reference time
  | none => times = ∅

/-- The times of rows that have a finite reference point. -/
def pricedTimes (reference : List PricePoint) (rows : List Observation) : Set Time :=
  {time | (∃ o ∈ rows, o.time = time) ∧ HasPoint reference time}

/-- The times up to `t` at which there are both a row and a finite reference point. -/
def resolvedTimes (reference : List PricePoint) (rows : List Observation) (t : Time) : Set Time :=
  {time | time ≤ t ∧ (∃ o ∈ rows, o.time = time) ∧ HasPoint reference time}

section Latest
variable {reference : List PricePoint} {rows seen rest : List Observation} {o : Observation}
  {last : Option Float} {t : Time}

theorem IsLatestMean.unique {times : Set Time} {p q : Option Float}
    (hp : IsLatestMean reference times p) (hq : IsLatestMean reference times q) : p = q := by
  cases p with
  | none =>
    cases q with
    | none => rfl
    | some q =>
      obtain ⟨time, htime, -⟩ := hq
      rw [show times = ∅ from hp] at htime
      exact absurd htime.1 (Set.notMem_empty time)
  | some p =>
    obtain ⟨time, htime, rfl⟩ := hp
    cases q with
    | none =>
      rw [show times = ∅ from hq] at htime
      exact absurd htime.1 (Set.notMem_empty time)
    | some q =>
      obtain ⟨time', htime', rfl⟩ := hq
      rw [htime.unique htime']

theorem mem_pricedTimes_append {time : Time} :
    time ∈ pricedTimes reference (seen ++ [o]) ↔
      time ∈ pricedTimes reference seen ∨ time = o.time ∧ HasPoint reference time := by
  simp only [pricedTimes, Set.mem_ofPred_eq, List.mem_append, List.mem_singleton]
  constructor
  · rintro ⟨⟨x, hx | rfl, rfl⟩, hpoint⟩
    · exact Or.inl ⟨⟨x, hx, rfl⟩, hpoint⟩
    · exact Or.inr ⟨rfl, hpoint⟩
  · rintro (⟨⟨x, hx, rfl⟩, hpoint⟩ | ⟨rfl, hpoint⟩)
    · exact ⟨⟨x, Or.inl hx, rfl⟩, hpoint⟩
    · exact ⟨⟨o, Or.inr rfl, rfl⟩, hpoint⟩

/-- Going on to a row that is no earlier than those before it. -/
theorem IsLatestMean.step (h : IsLatestMean reference (pricedTimes reference seen) last)
    (hseen : ∀ x ∈ seen, x.time ≤ o.time) :
    IsLatestMean reference (pricedTimes reference (seen ++ [o]))
      ((priceAt? reference o.time).or last) := by
  rw [priceAt?_eq]
  by_cases hpoint : HasPoint reference o.time
  · rw [if_neg (hasPoint_iff.1 hpoint)]
    refine ⟨o.time, ⟨mem_pricedTimes_append.2 (Or.inr ⟨rfl, hpoint⟩), ?_⟩, rfl⟩
    intro time htime
    rcases mem_pricedTimes_append.1 htime with ⟨⟨x, hx, rfl⟩, -⟩ | ⟨rfl, -⟩
    · exact hseen x hx
    · exact le_refl _
  · -- a row without a price adds no time, and the price before it is kept
    have htimes : pricedTimes reference (seen ++ [o]) = pricedTimes reference seen := by
      ext time
      rw [mem_pricedTimes_append, or_iff_left]
      rintro ⟨rfl, h⟩
      exact hpoint h
    rw [if_pos (not_not.1 fun hvalues => hpoint (hasPoint_iff.2 hvalues)), htimes]
    exact h

/-- In rows in order of time, those up to a row hold all times up to its own. -/
theorem resolvedTimes_eq (hseen : ∀ x ∈ seen, x.time ≤ o.time)
    (hrest : ∀ x ∈ rest, o.time ≤ x.time) :
    resolvedTimes reference (seen ++ o :: rest) o.time = pricedTimes reference (seen ++ [o]) := by
  ext time
  simp only [resolvedTimes, pricedTimes, Set.mem_ofPred_eq, List.mem_append, List.mem_cons,
    List.not_mem_nil, or_false]
  constructor
  · rintro ⟨hle, ⟨x, hx | rfl | hx, rfl⟩, hpoint⟩
    · exact ⟨⟨x, Or.inl hx, rfl⟩, hpoint⟩
    · exact ⟨⟨x, Or.inr rfl, rfl⟩, hpoint⟩
    · exact ⟨⟨o, Or.inr rfl, le_antisymm (hrest x hx) hle⟩, hpoint⟩
  · rintro ⟨⟨x, hx | rfl, rfl⟩, hpoint⟩
    · exact ⟨hseen x hx, ⟨x, Or.inl hx, rfl⟩, hpoint⟩
    · exact ⟨le_refl _, ⟨x, Or.inr (Or.inl rfl), rfl⟩, hpoint⟩

end Latest

/-! ## Converted rows -/

/-- How a row among others is converted. -/
structure Converts (reference : List PricePoint) (rows : List Observation)
    (before after : Observation) : Prop where
  time : after.time = before.time
  instrument : after.instrument = before.instrument
  valueA : after.valueA = before.valueA
  nameA : after.nameA = before.nameA
  nameB : after.nameB = before.nameB
  nativeB : after.nativeB = some before.valueB
  price : IsLatestMean reference (resolvedTimes reference rows before.time) after.referencePrice
  valueB : after.valueB = match after.referencePrice with
    | some price => before.valueB * price
    | none => Double.nan

theorem forward_spec {reference : List PricePoint} {last : Option Float}
    {seen rest : List Observation} (hsorted : (seen ++ rest).Pairwise (·.time ≤ ·.time))
    (hlast : IsLatestMean reference (pricedTimes reference seen) last) :
    List.Forall₂ (Converts reference (seen ++ rest)) rest (forward reference last rest) := by
  induction rest generalizing seen last with
  | nil => exact .nil
  | cons o rest ih =>
    obtain ⟨-, htail, hcross⟩ := List.pairwise_append.1 hsorted
    have hseen : ∀ x ∈ seen, x.time ≤ o.time := fun x hx => hcross x hx o List.mem_cons_self
    have hrest : ∀ x ∈ rest, o.time ≤ x.time := (List.pairwise_cons.1 htail).1
    have hstep := hlast.step hseen
    refine .cons ⟨rfl, rfl, rfl, rfl, rfl, rfl, ?_, rfl⟩ ?_
    · rw [resolvedTimes_eq hseen hrest]
      exact hstep
    · have hsplit : seen ++ o :: rest = (seen ++ [o]) ++ rest := by simp
      rw [hsplit] at hsorted ⊢
      exact ih hsorted hstep

theorem convert_spec (reference : List PricePoint) {rows : List Observation}
    (hsorted : rows.Pairwise (·.time ≤ ·.time)) :
    List.Forall₂ (Converts reference rows) rows (convert reference rows) := by
  have hnone : IsLatestMean reference (pricedTimes reference []) none := by
    simp [IsLatestMean, pricedTimes]
  exact @forward_spec reference none [] rows hsorted hnone

theorem isSome_forward (reference : List PricePoint) (price : Float) (rows : List Observation) :
    ∀ o ∈ forward reference (some price) rows, o.referencePrice.isSome := by
  induction rows generalizing price with
  | nil => simp [forward]
  | cons o rows ih =>
    obtain ⟨p, hp⟩ : ∃ p, (priceAt? reference o.time).or (some price) = some p := by
      cases priceAt? reference o.time <;> simp
    simp only [forward, hp, List.mem_cons]
    rintro x (rfl | hx)
    · rfl
    · exact ih p x hx

/-- The rows without a price are those before the first price. -/
theorem exists_gap (reference : List PricePoint) (rows : List Observation) :
    ∃ gap rest, convert reference rows = gap ++ rest ∧ (∀ o ∈ gap, o.referencePrice = none) ∧
      ∀ o ∈ rest, o.referencePrice.isSome := by
  unfold convert
  induction rows with
  | nil => exact ⟨[], [], rfl, by simp, by simp⟩
  | cons o rows ih =>
    cases hp : priceAt? reference o.time with
    | none =>
      obtain ⟨gap, rest, hsplit, hgap, hrest⟩ := ih
      refine ⟨applyPrice none o :: gap, rest, ?_, ?_, hrest⟩
      · simp [forward, hp, hsplit]
      · simpa [applyPrice] using hgap
    | some p =>
      refine ⟨[], forward reference none (o :: rows), rfl, by simp, ?_⟩
      simp only [forward, hp, Option.some_or, List.mem_cons]
      rintro x (rfl | hx)
      · rfl
      · exact isSome_forward reference p rows x hx

theorem Converts.price_congr {reference : List PricePoint} {rows : List Observation}
    {o o' x x' : Observation} (h : Converts reference rows o x) (h' : Converts reference rows o' x')
    (ht : x.time = x'.time) : x.referencePrice = x'.referencePrice := by
  have hprice := h.price
  have hprice' := h'.price
  rw [← h.time] at hprice
  rw [← h'.time, ← ht] at hprice'
  exact hprice.unique hprice'

end Conversion

/-! ## Observations in order of time -/

theorem QuotePair.time_le_of_order {p q : QuotePair} (h : (order p q).isLE) :
    p.key.time ≤ q.key.time := by
  have hle : (compare p.key.time q.key.time).isLE := by
    unfold order at h
    rw [compareLex] at h
    cases hc : compareOn (fun p : QuotePair => p.key.time) p q
    · exact Ordering.isLE_of_eq_lt hc
    · exact Ordering.isLE_of_eq_eq hc
    · rw [hc] at h
      cases h
  exact Std.isLE_compare.1 hle

theorem pairwise_time_align (quotesA quotesB : List Quote) :
    (align quotesA quotesB none).Pairwise (·.time ≤ ·.time) := by
  change ((QuotePair.sort _).map QuotePair.toObservation).Pairwise _
  rw [List.pairwise_map]
  exact (QuotePair.pairwise_sort _).imp QuotePair.time_le_of_order

/-- **With a reference the observations are those of the join, each converted by the mean price of
the latest observed time that has one.** -/
theorem align_some_converts (quotesA quotesB : List Quote) (reference : List PricePoint) :
    let rows := align quotesA quotesB none
    let converted := align quotesA quotesB (some reference)
    List.Forall₂ (Conversion.Converts reference rows) rows converted ∧
    (∀ x ∈ converted, ∀ y ∈ converted, x.time = y.time → x.referencePrice = y.referencePrice) ∧
    ∃ gap rest, converted = gap ++ rest ∧
      (∀ o ∈ gap, o.referencePrice = none) ∧ (∀ o ∈ rest, o.referencePrice.isSome) ∧
      (alignmentCounts quotesA quotesB (some reference)).unresolvedReference = gap.length := by
  intro rows converted
  have hconverts : List.Forall₂ (Conversion.Converts reference rows) rows converted :=
    Conversion.convert_spec reference (pairwise_time_align quotesA quotesB)
  refine ⟨hconverts, ?_, ?_⟩
  · intro x hx y hy ht
    obtain ⟨i, hi, rfl⟩ := List.mem_iff_getElem.1 hx
    obtain ⟨j, hj, rfl⟩ := List.mem_iff_getElem.1 hy
    have hlen := hconverts.length_eq
    exact (hconverts.get (by omega) hi).price_congr (hconverts.get (by omega) hj) ht
  · obtain ⟨gap, rest, hsplit, hgap, hrest⟩ := Conversion.exists_gap reference rows
    refine ⟨gap, rest, hsplit, hgap, hrest, ?_⟩
    change converted.countP (·.referencePrice.isNone) = gap.length
    have hnone : gap.countP (·.referencePrice.isNone) = gap.length :=
      List.countP_eq_length.2 fun o ho => by simp [hgap o ho]
    have hsome : rest.countP (·.referencePrice.isNone) = 0 :=
      List.countP_eq_zero.2 fun o ho => by simp [Option.isSome_iff_ne_none.1 (hrest o ho)]
    rw [show converted = gap ++ rest from hsplit, List.countP_append, hnone, hsome, Nat.add_zero]

/-- A gap before the first price, a price that is carried forward, and the mean of two points; the
series is not in order, and one of its points is not finite. -/
theorem align_some_converts_unordered :
    let name := "ETH-20250531-2700-C"
    let quotesA : List Quote := [⟨40, .a, name, .ofFloat 1.0⟩, ⟨0, .a, name, .ofFloat 2.0⟩,
      ⟨10, .a, name, .ofFloat 3.0⟩, ⟨20, .a, name, .ofFloat 4.0⟩]
    let quotesB : List Quote := [⟨0, .b, name, .ofFloat 1.0⟩, ⟨10, .b, name, .ofFloat 2.0⟩,
      ⟨20, .b, name, .ofFloat 3.0⟩, ⟨40, .b, name, .ofFloat 4.0⟩, ⟨40, .b, name, .ofFloat 5.0⟩]
    let reference : List PricePoint :=
      [⟨40, 6.0⟩, ⟨10, 5.0⟩, ⟨20, Double.infinity⟩, ⟨30, 9.0⟩, ⟨40, 8.0⟩]
    let converted := align quotesA quotesB (some reference)
    converted.map (fun o => (o.referencePrice, o.nativeB, o.valueB)) =
      [(none, some 1.0, Double.nan), (some 5.0, some 2.0, 10.0), (some 5.0, some 3.0, 15.0),
        (some 7.0, some 4.0, 28.0), (some 7.0, some 5.0, 35.0)] ∧
    List.Forall₂ (Conversion.Converts reference (align quotesA quotesB none))
      (align quotesA quotesB none) converted := by
  exact ⟨by decide +kernel, (align_some_converts _ _ _).1⟩

end TwoVenues

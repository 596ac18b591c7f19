import Mathlib.Data.List.Forall2
import TwoVenues.Proofs.Pairing.Conversion
import TwoVenues.Proofs.Pairing.Invariance
import TwoVenues.Proofs.Sorting

/-!
# One instrument among others

The observations of an instrument are those of its own quotes. Only the price that is carried
forward knows of other instruments: their observations are times at which the pass over all rows
meets a price, which the instrument alone may not have.

* `quotesOf instrument quotes` : the quotes of one instrument, in all spellings;
* `filter_align_none` : the join of the quotes of one instrument;
* `Observation.AgreesUpToPrice` : what is the same with and without other instruments;
* `Conversion.SelfResolved` : no other instrument has a price at a later time;
* `align_of_instrument` : one instrument among others and alone;
* `exists_price_of_other_instrument` : a price met in the row of another instrument.
-/

namespace TwoVenues

/-- The quotes of one instrument, whatever name a venue gives it. -/
def quotesOf (instrument : String) (quotes : List Quote) : List Quote :=
  quotes.filter (Contract.key ·.instrument = instrument)

/-! ## The join -/

theorem product_filter {α β : Type} (p : α → Bool) (q : β → Bool) (xs : List α) (ys : List β) :
    (xs.filter p).product (ys.filter q) = (xs.product ys).filter fun z => p z.1 && q z.2 := by
  unfold List.product
  induction xs with
  | nil => rfl
  | cons x xs ih =>
    rw [List.flatMap_cons, List.filter_append, ← ih, List.filter_map]
    by_cases hx : p x
    · rw [List.filter_cons_of_pos hx, List.flatMap_cons]
      congr 2
      refine List.filter_congr fun y _ => ?_
      simp [hx]
    · rw [List.filter_cons_of_neg hx]
      have hnone : ys.filter ((fun z : α × β => p z.1 && q z.2) ∘ fun y => (x, y)) = [] :=
        List.filter_eq_nil_iff.2 fun y _ => by simp [hx]
      rw [hnone, List.map_nil, List.nil_append]

theorem Join.filter_product (quotesA quotesB : List Quote) (instrument : String) :
    (product quotesA quotesB).filter (·.key.instrument = instrument) =
      product (quotesOf instrument quotesA) (quotesOf instrument quotesB) := by
  unfold product quotesOf
  rw [product_filter, List.filter_map, List.filter_filter, List.filter_filter]
  congr 1
  refine List.filter_congr fun p _ => ?_
  by_cases hmatch : Matches p.1 p.2
  · -- quotes that match have one key, so that one of them tells the instrument of both
    have hkey : Contract.key p.1.instrument = Contract.key p.2.instrument := hmatch.2.2.2
    simp [hmatch, hkey]
  · simp [hmatch]

theorem filter_align_none (quotesA quotesB : List Quote) (instrument : String) :
    (align quotesA quotesB none).filter (·.instrument = instrument) =
      align (quotesOf instrument quotesA) (quotesOf instrument quotesB) none := by
  have hpairs := (Join.perm_pairs_product quotesA quotesB).filter (·.key.instrument = instrument)
  rw [Join.filter_product] at hpairs
  have hsort := Join.sort_pairs_eq (List.Perm.refl _) (List.Perm.refl _) hpairs
  change ((QuotePair.sort _).map QuotePair.toObservation).filter _ =
    (QuotePair.sort _).map QuotePair.toObservation
  rw [← hsort, List.filter_map]
  congr 1
  refine filter_sortBy ?_ QuotePair.isLE_order_total _
  intro x y z
  exact QuotePair.isLE_order_trans

/-! ## The price -/

/-- The observations are the same, but perhaps for the price and the value converted with it. -/
def Observation.AgreesUpToPrice (o other : Observation) : Prop :=
  { o with valueB := other.valueB, referencePrice := other.referencePrice } = other

namespace Conversion
variable {reference : List PricePoint} {rows own : List Observation} {t : Time}

/-- Of the times up to `t` that have a price, none at which `rows` stand is later than all those at
which `own` stand. -/
def SelfResolved (reference : List PricePoint) (rows own : List Observation) (t : Time) : Prop :=
  ∀ time ∈ resolvedTimes reference rows t, ∃ later ∈ resolvedTimes reference own t, time ≤ later

theorem resolvedTimes_mono (h : own ⊆ rows) :
    resolvedTimes reference own t ⊆ resolvedTimes reference rows t := by
  rintro time ⟨hle, ⟨o, ho, htime⟩, hpoint⟩
  exact ⟨hle, ⟨o, h ho, htime⟩, hpoint⟩

theorem SelfResolved.isLatestMean (h : SelfResolved reference rows own t) (hown : own ⊆ rows)
    {price : Option Float}
    (hprice : IsLatestMean reference (resolvedTimes reference rows t) price) :
    IsLatestMean reference (resolvedTimes reference own t) price := by
  have hmono : resolvedTimes reference own t ⊆ resolvedTimes reference rows t :=
    resolvedTimes_mono hown
  cases price with
  | none =>
    have hrows : resolvedTimes reference rows t = ∅ := hprice
    rw [hrows] at hmono
    exact Set.subset_empty_iff.1 hmono
  | some price =>
    obtain ⟨time, ⟨hmem, hgreatest⟩, rfl⟩ := hprice
    obtain ⟨later, hlater, hle⟩ := h time hmem
    -- the later time is a time of the rows too, so it is the greatest one
    have heq : time = later := le_antisymm hle (hgreatest (hmono hlater))
    subst heq
    exact ⟨time, ⟨hlater, fun s hs => hgreatest (hmono hs)⟩, rfl⟩

/-- One row converted among others and with the rows of its instrument alone. -/
theorem Converts.agreesUpToPrice {o joint alone : Observation}
    (hjoint : Converts reference rows o joint) (halone : Converts reference own o alone) :
    joint.AgreesUpToPrice alone := by
  obtain ⟨htime, hinstrument, hvalueA, hnameA, hnameB, hnativeB, -, -⟩ := hjoint
  obtain ⟨htime', hinstrument', hvalueA', hnameA', hnameB', hnativeB', -, -⟩ := halone
  unfold Observation.AgreesUpToPrice
  cases joint
  cases alone
  simp_all

theorem Converts.eq_of_selfResolved {o joint alone : Observation}
    (hjoint : Converts reference rows o joint) (halone : Converts reference own o alone)
    (hown : own ⊆ rows) (h : SelfResolved reference rows own o.time) : joint = alone := by
  have hprice : joint.referencePrice = alone.referencePrice :=
    (h.isLatestMean hown hjoint.price).unique halone.price
  have hvalueB : joint.valueB = alone.valueB := by
    rw [hjoint.valueB, halone.valueB, hprice]
  have hagrees := hjoint.agreesUpToPrice halone
  unfold Observation.AgreesUpToPrice at hagrees
  rw [← hprice, ← hvalueB] at hagrees
  exact hagrees

end Conversion

/-! ## One instrument -/

/-- Relations of one list to two others relate these. -/
theorem forall₂_of_common {α β γ : Type} {R : α → β → Prop} {S : α → γ → Prop}
    {T : β → γ → Prop} (h : ∀ a b c, R a b → S a c → T b c) {as : List α} {bs : List β}
    {cs : List γ} (hR : List.Forall₂ R as bs) (hS : List.Forall₂ S as cs) :
    List.Forall₂ T bs cs := by
  induction hR generalizing cs with
  | nil =>
    cases hS
    exact .nil
  | cons hab _ ih =>
    cases hS with
    | cons hac hrest => exact .cons (h _ _ _ hab hac) (ih hrest)

/-- **Other instruments show in the observations of an instrument only through the price**: not at
all without a reference, and with one only where another instrument has a price at a later time. -/
theorem align_of_instrument (quotesA quotesB : List Quote) (instrument : String) :
    let ownA := quotesOf instrument quotesA
    let ownB := quotesOf instrument quotesB
    let rows := align quotesA quotesB none
    let own := align ownA ownB none
    rows.filter (·.instrument = instrument) = own ∧
    ∀ reference, List.Forall₂
      (fun joint alone => joint.AgreesUpToPrice alone ∧
        (Conversion.SelfResolved reference rows own joint.time → joint = alone))
      ((align quotesA quotesB (some reference)).filter (·.instrument = instrument))
      (align ownA ownB (some reference)) := by
  intro ownA ownB rows own
  have hrows : rows.filter (·.instrument = instrument) = own :=
    filter_align_none quotesA quotesB instrument
  have hown : own ⊆ rows := by
    rw [← hrows]
    exact List.filter_subset_self rows
  refine ⟨hrows, fun reference => ?_⟩
  have hjoint : List.Forall₂ (Conversion.Converts reference rows)
      (rows.filter (·.instrument = instrument))
      ((align quotesA quotesB (some reference)).filter (·.instrument = instrument)) := by
    refine List.rel_filter ?_ (Conversion.convert_spec reference (pairwise_time_align _ _))
    intro before after h
    simp [h.instrument]
  rw [hrows] at hjoint
  have halone : List.Forall₂ (Conversion.Converts reference own) own
      (align ownA ownB (some reference)) :=
    Conversion.convert_spec reference (pairwise_time_align _ _)
  refine forall₂_of_common ?_ hjoint halone
  intro o joint alone ho ho'
  refine ⟨ho.agreesUpToPrice ho', fun h => ?_⟩
  rw [ho.time] at h
  exact ho.eq_of_selfResolved ho' hown h

/-- A call is converted with the price that the reference has at the time of another call; alone it
keeps the price before. -/
theorem exists_price_of_other_instrument :
    let call := "ETH-20250531-2700-C"
    let quotesA : List Quote := [⟨0, .a, call, .ofFloat 100.0⟩,
      ⟨10, .a, "ETH-20250531-2800-C", .ofFloat 60.0⟩, ⟨20, .a, call, .ofFloat 110.0⟩]
    let quotesB : List Quote := [⟨0, .b, "ETH-31MAY25-2700-C", .ofFloat 0.5⟩,
      ⟨10, .b, "ETH-31MAY25-2800-C", .ofFloat 0.25⟩, ⟨20, .b, "ETH-31MAY25-2700-C", .ofFloat 0.5⟩]
    let reference : List PricePoint := [⟨0, 2000.0⟩, ⟨10, 3000.0⟩]
    let joint := (align quotesA quotesB (some reference)).filter (·.instrument = call)
    let alone := align (quotesOf call quotesA) (quotesOf call quotesB) (some reference)
    joint.map (fun o => (o.time, o.referencePrice, o.valueB)) =
      [(0, some 2000.0, 1000.0), (20, some 3000.0, 1500.0)] ∧
    alone.map (fun o => (o.time, o.referencePrice, o.valueB)) =
      [(0, some 2000.0, 1000.0), (20, some 2000.0, 1000.0)] ∧
    joint ≠ alone := by
  decide +kernel

end TwoVenues

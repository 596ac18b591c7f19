import TwoVenues.Proofs.Contract.Key
import TwoVenues.Proofs.Pairing.Conversion

/-!
# The names in an observation

Quotes pair when their names have one key. So the two names in an observation stand for one
contract, or they are one name that stands for none: a name of the latter kind is paired with itself
wherever both venues quote it at one time.

* `Observation.label` : what an observation says apart from its values;
* `mem_map_label_align` : the labels of an alignment are those of the matching quotes;
* `Observation.NamesContract`, `Observation.NamesOther` : the two kinds of observations;
* `align_names_agree` : there is no third kind, and when there is one of the second.
-/

namespace TwoVenues

open Contract (contract?)

/-! ## Labels -/

/-- What an observation says apart from its values. -/
def Observation.label (o : Observation) : JoinKey × String × String :=
  (⟨o.time, o.instrument⟩, o.nameA, o.nameB)

/-- What conversion by a price leaves alone is left alone in all rows. -/
theorem Conversion.map_forward {β : Type} {f : Observation → β}
    (hf : ∀ price o, f (applyPrice price o) = f o) (reference : List PricePoint)
    (last : Option Float) (rows : List Observation) :
    (forward reference last rows).map f = rows.map f := by
  induction rows generalizing last with
  | nil => rfl
  | cons o rows ih => simp [forward, hf, ih]

theorem map_label_align (quotesA quotesB : List Quote) (reference : Option (List PricePoint)) :
    (align quotesA quotesB reference).map Observation.label =
      (align quotesA quotesB none).map Observation.label := by
  cases reference with
  | none => rfl
  | some points => exact Conversion.map_forward (fun _ _ => rfl) points none _

theorem mem_map_label_align {quotesA quotesB : List Quote}
    {reference : Option (List PricePoint)} {l : JoinKey × String × String} :
    l ∈ (align quotesA quotesB reference).map Observation.label ↔
      ∃ x ∈ quotesA, ∃ y ∈ quotesB, Join.Matches x y ∧
        l = (JoinKey.ofQuote x, x.instrument, y.instrument) := by
  have hrows : (align quotesA quotesB none).map Observation.label =
      (QuotePair.sort (Join.pairs (Join.side .a quotesA) (Join.side .b quotesB))).map
        fun p => (p.key, p.a.instrument, p.b.instrument) := by
    show ((QuotePair.sort _).map QuotePair.toObservation).map Observation.label = _
    rw [List.map_map]
    rfl
  have hperm := (QuotePair.perm_sort _).trans (Join.perm_pairs_product quotesA quotesB)
  rw [map_label_align, hrows, (hperm.map _).mem_iff, List.mem_map]
  constructor
  · rintro ⟨p, hp, rfl⟩
    obtain ⟨x, hx, y, hy, hmatch, rfl⟩ := Join.mem_product.1 hp
    exact ⟨x, hx, y, hy, hmatch, rfl⟩
  · rintro ⟨x, hx, y, hy, hmatch, rfl⟩
    exact ⟨_, Join.mem_product.2 ⟨x, hx, y, hy, hmatch, rfl⟩, rfl⟩

/-! ## The two kinds of observations -/

/-- Both names stand for one contract, and the instrument is its canonical name. -/
def Observation.NamesContract (o : Observation) : Prop :=
  ∃ c, contract? o.nameA = some c ∧ contract? o.nameB = some c ∧ o.instrument = c.render .isoDate

/-- Both venues use one name, and it stands for no contract. -/
def Observation.NamesOther (o : Observation) : Prop :=
  contract? o.nameA = none ∧ o.nameB = o.nameA ∧ o.instrument = o.nameA

theorem namesContract_or_namesOther {o : Observation} {x y : Quote} (hmatch : Join.Matches x y)
    (ho : o.label = (JoinKey.ofQuote x, x.instrument, y.instrument)) :
    o.NamesContract ∨ o.NamesOther := by
  obtain ⟨hkey, hnames⟩ := Prod.mk.inj ho
  obtain ⟨hA, hB⟩ := Prod.mk.inj hnames
  have hinstrument : o.instrument = Contract.key o.nameA := by
    rw [hA]
    exact (JoinKey.mk.inj hkey).2
  have hshared : Contract.key o.nameA = Contract.key o.nameB := by
    rw [hA, hB]
    exact hmatch.2.2.2
  rcases Contract.key_eq_key_iff.1 hshared with ⟨c, hcA, hcB⟩ | ⟨hnone, heq⟩
  · refine Or.inl ⟨c, hcA, hcB, ?_⟩
    rw [hinstrument, Contract.key_of_contract? hcA]
  · refine Or.inr ⟨hnone, heq, ?_⟩
    rw [hinstrument, Contract.key_of_not_contract? hnone]

/-- In an observation that names a contract each name stands for it, also the instrument. -/
theorem Observation.NamesContract.ne {o : Observation} {name : String} (h : o.NamesContract)
    (hname : contract? name = none) : ¬(o.nameA = name ∨ o.nameB = name ∨ o.instrument = name) := by
  obtain ⟨c, hA, hB, hinstrument⟩ := h
  rintro (rfl | rfl | rfl)
  · rw [hA] at hname
    cases hname
  · rw [hB] at hname
    cases hname
  · rw [hinstrument, Contract.contract?_render hA] at hname
    cases hname

/-- **An observation names one contract at both venues, or one name that stands for none.** Names of
the latter kind appear exactly where both venues quote them at one time. -/
theorem align_names_agree (quotesA quotesB : List Quote) (reference : Option (List PricePoint)) :
    (∀ o ∈ align quotesA quotesB reference, o.NamesContract ∨ o.NamesOther) ∧
    ∀ name, Contract.read? name = none →
      ((∃ o ∈ align quotesA quotesB reference,
          o.nameA = name ∨ o.nameB = name ∨ o.instrument = name) ↔
        ∃ x ∈ quotesA, ∃ y ∈ quotesB, x.venue = .a ∧ y.venue = .b ∧ x.time = y.time ∧
          x.instrument = name ∧ y.instrument = name) := by
  have hkinds : ∀ o ∈ align quotesA quotesB reference, ∃ x ∈ quotesA, ∃ y ∈ quotesB,
      Join.Matches x y ∧ o.label = (JoinKey.ofQuote x, x.instrument, y.instrument) := by
    intro o ho
    exact mem_map_label_align.1 (List.mem_map_of_mem ho)
  refine ⟨?_, ?_⟩
  · intro o ho
    obtain ⟨x, -, y, -, hmatch, hlabel⟩ := hkinds o ho
    exact namesContract_or_namesOther hmatch hlabel
  intro name hname
  rw [← Contract.contract?_eq_none_iff] at hname
  constructor
  · rintro ⟨o, ho, happears⟩
    obtain ⟨x, hx, y, hy, hmatch, hlabel⟩ := hkinds o ho
    rcases namesContract_or_namesOther hmatch hlabel with hcontract | ⟨-, hsame, hinstrument⟩
    · exact absurd happears (hcontract.ne hname)
    · have hA : o.nameA = name := by
        rcases happears with h | h | h
        · exact h
        · rw [← hsame, h]
        · rw [← hinstrument, h]
      obtain ⟨-, hnames⟩ := Prod.mk.inj hlabel
      obtain ⟨hxA, hyB⟩ := Prod.mk.inj hnames
      refine ⟨x, hx, y, hy, hmatch.1, hmatch.2.1, hmatch.2.2.1, ?_, ?_⟩
      · rw [← hA]
        exact hxA.symm
      · rw [← hA, ← hsame]
        exact hyB.symm
  · rintro ⟨x, hx, y, hy, ha, hb, htime, rfl, hsame⟩
    have hmatch : Join.Matches x y := ⟨ha, hb, htime, by rw [hsame]⟩
    obtain ⟨o, ho, hlabel⟩ := List.mem_map.1
      ((@mem_map_label_align _ _ reference _).2 ⟨x, hx, y, hy, hmatch, rfl⟩)
    exact ⟨o, ho, Or.inl (Prod.mk.inj (Prod.mk.inj hlabel).2).1⟩

/-- The two spellings of an option make an observation of a contract; a spot price that both venues
quote makes one too, and is converted by itself. -/
theorem align_names_agree_with_spot :
    let quotesA : List Quote :=
      [⟨0, .a, "ETH-SPOT", .ofFloat 2.0⟩, ⟨0, .a, "ETH-20250531-2700-C", .ofFloat 3.0⟩]
    let quotesB : List Quote :=
      [⟨0, .b, "ETH-31MAY25-2700-C", .ofFloat 1.0⟩, ⟨0, .b, "ETH-SPOT", .ofFloat 2.0⟩]
    let rows := align quotesA quotesB (some [⟨0, 2.0⟩])
    rows.map (·.instrument) = ["ETH-20250531-2700-C", "ETH-SPOT"] ∧
    (∀ o ∈ rows, o.NamesContract ∨ o.NamesOther) ∧
    Contract.read? "ETH-SPOT" = none ∧
    ∃ o ∈ rows, o.nameA = "ETH-SPOT" ∨ o.nameB = "ETH-SPOT" ∨ o.instrument = "ETH-SPOT" := by
  intro quotesA quotesB rows
  have hnone : Contract.read? "ETH-SPOT" = none := by decide +kernel
  have h := align_names_agree quotesA quotesB (some [⟨0, 2.0⟩])
  refine ⟨by decide +kernel, h.1, hnone, (h.2 "ETH-SPOT" hnone).2 ?_⟩
  exact ⟨⟨0, .a, "ETH-SPOT", .ofFloat 2.0⟩, by simp [quotesA],
    ⟨0, .b, "ETH-SPOT", .ofFloat 2.0⟩, by simp [quotesB], rfl, rfl, rfl, rfl, rfl⟩

/-- Not only options pair: a spot price that both venues quote is converted by itself. -/
theorem exists_observation_of_spot :
    ∃ o ∈ align [⟨0, .a, "ETH-SPOT", .ofFloat 2500.0⟩] [⟨0, .b, "ETH-SPOT", .ofFloat 2500.0⟩]
        (some [⟨0, 2500.0⟩]),
      Contract.read? o.nameA = none ∧ Contract.read? o.nameB = none ∧
        o.instrument = "ETH-SPOT" ∧ o.valueB = 6250000.0 := by
  decide +kernel

end TwoVenues

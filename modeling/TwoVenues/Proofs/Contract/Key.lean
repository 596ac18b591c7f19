import TwoVenues.Proofs.Contract.Grammar

/-!
# Join keys of names

The key of a name says which contract the name stands for, and gives back a name that stands for
none.

* `contract?` : the contract that a name stands for, in whichever naming;
* `key_of_contract?`, `key_of_not_contract?` : the two cases of a key;
* `contract?_key` : the key of a name stands for what the name stands for;
* `key_eq_key_iff` : names share a key if they name one contract or are one name;
* `read?_of_canonical?` : a canonical name is read in the ISO-date naming.
-/

namespace TwoVenues.Contract

/-- The contract that a name stands for, in whichever naming it is written. -/
def contract? (name : String) : Option Contract := (read? name).map Prod.fst

variable {c : Contract} {naming : Naming} {name other : String}

theorem contract?_eq_some_iff :
    contract? name = some c ↔ ∃ naming, read? name = some (c, naming) := by
  simp [contract?]

theorem contract?_eq_none_iff : contract? name = none ↔ read? name = none := by
  simp [contract?]

/-- A contract that was read has a canonical name, whatever naming it was read in. -/
theorem IsName.isoDate (h : c.IsName name naming) : c.IsName (c.render .isoDate) .isoDate := by
  cases naming with
  | isoDate => exact ⟨h.1, h.2.1, h.2.2.1, rfl⟩
  | dayMonthYear =>
    obtain ⟨hc, h2000, h2099, -⟩ := h
    exact ⟨hc, by omega, by omega, rfl⟩

theorem contract?_render (h : contract? name = some c) :
    contract? (c.render .isoDate) = some c := by
  obtain ⟨naming, h⟩ := contract?_eq_some_iff.1 h
  have hname := (read?_eq_some_iff_isName.1 h).isoDate
  exact contract?_eq_some_iff.2 ⟨.isoDate, read?_eq_some_iff_isName.2 hname⟩

theorem key_of_contract? (h : contract? name = some c) : key name = c.render .isoDate := by
  obtain ⟨naming, h⟩ := contract?_eq_some_iff.1 h
  simp [key, canonical?, renderAs?, h]

theorem key_of_not_contract? (h : contract? name = none) : key name = name := by
  rw [contract?_eq_none_iff] at h
  simp [key, canonical?, renderAs?, h]

theorem contract?_key (name : String) : contract? (key name) = contract? name := by
  cases h : contract? name with
  | none => rw [key_of_not_contract? h, h]
  | some c => rw [key_of_contract? h, contract?_render h]

theorem key_eq_key_iff : key name = key other ↔
    (∃ c, contract? name = some c ∧ contract? other = some c) ∨
      contract? name = none ∧ other = name := by
  constructor
  · intro h
    have hsame : contract? other = contract? name := by
      rw [← contract?_key other, ← h, contract?_key]
    cases hname : contract? name with
    | some c => exact Or.inl ⟨c, rfl, hsame.trans hname⟩
    | none =>
      have hother := hsame.trans hname
      rw [key_of_not_contract? hname, key_of_not_contract? hother] at h
      exact Or.inr ⟨rfl, h.symm⟩
  · rintro (⟨c, hname, hother⟩ | ⟨-, rfl⟩)
    · rw [key_of_contract? hname, key_of_contract? hother]
    · rfl

/-- The same, as what the two names are read as. -/
theorem key_eq_key_iff_read? : key name = key other ↔
    (∃ c m n, read? name = some (c, m) ∧ read? other = some (c, n)) ∨
      read? name = none ∧ read? other = none ∧ name = other := by
  rw [key_eq_key_iff]
  constructor
  · rintro (⟨c, hname, hother⟩ | ⟨hname, rfl⟩)
    · obtain ⟨m, hm⟩ := contract?_eq_some_iff.1 hname
      obtain ⟨n, hn⟩ := contract?_eq_some_iff.1 hother
      exact Or.inl ⟨c, m, n, hm, hn⟩
    · have hnone := contract?_eq_none_iff.1 hname
      exact Or.inr ⟨hnone, hnone, rfl⟩
  · rintro (⟨c, m, n, hm, hn⟩ | ⟨hname, -, rfl⟩)
    · exact Or.inl ⟨c, contract?_eq_some_iff.2 ⟨m, hm⟩, contract?_eq_some_iff.2 ⟨n, hn⟩⟩
    · exact Or.inr ⟨contract?_eq_none_iff.2 hname, rfl⟩

theorem key_key (name : String) : key (key name) = key name := by
  cases h : contract? name with
  | none => rw [key_of_not_contract? h, key_of_not_contract? h]
  | some c => rw [key_of_contract? h, key_of_contract? (contract?_render h)]

/-! ## Canonical names -/

theorem renderAs?_eq_some_iff : renderAs? naming name = some other ↔
    ∃ c, contract? name = some c ∧ other = c.render naming := by
  simp [renderAs?, contract?, eq_comm]

theorem read?_of_canonical? (h : canonical? name = some other) :
    ∃ c naming, read? name = some (c, naming) ∧ read? other = some (c, .isoDate) := by
  obtain ⟨c, hname, rfl⟩ := renderAs?_eq_some_iff.1 h
  obtain ⟨naming, hread⟩ := contract?_eq_some_iff.1 hname
  have hother := (read?_eq_some_iff_isName.1 hread).isoDate
  exact ⟨c, naming, hread, read?_eq_some_iff_isName.2 hother⟩

theorem canonical?_of_canonical? (h : canonical? name = some other) :
    canonical? other = some other := by
  obtain ⟨c, hname, rfl⟩ := renderAs?_eq_some_iff.1 h
  exact renderAs?_eq_some_iff.2 ⟨c, contract?_render hname, rfl⟩

/-- **A key identifies the contract**: two names share one exactly if they are read as one contract,
in whichever namings, or if both stand for none and are the same text. The key of a key is the key,
and a canonical name is read in the ISO-date naming, as the contract it was made from. -/
theorem key_identifies_contract (name other : String) :
    (key name = key other ↔
      (∃ c m n, read? name = some (c, m) ∧ read? other = some (c, n)) ∨
        read? name = none ∧ read? other = none ∧ name = other) ∧
    (key name = key other → (read? name).isSome = (read? other).isSome) ∧
    key (key name) = key name ∧
    ∀ canonical, canonical? name = some canonical →
      (∃ c naming, read? name = some (c, naming) ∧ read? canonical = some (c, .isoDate)) ∧
      canonical? canonical = some canonical := by
  refine ⟨key_eq_key_iff_read?, fun h => ?_, key_key name, fun canonical h =>
    ⟨read?_of_canonical? h, canonical?_of_canonical? h⟩⟩
  rcases key_eq_key_iff_read?.1 h with ⟨c, m, n, hm, hn⟩ | ⟨hname, hother, -⟩
  · rw [hm, hn]
    rfl
  · rw [hname, hother]

/-- A day with a zero before it makes another name, but no other key. -/
theorem key_identifies_contract_of_zero_day :
    canonical? "ETH-07MAY25-2700-C" = some "ETH-20250507-2700-C" ∧
    key "ETH-07MAY25-2700-C" = key "ETH-7MAY25-2700-C" ∧
    (read? "ETH-07MAY25-2700-C").isSome = (read? "ETH-7MAY25-2700-C").isSome ∧
    canonical? "ETH-20250507-2700-C" = some "ETH-20250507-2700-C" := by
  have hcanonical : canonical? "ETH-07MAY25-2700-C" = some "ETH-20250507-2700-C" := by
    decide +kernel
  have hkey : key "ETH-07MAY25-2700-C" = key "ETH-7MAY25-2700-C" := by decide +kernel
  obtain ⟨-, hsome, -, hread⟩ := key_identifies_contract "ETH-07MAY25-2700-C" "ETH-7MAY25-2700-C"
  exact ⟨hcanonical, hkey, hsome hkey, (hread _ hcanonical).2⟩

end TwoVenues.Contract

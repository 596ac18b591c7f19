import TwoVenues.Proofs.Contract.Expiry
import TwoVenues.Proofs.Text.Fields

/-!
# The names that are read as contracts

* `Nameable c` : the contract has a symbol of capital letters and a strike of digits;
* `IsName c name naming` : the naming writes the contract so; in the day-month-year naming a day of
  one digit may have a zero before it;
* `read?_eq_some_iff_isName` : reading accepts exactly these names;
* `not_isName_both` : no name belongs to both namings.
-/

namespace TwoVenues.Contract
open Text

/-! ## Names as they are written -/

/-- A contract that can be named: its symbol is of capital letters and its strike of digits, at
least one of each. -/
structure Nameable (c : Contract) : Prop where
  underlying_ne : c.underlying ≠ ""
  underlying_capitals : ∀ x ∈ c.underlying.toList, 'A' ≤ x ∧ x ≤ 'Z'
  strike_ne : c.strike ≠ ""
  strike_digits : ∀ x ∈ c.strike.toList, '0' ≤ x ∧ x ≤ '9'

/-- The day-month-year name with a zero before the day. -/
def renderZeroDay (c : Contract) : String :=
  String.ofList (joinFields '-' c.underlying.toList
    ['0' :: dateText c.expiry .dayMonthYear, c.strike.toList, c.right.code.toList])

/-- The names of a contract in a naming, and the years that the naming can tell apart. -/
def IsName (c : Contract) (name : String) : Naming → Prop
  | .isoDate =>
    c.Nameable ∧ 0 ≤ c.expiry.year ∧ c.expiry.year ≤ 9999 ∧ name = c.render .isoDate
  | .dayMonthYear =>
    c.Nameable ∧ 2000 ≤ c.expiry.year ∧ c.expiry.year ≤ 2099 ∧
      (name = c.render .dayMonthYear ∨ c.expiry.day < 10 ∧ name = c.renderZeroDay)

/-! ## Symbols and strikes -/

theorem isUpper_iff {c : Char} : c.isUpper ↔ 'A' ≤ c ∧ c ≤ 'Z' := decide_eq_true_iff

theorem isSymbol_iff {s : String} :
    isSymbol s.toList ↔ s ≠ "" ∧ ∀ x ∈ s.toList, 'A' ≤ x ∧ x ≤ 'Z' := by
  rw [isSymbol, Bool.and_eq_true, List.all_eq_true, ne_eq, ← String.toList_eq_nil_iff]
  simp [isUpper_iff]

theorem isNumber_iff {s : String} :
    isNumber s.toList ↔ s ≠ "" ∧ ∀ x ∈ s.toList, '0' ≤ x ∧ x ≤ '9' := by
  rw [isNumber, Bool.and_eq_true, List.all_eq_true, ne_eq, ← String.toList_eq_nil_iff]
  simp [Char.isDigit, Char.le_def]

theorem nameable_iff {c : Contract} :
    c.Nameable ↔ isSymbol c.underlying.toList ∧ isNumber c.strike.toList := by
  rw [isSymbol_iff, isNumber_iff]
  exact ⟨fun h => ⟨⟨h.1, h.2⟩, h.3, h.4⟩, fun h => ⟨h.1.1, h.1.2, h.2.1, h.2.2⟩⟩

/-! ## No part holds a hyphen -/

theorem hyphen_not_mem_of_isDigit {cs : List Char} (h : ∀ c ∈ cs, c.isDigit) : '-' ∉ cs :=
  fun hc => by simpa using h _ hc

theorem hyphen_not_mem_monthCode (month : Nat) : '-' ∉ monthCode month := by
  unfold monthCode
  split <;> decide

theorem hyphen_not_mem_of_date? {cs : List Char} {d : Date} {naming : Naming}
    (h : date? cs = some (d, naming)) : '-' ∉ cs := by
  cases naming with
  | isoDate =>
    obtain ⟨h0, h9999, rfl⟩ := isoDate?_eq_some_iff.1 (date?_eq_some_isoDate.1 h)
    exact hyphen_not_mem_of_isDigit fun c hc => isDigit_of_mem_dateText h0 h9999 hc
  | dayMonthYear =>
    obtain ⟨-, -, day, hday, rfl⟩ := dayMonthYear?_eq_some_iff.1 (date?_eq_some_dayMonthYear.1 h)
    rw [List.mem_append, List.mem_append, not_or, not_or]
    exact ⟨⟨hyphen_not_mem_of_isDigit fun c hc => hday.isDigit hc, hyphen_not_mem_monthCode _⟩,
      hyphen_not_mem_of_isDigit fun c hc => isDigit_of_mem_padded hc⟩

theorem hyphen_not_mem_code (r : Right) : '-' ∉ r.code.toList := by
  cases r <;> decide

theorem Nameable.hyphen_not_mem {c : Contract} (h : c.Nameable) :
    '-' ∉ c.underlying.toList ∧ '-' ∉ c.strike.toList := by
  constructor
  · intro hc
    exact absurd (h.underlying_capitals _ hc).1 (by decide)
  · intro hc
    exact absurd (h.strike_digits _ hc).1 (by decide)

/-! ## Reading -/

/-- A name is read as its four parts, whichever text the date is. -/
theorem read?_eq_some_iff {name : String} {c : Contract} {naming : Naming} :
    read? name = some (c, naming) ↔ c.Nameable ∧ ∃ date, date? date = some (c.expiry, naming) ∧
      name = String.ofList (joinFields '-' c.underlying.toList
        [date, c.strike.toList, c.right.code.toList]) := by
  constructor
  · intro h
    have hjoin := joinFields_fields '-' name.toList
    unfold read? at h
    split at h
    · next symbol date strike right hfields =>
      rw [hfields] at hjoin
      split at h
      · next hparts =>
        obtain ⟨r, hr, h⟩ := Option.bind_eq_some_iff.1 h
        obtain ⟨⟨expiry, naming'⟩, hdate, h⟩ := Option.bind_eq_some_iff.1 h
        obtain ⟨rfl, rfl⟩ := Prod.mk.inj (Option.some.inj h)
        rw [Bool.and_eq_true] at hparts
        have hcode := congrArg String.toList (Right.ofCode?_eq_some_iff.1 hr)
        rw [String.toList_ofList] at hcode
        refine ⟨nameable_iff.2 ?_, date, hdate, ?_⟩
        · simpa only [String.toList_ofList] using hparts
        · simp only [String.toList_ofList]
          rw [← hcode, hjoin, String.ofList_toList]
      · cases h
    · cases h
  · rintro ⟨hc, date, hdate, rfl⟩
    have hfields : fields '-' (joinFields '-' c.underlying.toList
        [date, c.strike.toList, c.right.code.toList]) =
          (c.underlying.toList, [date, c.strike.toList, c.right.code.toList]) :=
      fields_joinFields fun f hf => by
        simp only [List.mem_cons, List.not_mem_nil, or_false] at hf
        rcases hf with rfl | rfl | rfl | rfl
        · exact hc.hyphen_not_mem.1
        · exact hyphen_not_mem_of_date? hdate
        · exact hc.hyphen_not_mem.2
        · exact hyphen_not_mem_code c.right
    obtain ⟨hsymbol, hstrike⟩ := nameable_iff.1 hc
    unfold read?
    rw [String.toList_ofList, hfields]
    simp only [hsymbol, hstrike, Bool.and_self, if_true, String.ofList_toList, hdate,
      Right.ofCode?_eq_some_iff.2 rfl]
    rfl

theorem read?_eq_some_iff_isName {name : String} {c : Contract} {naming : Naming} :
    read? name = some (c, naming) ↔ c.IsName name naming := by
  rw [read?_eq_some_iff]
  cases naming with
  | isoDate =>
    refine and_congr_right fun _ => ⟨?_, ?_⟩
    · rintro ⟨date, hdate, rfl⟩
      obtain ⟨h0, h9999, rfl⟩ := isoDate?_eq_some_iff.1 (date?_eq_some_isoDate.1 hdate)
      exact ⟨h0, h9999, rfl⟩
    · rintro ⟨h0, h9999, rfl⟩
      exact ⟨_, date?_eq_some_isoDate.2 (isoDate?_eq_some_iff.2 ⟨h0, h9999, rfl⟩), rfl⟩
  | dayMonthYear =>
    refine and_congr_right fun _ => ⟨?_, ?_⟩
    · rintro ⟨date, hdate, rfl⟩
      obtain ⟨h2000, h2099, day, hday, rfl⟩ :=
        dayMonthYear?_eq_some_iff.1 (date?_eq_some_dayMonthYear.1 hdate)
      refine ⟨h2000, h2099, ?_⟩
      rcases hday with rfl | ⟨hlt, rfl⟩
      · exact Or.inl rfl
      · exact Or.inr ⟨hlt, rfl⟩
    · rintro ⟨h2000, h2099, rfl | ⟨hlt, rfl⟩⟩
      · exact ⟨_, date?_eq_some_dayMonthYear.2
          (dayMonthYear?_eq_some_iff.2 ⟨h2000, h2099, _, Or.inl rfl, rfl⟩), rfl⟩
      · exact ⟨_, date?_eq_some_dayMonthYear.2
          (dayMonthYear?_eq_some_iff.2 ⟨h2000, h2099, _, Or.inr ⟨hlt, rfl⟩, rfl⟩), rfl⟩

theorem isSome_read?_iff {name : String} :
    (read? name).isSome ↔ ∃ c naming, IsName c name naming := by
  rw [Option.isSome_iff_exists]
  constructor
  · rintro ⟨⟨c, naming⟩, h⟩
    exact ⟨c, naming, read?_eq_some_iff_isName.1 h⟩
  · rintro ⟨c, naming, h⟩
    exact ⟨(c, naming), read?_eq_some_iff_isName.2 h⟩

theorem not_isName_both {c d : Contract} {name : String} (hc : c.IsName name .isoDate) :
    ¬d.IsName name .dayMonthYear := by
  intro hd
  have h := (read?_eq_some_iff_isName.2 hc).symm.trans (read?_eq_some_iff_isName.2 hd)
  cases h

theorem isOk_read (name : String) : (read name).isOk = (read? name).isSome := by
  unfold read
  cases read? name <;> rfl

/-- **A name is read as a contract exactly if one of the two namings writes the contract so**, all
other texts stand for none, the namings have no name in common, and everything that depends on
reading succeeds on the same texts. -/
theorem read?_accepts_two_grammars (name : String) :
    (∀ c naming, read? name = some (c, naming) ↔ IsName c name naming) ∧
    (read? name = none ↔ ∀ c naming, ¬IsName c name naming) ∧
    (∀ c d, ¬(IsName c name .isoDate ∧ IsName d name .dayMonthYear)) ∧
    (read name).isOk = (read? name).isSome ∧
    (naming? name).isSome = (read? name).isSome ∧
    (canonical? name).isSome = (read? name).isSome ∧
    ∀ naming, (renderAs? naming name).isSome = (read? name).isSome := by
  refine ⟨fun c naming => read?_eq_some_iff_isName, ?_, fun c d h => not_isName_both h.1 h.2,
    isOk_read name, Option.isSome_map, Option.isSome_map, fun _ => Option.isSome_map⟩
  rw [← Option.not_isSome_iff_eq_none, isSome_read?_iff]
  push Not
  rfl

end TwoVenues.Contract

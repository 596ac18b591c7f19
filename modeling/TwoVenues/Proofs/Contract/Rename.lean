import TwoVenues.Proofs.Contract.Key

/-!
# Names at the other venue

The day-month-year naming writes two digits of the year, which are read as a year of the
twenty-first century. Renaming keeps the contract up to that.

* `isLeapYear_recentYear` : a leap year stays one, so a 29 February stays a date;
* `Date.recent`, `inNaming` : what is left of a date and of a contract once a naming has written it;
* `isName_render` : a name that is written is read in the naming it was written in.
-/

namespace TwoVenues

/-! ## Years of two digits -/

/-- The year of the twenty-first century with the same last two digits. -/
def recentYear (year : Int) : Int := 2000 + year % 100

theorem recentYear_bounds (year : Int) : 2000 ≤ recentYear year ∧ recentYear year ≤ 2099 := by
  unfold recentYear
  omega

/-- Dates may have such a year. -/
theorem recentYear_mem (year : Int) : firstYear ≤ recentYear year ∧ recentYear year ≤ lastYear := by
  obtain ⟨h2000, h2099⟩ := recentYear_bounds year
  unfold firstYear lastYear
  omega

theorem recentYear_eq_self_iff {year : Int} :
    recentYear year = year ↔ 2000 ≤ year ∧ year ≤ 2099 := by
  unfold recentYear
  omega

theorem recentYear_emod (year : Int) : recentYear year % 100 = year % 100 := by
  unfold recentYear
  omega

theorem isLeapYear_iff {year : Int} :
    isLeapYear year ↔ year % 4 = 0 ∧ (year % 100 ≠ 0 ∨ year % 400 = 0) := by
  simp [isLeapYear]

/-- A hundred years is a whole number of fours, and 2000 is itself a leap year. -/
theorem isLeapYear_recentYear {year : Int} (h : isLeapYear year) :
    isLeapYear (recentYear year) := by
  rw [isLeapYear_iff] at h ⊢
  unfold recentYear
  omega

theorem daysInMonth_le_recentYear (year : Int) (month : Nat) :
    daysInMonth year month ≤ daysInMonth (recentYear year) month := by
  unfold daysInMonth
  split
  -- only February depends on the year
  case h_2 =>
    by_cases h : isLeapYear year
    · rw [if_pos h, if_pos (isLeapYear_recentYear h)]
    · rw [if_neg h]
      split <;> omega
  all_goals exact Nat.le_refl _

theorem IsDate.recentYear {year : Int} {month day : Nat} (h : IsDate year month day) :
    IsDate (recentYear year) month day := by
  obtain ⟨-, h1, hday⟩ := h
  exact ⟨recentYear_mem year, h1, Nat.le_trans hday (daysInMonth_le_recentYear year month)⟩

def Date.recent (d : Date) : Date := ⟨recentYear d.year, d.month, d.day, d.exists_day.recentYear⟩

theorem Date.recent_eq_self_iff {d : Date} : d.recent = d ↔ 2000 ≤ d.year ∧ d.year ≤ 2099 := by
  rw [← recentYear_eq_self_iff]
  constructor
  · intro h
    exact congrArg Date.year h
  · intro h
    cases d
    simp only [Date.recent, Date.mk.injEq, and_true]
    exact h

namespace Contract

/-! ## What a naming keeps -/

/-- The contract that is read from the name of a contract in a naming. -/
def inNaming (c : Contract) : Naming → Contract
  | .isoDate => c
  | .dayMonthYear => { c with expiry := c.expiry.recent }

theorem dateText_recent (d : Date) :
    dateText d.recent .dayMonthYear = dateText d .dayMonthYear := by
  simp only [dateText, Date.recent, recentYear_emod]

theorem render_inNaming (c : Contract) (naming : Naming) :
    (c.inNaming naming).render naming = c.render naming := by
  cases naming with
  | isoDate => rfl
  | dayMonthYear => simp only [render, inNaming, dateText_recent]

variable {c : Contract} {name : String} {naming : Naming}

theorem IsName.nameable (h : c.IsName name naming) : c.Nameable := by
  cases naming <;> exact h.1

/-- A contract that was read has a name in either naming, which is read as what the naming keeps. -/
theorem IsName.isName_render (h : c.IsName name naming) (target : Naming) :
    (c.inNaming target).IsName (c.render target) target := by
  cases target with
  | isoDate => exact h.isoDate
  | dayMonthYear =>
    obtain ⟨h2000, h2099⟩ := recentYear_bounds c.expiry.year
    have hc := h.nameable
    refine ⟨⟨hc.1, hc.2, hc.3, hc.4⟩, h2000, h2099, Or.inl ?_⟩
    exact (render_inNaming c .dayMonthYear).symm

theorem rename_of_read? {venue : Venue} (h : read? name = some (c, naming)) :
    rename venue name = c.render (.ofVenue venue) := by
  simp [rename, renderAs?, h]

theorem rename_of_not_read? {venue : Venue} (h : read? name = none) : rename venue name = name := by
  simp [rename, renderAs?, h]

theorem read?_rename {venue : Venue} (h : read? name = some (c, naming)) :
    read? (rename venue name) = some (c.inNaming (.ofVenue venue), .ofVenue venue) := by
  rw [rename_of_read? h, read?_eq_some_iff_isName]
  exact (read?_eq_some_iff_isName.1 h).isName_render _

theorem rename_rename (venue : Venue) (name : String) :
    rename venue (rename venue name) = rename venue name := by
  cases h : read? name with
  | none => rw [rename_of_not_read? h, rename_of_not_read? h]
  | some p =>
    obtain ⟨c, naming⟩ := p
    rw [rename_of_read? (read?_rename h), render_inNaming, rename_of_read? h]

/-- **Renaming keeps the contract up to the century of its year.** A name that is read is renamed to
one that is read in the naming of the venue: at venue A as the same contract, at venue B as the
contract whose year has the same last two digits and lies in 2000 to 2099. All other names stay as
they are, and renaming twice for one venue is renaming once. -/
theorem rename_keeps_contract (name : String) :
    (∀ c naming, read? name = some (c, naming) →
      read? (rename .a name) = some (c, .ofVenue .a) ∧
      ∃ d, read? (rename .b name) = some (d, .ofVenue .b) ∧
        d.underlying = c.underlying ∧ d.strike = c.strike ∧ d.right = c.right ∧
        d.expiry.month = c.expiry.month ∧ d.expiry.day = c.expiry.day ∧
        d.expiry.year = 2000 + c.expiry.year % 100 ∧
        (d = c ↔ 2000 ≤ c.expiry.year ∧ c.expiry.year ≤ 2099)) ∧
    (∀ year, isLeapYear year → IsDate (2000 + year % 100) 2 29) ∧
    (read? name = none → ∀ venue, rename venue name = name) ∧
    ∀ venue, rename venue (rename venue name) = rename venue name := by
  refine ⟨fun c naming h => ⟨read?_rename h, c.inNaming .dayMonthYear, read?_rename h,
    rfl, rfl, rfl, rfl, rfl, rfl, ?_⟩, fun year h => ?_,
    fun h venue => rename_of_not_read? h, fun venue => rename_rename venue name⟩
  · rw [← Date.recent_eq_self_iff]
    constructor
    · exact congrArg Contract.expiry
    · intro hexpiry
      cases c
      simp only [inNaming, Contract.mk.injEq, true_and, and_true]
      exact hexpiry
  · have hday : daysInMonth (recentYear year) 2 = 29 := if_pos (isLeapYear_recentYear h)
    exact ⟨recentYear_mem year, by decide, Nat.le_of_eq hday.symm⟩

/-- The leap day of 1600 becomes that of 2000, and a name that stands for nothing is kept. -/
theorem rename_keeps_contract_of_leap_day :
    read? "ETH-16000229-2700-C" =
      some (⟨"ETH", ⟨1600, 2, 29, by decide⟩, "2700", .call⟩, .isoDate) ∧
    (∃ d, read? (rename .b "ETH-16000229-2700-C") = some (d, .dayMonthYear) ∧
      d.expiry.year = 2000 ∧ d.expiry.month = 2 ∧ d.expiry.day = 29) ∧
    read? "ETH-PERPETUAL" = none ∧ rename .b "ETH-PERPETUAL" = "ETH-PERPETUAL" := by
  have hread : read? "ETH-16000229-2700-C" =
      some (⟨"ETH", ⟨1600, 2, 29, by decide⟩, "2700", .call⟩, .isoDate) := by decide +kernel
  have hnone : read? "ETH-PERPETUAL" = none := by decide +kernel
  obtain ⟨-, d, hd, -, -, -, hmonth, hday, hyear, -⟩ :=
    (rename_keeps_contract "ETH-16000229-2700-C").1 _ _ hread
  refine ⟨hread, ⟨d, hd, hyear, hmonth, hday⟩, hnone, ?_⟩
  exact (rename_keeps_contract "ETH-PERPETUAL").2.2.1 hnone .b

end Contract

end TwoVenues

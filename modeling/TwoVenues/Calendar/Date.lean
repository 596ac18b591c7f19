/-!
# Calendar dates

Dates of the Gregorian calendar, extended to all years before and after its introduction; the year
before year 1 is year 0. A `Date` carries the proof that its day exists, so `Date.ofParts?` is the
only way in.
-/

namespace TwoVenues

def isLeapYear (year : Int) : Bool :=
  year % 4 == 0 && (year % 100 != 0 || year % 400 == 0)

/-- The number of days in a month of a year; no days in a month that does not exist. -/
def daysInMonth (year : Int) : Nat → Nat
  | 1 => 31
  | 2 => if isLeapYear year then 29 else 28
  | 3 => 31
  | 4 => 30
  | 5 => 31
  | 6 => 30
  | 7 => 31
  | 8 => 31
  | 9 => 30
  | 10 => 31
  | 11 => 30
  | 12 => 31
  | _ => 0

/-- The first year that a date may have. -/
def firstYear : Int := -262143

/-- The last year that a date may have. -/
def lastYear : Int := 262142

/-- Whether year, month and day name a date. -/
def IsDate (year : Int) (month day : Nat) : Prop :=
  (firstYear ≤ year ∧ year ≤ lastYear) ∧ 1 ≤ day ∧ day ≤ daysInMonth year month

instance (year : Int) (month day : Nat) : Decidable (IsDate year month day) :=
  inferInstanceAs (Decidable (_ ∧ _))

/-- A date. -/
structure Date where
  year : Int
  month : Nat
  day : Nat
  exists_day : IsDate year month day
deriving DecidableEq

namespace Date

def ofParts? (year : Int) (month day : Nat) : Option Date :=
  if h : IsDate year month day then some ⟨year, month, day, h⟩ else none

theorem ofParts?_eq_some_iff {year : Int} {month day : Nat} {d : Date} :
    ofParts? year month day = some d ↔ d.year = year ∧ d.month = month ∧ d.day = day := by
  unfold ofParts?
  constructor
  · intro h
    split at h
    · obtain rfl := Option.some.inj h
      exact ⟨rfl, rfl, rfl⟩
    · simp at h
  · rintro ⟨rfl, rfl, rfl⟩
    simp [d.exists_day]

end Date

theorem month_bounds {year : Int} {month day : Nat} (h : IsDate year month day) :
    1 ≤ month ∧ month ≤ 12 := by
  obtain ⟨-, h1, h2⟩ := h
  unfold daysInMonth at h2
  split at h2 <;> omega

end TwoVenues

import Mathlib.Tactic.IntervalCases
import TwoVenues.Contract.Name
import TwoVenues.Proofs.Text.Digits

/-!
# Expiry dates in names

The two readers of expiry dates accept exactly what `dateText` writes.

* `isoDate?_eq_some_iff` : eight digits, for the years 0 to 9999;
* `dayMonthYear?_eq_some_iff` : day, code of the month and two digits, for the years 2000 to 2099,
  where a day of one digit may also have a zero before it;
* `isoDate?_eq_none_of_dayMonthYear?` : no text has both forms.
-/

namespace TwoVenues

/-! ## Codes of months -/

theorem monthCode_monthOfCode? {code : List Char} {month : Nat}
    (h : monthOfCode? code = some month) : monthCode month = code := by
  have := List.find?_some h
  simpa using this

theorem monthOfCode?_monthCode {month : Nat} (h1 : 1 ≤ month) (h12 : month ≤ 12) :
    monthOfCode? (monthCode month) = some month := by
  interval_cases month <;> decide

theorem length_monthCode {month : Nat} (h1 : 1 ≤ month) (h12 : month ≤ 12) :
    (monthCode month).length = 3 := by
  interval_cases month <;> rfl

theorem not_isDigit_of_mem_monthCode {month : Nat} {c : Char} (h : c ∈ monthCode month) :
    c.isDigit = false := by
  unfold monthCode at h
  split at h
  all_goals
    simp only [List.mem_cons, List.not_mem_nil, or_false] at h
    try rcases h with rfl | rfl | rfl <;> decide

theorem exists_monthCode_eq_cons {month : Nat} (h1 : 1 ≤ month) (h12 : month ≤ 12) :
    ∃ c cs, monthCode month = c :: cs ∧ c.isDigit = false := by
  cases hcode : monthCode month with
  | nil =>
    have hlen := length_monthCode h1 h12
    rw [hcode] at hlen
    cases hlen
  | cons c cs => exact ⟨c, cs, rfl, not_isDigit_of_mem_monthCode (hcode ▸ List.mem_cons_self)⟩

namespace Contract
open Text

/-! ## Eight digits -/

theorem date_bounds (d : Date) : d.month < 10 ^ 2 ∧ d.day < 10 ^ 2 := by
  obtain ⟨-, -, hday⟩ := d.exists_day
  have hmonth := month_bounds d.exists_day
  refine ⟨by omega, ?_⟩
  unfold daysInMonth at hday
  split at hday <;> (try split at hday) <;> omega

theorem dateText_isoDate {d : Date} (h0 : 0 ≤ d.year) (h : d.year ≤ 9999) :
    dateText d .isoDate = padded 4 d.year.toNat ++ padded 2 d.month ++ padded 2 d.day := by
  rw [dateText, yearText, if_pos ⟨h0, h⟩]

theorem isDigit_of_mem_dateText {d : Date} (h0 : 0 ≤ d.year) (h : d.year ≤ 9999) {c : Char}
    (hc : c ∈ dateText d .isoDate) : c.isDigit := by
  rw [dateText_isoDate h0 h, List.mem_append, List.mem_append] at hc
  rcases hc with (hc | hc) | hc <;> exact isDigit_of_mem_padded hc

theorem dateText_of_isoDate? {cs : List Char} {d : Date} (h : isoDate? cs = some d) :
    0 ≤ d.year ∧ d.year ≤ 9999 ∧ cs = dateText d .isoDate := by
  unfold isoDate? at h
  split at h
  · next hcs =>
    obtain ⟨hlen, hall⟩ := hcs
    have hdigit : ∀ c ∈ cs, c.isDigit := List.all_eq_true.1 hall
    obtain ⟨hy, hm, hd⟩ := Date.ofParts?_eq_some_iff.1 h
    have hdigitY : ∀ c ∈ cs.take 4, c.isDigit := fun c hc => hdigit c (List.mem_of_mem_take hc)
    have hlenY : (cs.take 4).length = 4 := by rw [List.length_take]; omega
    have hlenM : ((cs.drop 4).take 2).length = 2 := by
      rw [List.length_take, List.length_drop]; omega
    have hlenD : (cs.drop 6).length = 2 := by rw [List.length_drop]; omega
    have hyear := digitsValue_lt hdigitY
    rw [hlenY] at hyear
    have h0 : 0 ≤ d.year := by omega
    have h9999 : d.year ≤ 9999 := by omega
    refine ⟨h0, h9999, ?_⟩
    rw [dateText_isoDate h0 h9999, hm, hd,
      show d.year.toNat = digitsValue (cs.take 4) by omega,
      padded_digitsValue (by decide) hlenY hdigitY,
      padded_digitsValue (by decide) hlenM fun c hc =>
        hdigit c (List.mem_of_mem_drop (List.mem_of_mem_take hc)),
      padded_digitsValue (by decide) hlenD fun c hc => hdigit c (List.mem_of_mem_drop hc),
      List.append_assoc, show cs.drop 6 = (cs.drop 4).drop 2 by rw [List.drop_drop],
      List.take_append_drop, List.take_append_drop]
  · cases h

theorem isoDate?_dateText {d : Date} (h0 : 0 ≤ d.year) (h9999 : d.year ≤ 9999) :
    isoDate? (dateText d .isoDate) = some d := by
  obtain ⟨hmonth, hday⟩ := date_bounds d
  have hlenY : (padded 4 d.year.toNat).length = 4 := length_padded (by decide) (by omega)
  have hlenM : (padded 2 d.month).length = 2 := length_padded (by decide) hmonth
  have hlenD : (padded 2 d.day).length = 2 := length_padded (by decide) hday
  have hall : (dateText d .isoDate).all Char.isDigit :=
    List.all_eq_true.2 fun c hc => isDigit_of_mem_dateText h0 h9999 hc
  have htext := dateText_isoDate h0 h9999
  have hlen : (dateText d .isoDate).length = 8 := by
    rw [htext, List.length_append, List.length_append, hlenY, hlenM, hlenD]
  have hY : (dateText d .isoDate).take 4 = padded 4 d.year.toNat := by
    rw [htext, List.append_assoc, List.take_left' hlenY]
  have hM : ((dateText d .isoDate).drop 4).take 2 = padded 2 d.month := by
    rw [htext, List.append_assoc, List.drop_left' hlenY, List.take_left' hlenM]
  have hD : (dateText d .isoDate).drop 6 = padded 2 d.day := by
    rw [htext, List.drop_left' (by rw [List.length_append, hlenY, hlenM])]
  rw [isoDate?, if_pos ⟨hlen, hall⟩, hY, hM, hD, Date.ofParts?_eq_some_iff, digitsValue_padded,
    digitsValue_padded, digitsValue_padded]
  exact ⟨(Int.toNat_of_nonneg h0).symm, rfl, rfl⟩

theorem isoDate?_eq_some_iff {cs : List Char} {d : Date} :
    isoDate? cs = some d ↔ 0 ≤ d.year ∧ d.year ≤ 9999 ∧ cs = dateText d .isoDate := by
  constructor
  · exact dateText_of_isoDate?
  · rintro ⟨h0, h9999, rfl⟩
    exact isoDate?_dateText h0 h9999

/-! ## Day, month and year -/

/-- The ways to write the day: in decimal, or one digit after a zero. -/
def DayText (day : Nat) (cs : List Char) : Prop :=
  cs = decimal day ∨ day < 10 ∧ cs = '0' :: decimal day

theorem DayText.isDigit {day : Nat} {cs : List Char} (h : DayText day cs) {c : Char} (hc : c ∈ cs) :
    c.isDigit := by
  rcases h with rfl | ⟨-, rfl⟩
  · exact isDigit_of_mem_decimal hc
  · rcases List.mem_cons.1 hc with rfl | hc
    · decide
    · exact isDigit_of_mem_decimal hc

theorem DayText.digitsValue {day : Nat} {cs : List Char} (h : DayText day cs) :
    digitsValue cs = day := by
  rcases h with rfl | ⟨-, rfl⟩
  · exact digitsValue_decimal day
  · rw [digitsValue_cons, show digitValue '0' = 0 from rfl, Nat.mul_zero, Nat.zero_add,
      digitsValue_decimal]

theorem DayText.length {day : Nat} {cs : List Char} (h : DayText day cs) (hday : day < 10 ^ 2) :
    cs.length = 1 ∨ cs.length = 2 := by
  have hpos := length_decimal_pos day
  rcases h with rfl | ⟨hlt, rfl⟩
  · have : (decimal day).length ≤ 2 := (Nat.length_toDigits_le_iff (by decide) (by decide)).2 hday
    omega
  · rw [← padded_one hlt, List.length_cons, length_padded (by decide) hlt]
    exact Or.inr rfl

theorem dayMonthYear?_append {day rest : List Char} (hday : ∀ c ∈ day, c.isDigit)
    (hrest : ∀ c ∈ rest.head?, c.isDigit = false) :
    dayMonthYear? (day ++ rest) =
      if (day.length = 1 ∨ day.length = 2) ∧ (rest.drop 3).length = 2 ∧
          (rest.drop 3).all Char.isDigit then
        (monthOfCode? (rest.take 3)).bind fun month =>
          Date.ofParts? (2000 + Text.digitsValue (rest.drop 3)) month (Text.digitsValue day)
      else none := by
  have htake : rest.takeWhile Char.isDigit = [] := by
    cases rest with
    | nil => rfl
    | cons c cs => exact List.takeWhile_cons_of_neg (by simp [hrest c rfl])
  have hdrop : rest.dropWhile Char.isDigit = rest := by
    cases rest with
    | nil => rfl
    | cons c cs => exact List.dropWhile_cons_of_neg (by simp [hrest c rfl])
  unfold dayMonthYear?
  rw [List.takeWhile_append_of_pos hday, List.dropWhile_append_of_pos hday, htake, hdrop,
    List.append_nil]
  rfl

theorem dayMonthYear?_eq_some_iff {cs : List Char} {d : Date} :
    dayMonthYear? cs = some d ↔ 2000 ≤ d.year ∧ d.year ≤ 2099 ∧
      ∃ day, DayText d.day day ∧
        cs = day ++ monthCode d.month ++ padded 2 (d.year % 100).toNat := by
  constructor
  · intro h
    have hcs : cs.takeWhile Char.isDigit ++ cs.dropWhile Char.isDigit = cs :=
      List.takeWhile_append_dropWhile
    have hdigits : ∀ c ∈ cs.takeWhile Char.isDigit, c.isDigit := fun c hc =>
      List.all_eq_true.1 List.all_takeWhile c hc
    have hhead : ∀ c ∈ (cs.dropWhile Char.isDigit).head?, c.isDigit = false := by
      intro c hc
      have := List.head?_dropWhile_not Char.isDigit cs
      rw [hc] at this
      simpa using this
    generalize cs.takeWhile Char.isDigit = day at hcs hdigits
    generalize cs.dropWhile Char.isDigit = rest at hcs hhead
    subst hcs
    rw [dayMonthYear?_append hdigits hhead] at h
    split at h
    · next hform =>
      obtain ⟨hlen, hlenY, hall⟩ := hform
      obtain ⟨month, hmonth, h⟩ := Option.bind_eq_some_iff.1 h
      obtain ⟨hy, rfl, hd⟩ := Date.ofParts?_eq_some_iff.1 h
      have hdigitY : ∀ c ∈ rest.drop 3, c.isDigit := List.all_eq_true.1 hall
      have hyear := digitsValue_lt hdigitY
      rw [hlenY] at hyear
      refine ⟨by omega, by omega, day, ?_, ?_⟩
      · have := eq_decimal_or_padded hdigits hlen
        rwa [← hd] at this
      · rw [monthCode_monthOfCode? hmonth,
          show (d.year % 100).toNat = Text.digitsValue (rest.drop 3) by omega,
          padded_digitsValue (by decide) hlenY hdigitY, List.append_assoc, List.take_append_drop]
    · cases h
  · rintro ⟨h2000, h2099, day, hday, rfl⟩
    obtain ⟨h1, h12⟩ := month_bounds d.exists_day
    have hlenM := length_monthCode h1 h12
    have hhead : ∀ c ∈ (monthCode d.month ++ padded 2 (d.year % 100).toNat).head?,
        c.isDigit = false := by
      obtain ⟨x, xs, hcode, hx⟩ := exists_monthCode_eq_cons h1 h12
      intro c hc
      rw [hcode, List.cons_append, List.head?_cons, Option.mem_some_iff] at hc
      exact hc ▸ hx
    have hlenY : (padded 2 (d.year % 100).toNat).length = 2 := length_padded (by decide) (by omega)
    rw [List.append_assoc, dayMonthYear?_append (fun c hc => hday.isDigit hc) hhead,
      List.drop_left' hlenM, List.take_left' hlenM, monthOfCode?_monthCode h1 h12,
      if_pos ⟨hday.length (date_bounds d).2, hlenY,
        List.all_eq_true.2 fun c hc => isDigit_of_mem_padded hc⟩, Option.bind_some,
      Date.ofParts?_eq_some_iff, digitsValue_padded, hday.digitsValue]
    exact ⟨by omega, rfl, rfl⟩

theorem isoDate?_eq_none_of_dayMonthYear? {cs : List Char} {d : Date}
    (h : dayMonthYear? cs = some d) : isoDate? cs = none := by
  obtain ⟨-, -, day, -, rfl⟩ := dayMonthYear?_eq_some_iff.1 h
  obtain ⟨h1, h12⟩ := month_bounds d.exists_day
  obtain ⟨x, xs, hcode, hx⟩ := exists_monthCode_eq_cons h1 h12
  unfold isoDate?
  refine if_neg fun hform => ?_
  have hdigit : x.isDigit := List.all_eq_true.1 hform.2 x (by simp [hcode])
  rw [hx] at hdigit
  cases hdigit

/-! ## Either form -/

theorem date?_eq_some_isoDate {cs : List Char} {d : Date} :
    date? cs = some (d, .isoDate) ↔ isoDate? cs = some d := by
  unfold date?
  cases isoDate? cs with
  | none => cases dayMonthYear? cs <;> simp
  | some e => simp

theorem date?_eq_some_dayMonthYear {cs : List Char} {d : Date} :
    date? cs = some (d, .dayMonthYear) ↔ dayMonthYear? cs = some d := by
  unfold date?
  cases hiso : isoDate? cs with
  | none => cases dayMonthYear? cs <;> simp
  | some e =>
    cases hdmy : dayMonthYear? cs with
    | none => simp
    | some f => rw [isoDate?_eq_none_of_dayMonthYear? hdmy] at hiso; cases hiso

end Contract

end TwoVenues

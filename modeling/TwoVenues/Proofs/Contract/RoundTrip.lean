import Mathlib.Data.List.Basic
import TwoVenues.Proofs.Contract.Rename

/-!
# Names that come back

A name goes from its venue to the other one and back. Of a day-month-year name only a zero before
the day may be lost, which is read but not written; of an ISO-date name the century may be, so the
names that come back are those of the twenty-first century.

* `HasZeroDay name symbol rest` : a zero follows the first hyphen of the name;
* `hasZeroDay_renderZeroDay`, `not_hasZeroDay_render` : which of the two ways to write a
  day-month-year name has it;
* `rendered_of_dayMonthYear`, `rendered_of_isoDate` : what comes back.
-/

namespace TwoVenues

/-- A number is written without a zero at the front, unless it is zero. -/
theorem Text.eq_zero_of_decimal_eq_cons {n : Nat} {digits : List Char}
    (h : decimal n = '0' :: digits) : n = 0 := by
  have hvalue : n = digitsValue digits := by
    have hcons := digitsValue_decimal n
    rw [h, digitsValue_cons, show digitValue '0' = 0 from rfl, Nat.mul_zero, Nat.zero_add] at hcons
    exact hcons.symm
  cases digits with
  | nil => exact hvalue
  | cons d ds =>
    have hdigits : ∀ c ∈ d :: ds, c.isDigit := by
      intro c hc
      apply isDigit_of_mem_decimal (n := n)
      rw [h]
      exact List.mem_cons_of_mem _ hc
    have hlt := digitsValue_lt hdigits
    rw [← hvalue] at hlt
    -- below that power of ten, one digit less is enough
    have hlength : (decimal n).length ≤ (d :: ds).length :=
      (Nat.length_toDigits_le_iff (by decide) (by simp)).2 hlt
    rw [h, List.length_cons] at hlength
    omega

namespace Contract
open Text

/-- The name has a zero after its first hyphen, between `symbol` and `rest`. -/
def HasZeroDay (name symbol rest : String) : Prop :=
  '-' ∉ symbol.toList ∧ name = symbol ++ "-0" ++ rest

variable {c : Contract} {name symbol symbol' rest rest' : String}

theorem HasZeroDay.toList_eq (h : HasZeroDay name symbol rest) :
    name.toList = symbol.toList ++ '-' :: '0' :: rest.toList := by
  simp [h.2]

/-- The name determines where the zero stands. -/
theorem HasZeroDay.unique (h : HasZeroDay name symbol rest) (h' : HasZeroDay name symbol' rest') :
    symbol = symbol' ∧ rest = rest' := by
  obtain ⟨hsymbol, hrest⟩ := append_sep_inj h.1 h'.1 (h.toList_eq.symm.trans h'.toList_eq)
  exact ⟨String.toList_inj.1 hsymbol, String.toList_inj.1 (List.cons.inj hrest).2⟩

/-! ## The two ways to write a name -/

/-- What stands after the symbol and its hyphen in a day-month-year name. -/
def afterSymbol (c : Contract) : String :=
  String.ofList (joinFields '-' (dateText c.expiry .dayMonthYear)
    [c.strike.toList, c.right.code.toList])

theorem render_eq_append (c : Contract) :
    c.render .dayMonthYear = c.underlying ++ "-" ++ c.afterSymbol := by
  rw [← String.toList_inj]
  simp [render, afterSymbol, joinFields]

theorem hasZeroDay_renderZeroDay (hc : c.Nameable) :
    HasZeroDay c.renderZeroDay c.underlying c.afterSymbol := by
  refine ⟨hc.hyphen_not_mem.1, ?_⟩
  rw [← String.toList_inj]
  simp [renderZeroDay, afterSymbol, joinFields]

theorem not_hasZeroDay_render (hc : c.Nameable) :
    ¬HasZeroDay (c.render .dayMonthYear) symbol rest := by
  intro h
  have hname : (c.render .dayMonthYear).toList =
      c.underlying.toList ++ '-' :: c.afterSymbol.toList := by
    simp [render_eq_append]
  obtain ⟨-, hafter⟩ := append_sep_inj h.1 hc.hyphen_not_mem.1 (h.toList_eq.symm.trans hname)
  simp only [afterSymbol, dateText, joinFields, String.toList_ofList, List.append_assoc] at hafter
  cases hday : decimal c.expiry.day with
  | nil =>
    have hpos := length_decimal_pos c.expiry.day
    rw [hday] at hpos
    cases hpos
  | cons d ds =>
    rw [hday] at hafter
    obtain ⟨rfl, -⟩ := List.cons.inj hafter
    have hzero := eq_zero_of_decimal_eq_cons hday
    have hfirst := c.expiry.exists_day.2.1
    omega

/-! ## There and back -/

theorem rendered_of_dayMonthYear (h : read? name = some (c, .dayMonthYear)) :
    (canonical? name).bind (renderAs? .dayMonthYear) = some (c.render .dayMonthYear) := by
  have hcontract : contract? name = some c := contract?_eq_some_iff.2 ⟨_, h⟩
  have hcanonical : canonical? name = some (c.render .isoDate) :=
    renderAs?_eq_some_iff.2 ⟨c, hcontract, rfl⟩
  rw [hcanonical, Option.bind_some]
  exact renderAs?_eq_some_iff.2 ⟨c, contract?_render hcontract, rfl⟩

theorem rendered_of_isoDate (h : read? name = some (c, .isoDate)) (h2000 : 2000 ≤ c.expiry.year)
    (h2099 : c.expiry.year ≤ 2099) :
    (renderAs? .dayMonthYear name).bind (renderAs? .isoDate) = some name := by
  have hname := read?_eq_some_iff_isName.1 h
  have hkept : c.inNaming .dayMonthYear = c := by
    rw [inNaming, Date.recent_eq_self_iff.2 ⟨h2000, h2099⟩]
  have hother := hname.isName_render .dayMonthYear
  rw [hkept] at hother
  have hrendered : renderAs? .dayMonthYear name = some (c.render .dayMonthYear) :=
    renderAs?_eq_some_iff.2 ⟨c, contract?_eq_some_iff.2 ⟨_, h⟩, rfl⟩
  rw [hrendered, Option.bind_some, hname.2.2.2]
  exact renderAs?_eq_some_iff.2
    ⟨c, contract?_eq_some_iff.2 ⟨_, read?_eq_some_iff_isName.2 hother⟩, rfl⟩

/-- **Names come back from the other venue.** A day-month-year name that is made canonical and
written in its own naming again is the same if and only if no zero stands before the day, and
otherwise is the name without this one zero. An ISO-date name of the years 2000 to 2099 comes back
from the day-month-year naming as it is. -/
theorem names_round_trip (name : String) :
    (∀ c, read? name = some (c, .dayMonthYear) →
      ((canonical? name).bind (renderAs? .dayMonthYear) = some name ↔
        ¬∃ symbol rest, HasZeroDay name symbol rest) ∧
      ∀ symbol rest, HasZeroDay name symbol rest →
        (canonical? name).bind (renderAs? .dayMonthYear) = some (symbol ++ "-" ++ rest)) ∧
    ∀ c, read? name = some (c, .isoDate) → 2000 ≤ c.expiry.year → c.expiry.year ≤ 2099 →
      (renderAs? .dayMonthYear name).bind (renderAs? .isoDate) = some name := by
  refine ⟨fun c h => ?_, fun c => rendered_of_isoDate⟩
  obtain ⟨hc, -, -, hname⟩ := read?_eq_some_iff_isName.1 h
  rw [rendered_of_dayMonthYear h]
  rcases hname with rfl | ⟨-, rfl⟩
  · have hnone : ∀ symbol rest, ¬HasZeroDay (c.render .dayMonthYear) symbol rest :=
      fun _ _ => not_hasZeroDay_render hc
    refine ⟨⟨fun _ => ?_, fun _ => rfl⟩, fun symbol rest hzero => absurd hzero (hnone _ _)⟩
    rintro ⟨symbol, rest, hzero⟩
    exact hnone symbol rest hzero
  · have hwritten := hasZeroDay_renderZeroDay hc
    refine ⟨⟨fun hsame => ?_, fun hnone => absurd ⟨_, _, hwritten⟩ hnone⟩, ?_⟩
    · rw [← Option.some.inj hsame] at hwritten
      exact absurd hwritten (not_hasZeroDay_render hc)
    · intro symbol rest hzero
      obtain ⟨rfl, rfl⟩ := hzero.unique hwritten
      rw [render_eq_append]

/-- A zero before the day is lost, though not one before the strike, and a leap day comes back. -/
theorem names_round_trip_of_zeros :
    HasZeroDay "ETH-07MAY25-0100-C" "ETH" "7MAY25-0100-C" ∧
    (canonical? "ETH-07MAY25-0100-C").bind (renderAs? .dayMonthYear) =
      some "ETH-7MAY25-0100-C" ∧
    (renderAs? .dayMonthYear "ETH-20240229-0100-P").bind (renderAs? .isoDate) =
      some "ETH-20240229-0100-P" := by
  have hmay : read? "ETH-07MAY25-0100-C" =
      some (⟨"ETH", ⟨2025, 5, 7, by decide⟩, "0100", .call⟩, .dayMonthYear) := by decide +kernel
  have hleap : read? "ETH-20240229-0100-P" =
      some (⟨"ETH", ⟨2024, 2, 29, by decide⟩, "0100", .put⟩, .isoDate) := by decide +kernel
  have hzero : HasZeroDay "ETH-07MAY25-0100-C" "ETH" "7MAY25-0100-C" := ⟨by decide, by decide⟩
  refine ⟨hzero, ((names_round_trip _).1 _ hmay).2 _ _ hzero, ?_⟩
  exact (names_round_trip _).2 _ hleap (by decide) (by decide)

end Contract

end TwoVenues

import TwoVenues.Query.Reference

/-!
# Which instrument is the reference

* `least?_eq_some_iff` : the least of some names;
* `choose?_congr` : the choice depends only on which instruments are quoted;
* `pointsOf_perm` : the prices of an instrument, as quotes come in another order.
-/

namespace TwoVenues.Reference

/-! ## The least name -/

section Least
variable {names names' : List String} {name : String}

theorem least?_eq_none_iff : least? names = none ↔ names = [] := by
  cases names with
  | nil => simp [least?]
  | cons name names =>
    cases h : least? names <;> simp [least?, h]

theorem least?_eq_some_iff :
    least? names = some name ↔ name ∈ names ∧ ∀ other ∈ names, name ≤ other := by
  induction names generalizing name with
  | nil => simp [least?]
  | cons first names ih =>
    cases hleast : least? names with
    | none =>
      obtain rfl := least?_eq_none_iff.1 hleast
      simp only [least?, Option.some.injEq, List.mem_singleton]
      constructor
      · rintro rfl
        exact ⟨rfl, fun other hother => hother ▸ String.le_refl first⟩
      · rintro ⟨rfl, -⟩
        rfl
    | some least =>
      obtain ⟨hmem, hle⟩ := ih.1 hleast
      obtain ⟨min, hmin, hfirst, hleast', hamong⟩ : ∃ min, least? (first :: names) = some min ∧
          min ≤ first ∧ min ≤ least ∧ (min = first ∨ min = least) := by
        refine ⟨if least < first then least else first, by simp [least?, hleast], ?_⟩
        by_cases hlt : least < first
        · rw [if_pos hlt]
          exact ⟨String.not_lt.1 (String.lt_asymm hlt), String.le_refl least, .inr rfl⟩
        · rw [if_neg hlt]
          exact ⟨String.le_refl first, String.not_lt.1 hlt, .inl rfl⟩
      have hbelow : ∀ other ∈ first :: names, min ≤ other := by
        intro other hother
        rcases List.mem_cons.1 hother with rfl | hother
        · exact hfirst
        · exact String.le_trans hleast' (hle other hother)
      have hmin_mem : min ∈ first :: names := by
        rcases hamong with rfl | rfl
        · exact List.mem_cons_self
        · exact List.mem_cons_of_mem _ hmem
      rw [hmin, Option.some.injEq]
      constructor
      · rintro rfl
        exact ⟨hmin_mem, hbelow⟩
      · rintro ⟨hname, hall⟩
        exact String.le_antisymm (hbelow name hname) (hall min hmin_mem)

theorem least?_congr (h : ∀ name, name ∈ names ↔ name ∈ names') : least? names = least? names' := by
  refine Option.ext fun name => ?_
  simp only [least?_eq_some_iff, h]

end Least

/-! ## The choice -/

variable {quotes quotes' : List LabelledQuote}

theorem choose?_congr (settings : AlignmentSettings)
    (h : ∀ name, name ∈ quotes.map (·.instrument) ↔ name ∈ quotes'.map (·.instrument)) :
    choose? settings quotes = choose? settings quotes' := by
  have hcontains : ∀ name, (quotes.map (·.instrument)).contains name =
      (quotes'.map (·.instrument)).contains name := by
    intro name
    rw [List.contains_eq_mem, List.contains_eq_mem]
    exact decide_eq_decide.2 (h name)
  unfold choose?
  simp only [hcontains]
  congr 1
  exact least?_congr fun name => by rw [List.mem_filter, List.mem_filter, h]

theorem pointsOf_perm (h : quotes.Perm quotes') (instrument : String) :
    (pointsOf quotes instrument).Perm (pointsOf quotes' instrument) :=
  (h.filter _).map _

end TwoVenues.Reference

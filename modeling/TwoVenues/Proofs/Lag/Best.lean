import TwoVenues.Lag.Scan
import TwoVenues.Proofs.Double.NumericOrder

/-!
# The best entry of a scan

* `Lag.IsFirstLargest entries b` : no entry before `b` reaches its absolute correlation, and none
  after `b` exceeds it;
* `Lag.IsFirstLargest.better` : the running best stays the first largest of the entries seen;
* `Lag.IsFirstLargest.unique` : a list has one first largest entry at most;
* `Lag.best?_spec` : the best entry is the first largest, among correlations that are all defined;
* `Lag.exists_best?`, `Lag.best?_eq_none_iff` : when there is a best entry;
* `Lag.best?_takes_first_maximum` : the outcome for every list of entries.

In absolute value the two zeros are one number, and so are a correlation and its opposite: these
are ties, and the earlier entry wins them. What is not a number is comparable with nothing, so an
entry that bounds all others has only numbers around it (`Lag.defined_of_abs_le`).
-/

namespace TwoVenues.Lag

/-- Of two places in a list, one comes before the other unless they are the same. -/
theorem eq_or_mem_before {α : Type} {before before' after after' : List α} {b b' : α}
    (h : before ++ b :: after = before' ++ b' :: after') : b = b' ∨ b ∈ before' ∨ b' ∈ before := by
  rcases List.append_eq_append_iff.1 h with ⟨between, rfl, hsplit⟩ | ⟨between, rfl, hsplit⟩
  · cases between with
    | nil => exact .inl (List.cons.inj hsplit).1
    | cons x between =>
      obtain rfl : b = x := (List.cons.inj hsplit).1
      exact .inr (.inl (List.mem_append_right _ List.mem_cons_self))
  · cases between with
    | nil => exact .inl (List.cons.inj hsplit).1.symm
    | cons x between =>
      obtain rfl : b' = x := (List.cons.inj hsplit).1
      exact .inr (.inr (List.mem_append_right _ List.mem_cons_self))

/-- `b` is the first of the entries whose absolute correlation is largest. -/
def IsFirstLargest (entries : List LagEntry) (b : LagEntry) : Prop :=
  ∃ before after, entries = before ++ b :: after ∧
    (∀ e ∈ before, e.correlation.abs < b.correlation.abs) ∧
    ∀ e ∈ after, e.correlation.abs ≤ b.correlation.abs

theorem defined_of_abs_le {b e : LagEntry} (h : e.correlation.abs ≤ b.correlation.abs) :
    e.correlation.isNaN = false := by
  rw [← Double.isNaN_abs]
  exact (Double.le_iff.1 h).1

namespace IsFirstLargest
variable {entries seen rest : List LagEntry} {b e : LagEntry}

theorem singleton (b : LagEntry) : IsFirstLargest [b] b :=
  ⟨[], [], rfl, List.forall_mem_nil _, List.forall_mem_nil _⟩

theorem mem (h : IsFirstLargest entries b) : b ∈ entries := by
  obtain ⟨before, after, rfl, -, -⟩ := h
  exact List.mem_append_right _ List.mem_cons_self

theorem abs_le (h : IsFirstLargest entries b) (hb : b.correlation.isNaN = false)
    (he : e ∈ entries) : e.correlation.abs ≤ b.correlation.abs := by
  obtain ⟨before, after, rfl, hbefore, hafter⟩ := h
  rcases List.mem_append.1 he with he | he
  · exact Double.le_of_lt (hbefore e he)
  · rcases List.mem_cons.1 he with rfl | he
    · rw [Double.le_iff, Double.isNaN_abs]
      exact ⟨hb, hb, Int.le_refl _⟩
    · exact hafter e he

/-- Among entries of ascending lags, the first largest exceeds those of smaller lag. -/
theorem abs_lt (h : IsFirstLargest entries b) (hlags : entries.Pairwise (·.lag < ·.lag))
    (he : e ∈ entries) (hlt : e.lag < b.lag) : e.correlation.abs < b.correlation.abs := by
  obtain ⟨before, after, rfl, hbefore, -⟩ := h
  rcases List.mem_append.1 he with he | he
  · exact hbefore e he
  · obtain ⟨-, htail, -⟩ := List.pairwise_append.1 hlags
    rcases List.mem_cons.1 he with rfl | he
    · omega
    · have := (List.pairwise_cons.1 htail).1 e he
      omega

/-- Going on to one more entry. -/
theorem better (h : IsFirstLargest seen b) (hb : b.correlation.isNaN = false)
    (he : e.correlation.isNaN = false) :
    ∃ b', Lag.better (some b) e = some b' ∧ IsFirstLargest (seen ++ [e]) b' ∧
      b'.correlation.isNaN = false := by
  by_cases hle : e.correlation.abs ≤ b.correlation.abs
  · refine ⟨b, if_pos hle, ?_, hb⟩
    obtain ⟨before, after, rfl, hbefore, hafter⟩ := h
    refine ⟨before, after ++ [e], by simp, hbefore, fun x hx => ?_⟩
    rcases List.mem_append.1 hx with hx | hx
    · exact hafter x hx
    · rw [List.mem_singleton.1 hx]
      exact hle
  · refine ⟨e, if_neg hle, ⟨seen, [], rfl, fun x hx => ?_, List.forall_mem_nil _⟩, he⟩
    have hlt : b.correlation.abs < e.correlation.abs :=
      Double.lt_of_not_le (by rw [Double.isNaN_abs, he]) (by rw [Double.isNaN_abs, hb]) hle
    exact Double.lt_of_le_of_lt (h.abs_le hb hx) hlt

/-- Going on to all entries that are left. -/
theorem foldl_better (h : IsFirstLargest seen b) (hb : b.correlation.isNaN = false)
    (hrest : ∀ e ∈ rest, e.correlation.isNaN = false) :
    ∃ b', rest.foldl Lag.better (some b) = some b' ∧ IsFirstLargest (seen ++ rest) b' := by
  induction rest generalizing seen b with
  | nil =>
    rw [List.append_nil]
    exact ⟨b, rfl, h⟩
  | cons e rest ih =>
    obtain ⟨b', hstep, h', hb'⟩ := h.better hb (hrest e List.mem_cons_self)
    obtain ⟨b'', hrun, h''⟩ := ih h' hb' fun x hx => hrest x (List.mem_cons_of_mem _ hx)
    rw [List.append_assoc] at h''
    rw [List.foldl_cons, hstep]
    exact ⟨b'', hrun, h''⟩

/-- A bound on all entries, not on the later ones only, also says that they are all defined. -/
theorem defined_and_iff :
    ((∀ e ∈ entries, e.correlation.isNaN = false) ∧ IsFirstLargest entries b) ↔
    ∃ before after, entries = before ++ b :: after ∧
      (∀ e ∈ entries, e.correlation.abs ≤ b.correlation.abs) ∧
      ∀ e ∈ before, e.correlation.abs < b.correlation.abs := by
  constructor
  · rintro ⟨hdefined, h⟩
    have hlargest : ∀ e ∈ entries, e.correlation.abs ≤ b.correlation.abs :=
      fun e he => h.abs_le (hdefined b h.mem) he
    obtain ⟨before, after, hsplit, hbefore, -⟩ := h
    exact ⟨before, after, hsplit, hlargest, hbefore⟩
  · rintro ⟨before, after, rfl, hlargest, hbefore⟩
    refine ⟨fun e he => defined_of_abs_le (hlargest e he), before, after, rfl, hbefore, ?_⟩
    intro e he
    exact hlargest e (List.mem_append_right _ (List.mem_cons_of_mem _ he))

theorem unique {b' : LagEntry} (h : IsFirstLargest entries b) (h' : IsFirstLargest entries b')
    (hb : b.correlation.isNaN = false) (hb' : b'.correlation.isNaN = false) : b = b' := by
  have hle : b'.correlation.abs ≤ b.correlation.abs := h.abs_le hb h'.mem
  have hle' : b.correlation.abs ≤ b'.correlation.abs := h'.abs_le hb' h.mem
  obtain ⟨before, after, hsplit, hbefore, -⟩ := h
  obtain ⟨before', after', hsplit', hbefore', -⟩ := h'
  -- of two places the later one would exceed the earlier, which is as large
  rcases eq_or_mem_before (hsplit.symm.trans hsplit') with heq | hmem | hmem
  · exact heq
  · exact absurd (hbefore' b hmem) (Double.not_lt_of_le hle)
  · exact absurd (hbefore b' hmem) (Double.not_lt_of_le hle')

end IsFirstLargest

theorem exists_foldl_better {entries : List LagEntry} (hne : entries ≠ [])
    (hdefined : ∀ e ∈ entries, e.correlation.isNaN = false) :
    ∃ b, entries.foldl better none = some b ∧ IsFirstLargest entries b := by
  cases entries with
  | nil => exact absurd rfl hne
  | cons e rest =>
    exact (IsFirstLargest.singleton e).foldl_better (hdefined e List.mem_cons_self)
      fun x hx => hdefined x (List.mem_cons_of_mem _ hx)

theorem best?_of_isNaN {entries : List LagEntry} {e : LagEntry} (he : e ∈ entries)
    (hnan : e.correlation.isNaN) : best? entries = none :=
  if_pos (List.any_eq_true.2 ⟨e, he, hnan⟩)

theorem best?_of_defined {entries : List LagEntry}
    (hdefined : ∀ e ∈ entries, e.correlation.isNaN = false) :
    best? entries = entries.foldl better none := by
  refine if_neg fun hany => ?_
  obtain ⟨e, he, hnan⟩ := List.any_eq_true.1 hany
  rw [hdefined e he] at hnan
  cases hnan

theorem exists_best? {entries : List LagEntry} (hne : entries ≠ [])
    (hdefined : ∀ e ∈ entries, e.correlation.isNaN = false) :
    ∃ b, best? entries = some b := by
  obtain ⟨b, hrun, -⟩ := exists_foldl_better hne hdefined
  exact ⟨b, (best?_of_defined hdefined).trans hrun⟩

theorem best?_eq_none_iff {entries : List LagEntry} :
    best? entries = none ↔ entries = [] ∨ ∃ e ∈ entries, e.correlation.isNaN := by
  constructor
  · intro h
    by_contra hsome
    obtain ⟨hne, hnan⟩ := not_or.1 hsome
    have hdefined : ∀ e ∈ entries, e.correlation.isNaN = false := by
      intro e he
      exact Bool.eq_false_iff.2 fun h => hnan ⟨e, he, h⟩
    obtain ⟨b, hb⟩ := exists_best? hne hdefined
    rw [hb] at h
    cases h
  · rintro (rfl | ⟨e, he, hnan⟩)
    · rfl
    · exact best?_of_isNaN he hnan

theorem best?_spec {entries : List LagEntry} {b : LagEntry} (h : best? entries = some b) :
    (∀ e ∈ entries, e.correlation.isNaN = false) ∧ IsFirstLargest entries b := by
  have hdefined : ∀ e ∈ entries, e.correlation.isNaN = false := by
    intro e he
    refine Bool.eq_false_iff.2 fun hnan => ?_
    rw [best?_of_isNaN he hnan] at h
    cases h
  rw [best?_of_defined hdefined] at h
  refine ⟨hdefined, ?_⟩
  have hne : entries ≠ [] := by
    rintro rfl
    cases h
  obtain ⟨b', hrun, hb'⟩ := exists_foldl_better hne hdefined
  obtain rfl : b' = b := Option.some.inj (hrun.symm.trans h)
  exact hb'

theorem best?_eq_some_iff {entries : List LagEntry} {b : LagEntry} : best? entries = some b ↔
    (∀ e ∈ entries, e.correlation.isNaN = false) ∧ IsFirstLargest entries b := by
  refine ⟨best?_spec, ?_⟩
  rintro ⟨hdefined, hfirst⟩
  obtain ⟨b', hbest⟩ := exists_best? (List.ne_nil_of_mem hfirst.mem) hdefined
  have hfirst' : IsFirstLargest entries b' := (best?_spec hbest).2
  rw [hbest, hfirst'.unique hfirst (hdefined b' hfirst'.mem) (hdefined b hfirst.mem)]

/-- **The best entry is the first maximum.** There is none exactly if there are no entries or some
correlation is not a number. Otherwise it is an entry as it stands in the list, no entry has a
larger absolute correlation, and those before it have smaller ones. -/
theorem best?_takes_first_maximum (entries : List LagEntry) :
    (best? entries = none ↔ entries = [] ∨ ∃ e ∈ entries, e.correlation.isNaN) ∧
    ∀ b, best? entries = some b ↔ ∃ before after, entries = before ++ b :: after ∧
      (∀ e ∈ entries, e.correlation.abs ≤ b.correlation.abs) ∧
      ∀ e ∈ before, e.correlation.abs < b.correlation.abs := by
  refine ⟨best?_eq_none_iff, fun b => ?_⟩
  exact best?_eq_some_iff.trans IsFirstLargest.defined_and_iff

-- Two zeros of either sign tie, and so do opposite correlations: the earlier entry is kept.
example : best? [⟨-2, -0.0, 1.0, 3⟩, ⟨-1, -0.9, 0.01, 9⟩, ⟨0, 0.5, 0.1, 10⟩, ⟨1, 0.9, 0.02, 9⟩] =
      some ⟨-1, -0.9, 0.01, 9⟩ ∧
    best? [⟨0, -0.0, 1.0, 2⟩, ⟨1, 0.0, 0.5, 2⟩] = some ⟨0, -0.0, 1.0, 2⟩ := by
  decide +kernel

end TwoVenues.Lag

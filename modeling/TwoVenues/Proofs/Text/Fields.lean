import TwoVenues.Text.Fields

/-!
# Cutting joined fields

* `fields_joinFields` : fields that do not hold the separator come back as they were joined;
* `append_sep_inj` : the first separator of a text stands in one place.
-/

namespace TwoVenues.Text

variable {sep : Char} {field : List Char}

theorem fields_cons_of_ne {c : Char} (h : c ≠ sep) (cs : List Char) :
    fields sep (c :: cs) = (c :: (fields sep cs).1, (fields sep cs).2) := by
  rw [fields]
  exact if_neg h

theorem fields_append (h : sep ∉ field) (cs : List Char) :
    fields sep (field ++ cs) = (field ++ (fields sep cs).1, (fields sep cs).2) := by
  induction field with
  | nil => rfl
  | cons c field ih =>
    rw [List.mem_cons, not_or] at h
    rw [List.cons_append, fields_cons_of_ne (Ne.symm h.1), ih h.2, List.cons_append]

theorem fields_sep (cs : List Char) :
    fields sep (sep :: cs) = ([], (fields sep cs).1 :: (fields sep cs).2) := by
  rw [fields]
  exact if_pos rfl

theorem append_sep_inj {other xs ys : List Char} (hfield : sep ∉ field) (hother : sep ∉ other)
    (h : field ++ sep :: xs = other ++ sep :: ys) : field = other ∧ xs = ys := by
  have hfirst := congrArg (fun cs => (fields sep cs).1) h
  simp only [fields_append hfield, fields_append hother, fields_sep, List.append_nil] at hfirst
  subst hfirst
  exact ⟨rfl, List.tail_eq_of_cons_eq (List.append_cancel_left h)⟩

theorem joinFields_cons (next : List Char) (others : List (List Char)) :
    joinFields sep field (next :: others) = field ++ sep :: joinFields sep next others := by
  simp [joinFields]

theorem fields_joinFields {others : List (List Char)} (h : ∀ f ∈ field :: others, sep ∉ f) :
    fields sep (joinFields sep field others) = (field, others) := by
  induction others generalizing field with
  | nil =>
    have hfield := fields_append (h field (List.mem_singleton_self _)) []
    rw [joinFields, List.flatMap_nil, hfield]
    simp [fields]
  | cons next others ih =>
    rw [joinFields_cons, fields_append (h field (List.mem_cons_self ..)), fields_sep,
      ih fun f hf => h f (List.mem_cons_of_mem _ hf), List.append_nil]

end TwoVenues.Text

/-!
# Separated fields

A text cut at every occurrence of a separator has a first field and then as many further fields as
there are separators. `joinFields` puts the separators back, and undoes the cut
(`joinFields_fields`).
-/

namespace TwoVenues.Text

/-- The fields of a text between the separators: the first and the others. -/
def fields (sep : Char) : List Char → List Char × List (List Char)
  | [] => ([], [])
  | c :: cs =>
    let (field, others) := fields sep cs
    if c = sep then ([], field :: others) else (c :: field, others)

/-- The fields written one after the other with the separator between them. -/
def joinFields (sep : Char) (field : List Char) (others : List (List Char)) : List Char :=
  field ++ others.flatMap (sep :: ·)

theorem joinFields_fields (sep : Char) (cs : List Char) :
    joinFields sep (fields sep cs).1 (fields sep cs).2 = cs := by
  induction cs with
  | nil => rfl
  | cons c cs ih =>
    by_cases h : c = sep
    · simpa [fields, h, joinFields] using ih
    · simpa [fields, h, joinFields] using ih

end TwoVenues.Text

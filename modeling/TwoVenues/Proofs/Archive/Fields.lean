import TwoVenues.Json.Record
import TwoVenues.Proofs.Grouping
import TwoVenues.Proofs.Outcome

/-!
# Fields that are written and read again

A double that is not finite is written as `null`, and `null` is read as a missing value but not as a
double. All other fields are read as they were written, so a record is lost if a plain double in it
is not finite, and kept otherwise.

* `ReadsBack` : what is read from the written form of a value;
* `ReadsBack.float`, `ReadsBack.count`, `ReadsBack.int64`, `ReadsBack.text` : single values;
* `ReadsBack.ofList` : lists;
* `slots?_object` : the fields of an object whose names are distinct;
* `ReadsBack.required?`, `optional?_ofFloat` : reading one field of a record and going on.
-/

namespace TwoVenues.Json

variable {α β : Type} {encode : α → Json} {decode : Json → Option α} {fits legible : α → Prop}

/-- From the written form of a value that fits, the value itself is read if it is legible, and
nothing if it is not. -/
def ReadsBack (encode : α → Json) (decode : Json → Option α) (fits legible : α → Prop) : Prop :=
  ∀ x, fits x → ∀ y, decode (encode x) = some y ↔ legible x ∧ x = y

/-! ## Single values -/

/-- The integers that a 64-bit field can hold. -/
def IsInt64 (n : Int) : Prop := Double.int64Min ≤ n ∧ n ≤ Double.int64Max

instance (n : Int) : Decidable (IsInt64 n) :=
  inferInstanceAs (Decidable (Double.int64Min ≤ n ∧ n ≤ Double.int64Max))

theorem IsInt64.of_natAbs_le {n : Nat} (h : IsInt64 n) {i : Int} (hi : i.natAbs ≤ n) :
    IsInt64 i := by
  simp only [IsInt64, Double.int64Min, Double.int64Max] at h ⊢
  omega

theorem IsInt64.lt_size {n : Nat} (h : IsInt64 n) : n < UInt64.size := by
  have hsize : UInt64.size = 0x10000000000000000 := rfl
  simp only [IsInt64, Double.int64Max] at h
  omega

theorem ReadsBack.float : ReadsBack ofFloat toFloat? (fun _ => True) fun x => x.isFinite := by
  intro x _ y
  unfold ofFloat
  by_cases hx : x.isFinite
  · simp [hx, toFloat?]
  · simp [hx, toFloat?]

theorem ReadsBack.count :
    ReadsBack ofNat toCount? (fun n => n < UInt64.size) fun _ => True := by
  intro n hn m
  have hsize : (0 : Int) ≤ n ∧ (n : Int) < UInt64.size := ⟨Int.natCast_nonneg n, Int.ofNat_lt.2 hn⟩
  rw [ofNat, toCount?, if_pos hsize, Int.toNat_natCast, Option.some.injEq, true_and]

theorem ReadsBack.int64 : ReadsBack .int toInt64? IsInt64 fun _ => True := by
  intro n hn m
  have hread : toInt64? (.int n) = some n := if_pos hn
  rw [hread, Option.some.injEq, true_and]

theorem ReadsBack.text : ReadsBack .string toText? (fun _ => True) fun _ => True := by
  intro s _ t
  rw [toText?, Option.some.injEq, true_and]

/-! ## Lists and objects -/

theorem ReadsBack.ofList (h : ReadsBack encode decode fits legible) :
    ReadsBack (ofList encode) (toList? decode) (∀ x ∈ ·, fits x) (∀ x ∈ ·, legible x) := by
  intro xs hfits ys
  change (xs.map encode).mapM decode = some ys ↔ _
  rw [mapM_eq_some_iff, List.forall₂_map_left_iff]
  constructor
  · intro hread
    induction hread with
    | nil => simp
    | cons hx _ ih =>
      obtain ⟨hfit, hfits⟩ := List.forall_mem_cons.1 hfits
      obtain ⟨hlegible, rfl⟩ := (h _ hfit _).1 hx
      obtain ⟨hall, rfl⟩ := ih hfits
      exact ⟨List.forall_mem_cons.2 ⟨hlegible, hall⟩, rfl⟩
  · rintro ⟨hall, rfl⟩
    exact List.forall₂_same.2 fun x hx => (h x (hfits x hx) x).2 ⟨hall x hx, rfl⟩

theorem slot?_of_mem {fields : List (String × Json)} (h : (fields.map Prod.fst).Nodup)
    {field : String × Json} (hfield : field ∈ fields) :
    slot? fields field.1 = some (.given field.2) := by
  rw [slot?, filter_key_eq_singleton h hfield]

/-- An object whose fields have distinct names gives each of them. -/
theorem slots?_object {fields : List (String × Json)} {names : List String}
    (hnames : fields.map Prod.fst = names) (hdistinct : names.Nodup) :
    slots? names (.object fields) = some (fields.map fun field => .given field.2) := by
  subst hnames
  change (fields.map Prod.fst).mapM (slot? fields) = _
  rw [mapM_eq_some_iff, List.forall₂_map_left_iff, List.forall₂_map_right_iff]
  exact List.forall₂_same.2 fun field hfield => slot?_of_mem hdistinct hfield

/-! ## Fields of a record

Both are proved by rewriting with the equations of the readers: as definitional equalities they would
have the kernel evaluate a reader on the field, down to the bounds of 64 bits. -/

/-- Reading a field that must be there, and then the rest of the record. -/
theorem ReadsBack.required? (h : ReadsBack encode decode fits legible) {x : α} (hx : fits x)
    {rest : α → Option β} {y : β} :
    ((Slot.given (encode x)).required? decode >>= rest) = some y ↔
      legible x ∧ rest x = some y := by
  rw [Slot.required?, Option.bind_eq_bind, Option.bind_eq_some_iff]
  constructor
  · rintro ⟨x', hread, hrest⟩
    obtain ⟨hlegible, rfl⟩ := (h x hx x').1 hread
    exact ⟨hlegible, hrest⟩
  · rintro ⟨hlegible, hrest⟩
    exact ⟨x, (h x hx x).2 ⟨hlegible, rfl⟩, hrest⟩

/-- An optional double that is not finite is lost without a trace. -/
theorem optional?_ofFloat (x : Option Float) (rest : Option Float → Option β) :
    ((Slot.given (ofOption ofFloat x)).optional? toFloat? >>= rest) =
      rest (x.filter (·.isFinite)) := by
  rw [Slot.optional?, Option.bind_eq_bind]
  cases x with
  | none => rfl
  | some x =>
    by_cases hx : x.isFinite
    · simp [ofOption, ofFloat, hx, toOption?, toFloat?, Option.filter]
    · simp [ofOption, ofFloat, hx, toOption?, Option.filter]

theorem filter_isFinite_eq_self {x : Option Float} (h : ∀ y ∈ x, y.isFinite) :
    x.filter (·.isFinite) = x := by
  cases x with
  | none => rfl
  | some y => simp [Option.filter, h y rfl]

end TwoVenues.Json

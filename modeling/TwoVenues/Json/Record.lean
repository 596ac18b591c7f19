import TwoVenues.Json.Basic

/-!
# Records in JSON

A record with named fields is written as an object. It is read from an object, whose other fields
are passed over and in which no field may stand twice, or from an array of its fields in the order
of their declaration. `slots?` finds what the record says of each field; the field readers
`required?`, `optional?` and `orElse?` then say what becomes of a field that is not there.
Alternatives without data are written as their name (`variant?`).
-/

namespace TwoVenues.Json

/-- What a record says of one of its fields. -/
inductive Slot where
  /-- The field has this value. -/
  | given (j : Json)
  /-- The record is an object without this field. -/
  | missing
  /-- The record is an array that ends before this field. -/
  | beyond

/-- What an object says of the field of this name, if it does not say it twice. -/
def slot? (fields : List (String × Json)) (name : String) : Option Slot :=
  match fields.filter (·.1 = name) with
  | [] => some .missing
  | [(_, j)] => some (.given j)
  | _ => none

/-- What a record says of the fields of these names. -/
def slots? (names : List String) : Json → Option (List Slot)
  | .object fields => names.mapM (slot? fields)
  | .array items =>
    if items.length ≤ names.length then
      some (items.map .given ++ List.replicate (names.length - items.length) .beyond)
    else none
  | _ => none

namespace Slot

def required? {α : Type} (decode : Json → Option α) : Slot → Option α
  | .given j => decode j
  | _ => none

/-- A field that an object may lack or set to `null`; an array must hold it. -/
def optional? {α : Type} (decode : Json → Option α) : Slot → Option (Option α)
  | .given j => j.toOption? decode
  | .missing => some none
  | .beyond => none

def orElse? {α : Type} (decode : Json → Option α) (fallback : α) : Slot → Option α
  | .given j => decode j
  | _ => some fallback

end Slot

/-- The name of an alternative that carries no data: the name itself, or an object in which the name
stands beside `null`. -/
def variant? : Json → Option String
  | .string name => some name
  | .object [(name, .null)] => some name
  | _ => none

end TwoVenues.Json

import TwoVenues.Calendar.Text
import TwoVenues.Contract.Basic
import TwoVenues.Json.Record
import TwoVenues.Pairing.Observation

/-!
# Quotes and contracts in JSON

For each record the form that is written (`toJson`) and the reader of that form (`ofJson?`). A
double that is not finite is written as `null`, which no reader of a plain double accepts.
-/

namespace TwoVenues

open Json (toFloat? toInt64? toText? variant?)

namespace Venue

def toJson : Venue → Json
  | a => .string "A"
  | b => .string "B"

def ofJson? (j : Json) : Option Venue := do
  match ← variant? j with
  | "A" => return a
  | "B" => return b
  | _ => none

end Venue

namespace Right

def toJson : Right → Json
  | call => .string "Call"
  | put => .string "Put"

def ofJson? (j : Json) : Option Right := do
  match ← variant? j with
  | "Call" => return call
  | "Put" => return put
  | _ => none

end Right

def Date.toJson (d : Date) : Json := .string d.toIsoText

def Date.ofJson? (j : Json) : Option Date := do Date.ofIsoText? (← toText? j)

namespace Contract

def toJson (c : Contract) : Json := .object [
  ("underlying", .string c.underlying),
  ("expiry", c.expiry.toJson),
  ("strike", .string c.strike),
  ("right", c.right.toJson)]

def ofJson? (j : Json) : Option Contract := do
  match ← j.slots? ["underlying", "expiry", "strike", "right"] with
  | [underlying, expiry, strike, right] =>
    return ⟨← underlying.required? toText?, ← expiry.required? Date.ofJson?,
      ← strike.required? toText?, ← right.required? Right.ofJson?⟩
  | _ => none

end Contract

namespace Quote

def toJson (q : Quote) : Json := .object [
  ("ts_ms", .int q.time),
  ("exchange", q.venue.toJson),
  ("instrument", .string q.instrument),
  ("value", .ofFloat q.value.toFloat)]

def ofJson? (j : Json) : Option Quote := do
  match ← j.slots? ["ts_ms", "exchange", "instrument", "value"] with
  | [time, venue, instrument, value] =>
    return ⟨← time.required? toInt64?, ← venue.required? Venue.ofJson?,
      ← instrument.required? toText?, .ofFloat (← value.required? toFloat?)⟩
  | _ => none

end Quote

namespace PricePoint

def toJson (p : PricePoint) : Json := .object [
  ("ts_ms", .int p.time),
  ("value", .ofFloat p.value)]

def ofJson? (j : Json) : Option PricePoint := do
  match ← j.slots? ["ts_ms", "value"] with
  | [time, value] => return ⟨← time.required? toInt64?, ← value.required? toFloat?⟩
  | _ => none

end PricePoint

namespace Observation

def toJson (o : Observation) : Json := .object [
  ("ts_ms", .int o.time),
  ("instrument", .string o.instrument),
  ("value_a", .ofFloat o.valueA),
  ("value_b", .ofFloat o.valueB),
  ("instrument_a", .string o.nameA),
  ("instrument_b", .string o.nameB),
  ("reference_price", .ofOption .ofFloat o.referencePrice),
  ("value_b_native", .ofOption .ofFloat o.nativeB)]

def ofJson? (j : Json) : Option Observation := do
  match ← j.slots? ["ts_ms", "instrument", "value_a", "value_b", "instrument_a", "instrument_b",
      "reference_price", "value_b_native"] with
  | [time, instrument, valueA, valueB, nameA, nameB, price, native] =>
    return {
      time := ← time.required? toInt64?
      instrument := ← instrument.required? toText?
      valueA := ← valueA.required? toFloat?
      valueB := ← valueB.required? toFloat?
      nameA := ← nameA.required? toText?
      nameB := ← nameB.required? toText?
      referencePrice := ← price.optional? toFloat?
      nativeB := ← native.optional? toFloat? }
  | _ => none

end Observation

end TwoVenues

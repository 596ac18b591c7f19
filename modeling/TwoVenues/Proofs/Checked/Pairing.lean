import TwoVenues.Pairing.Returns
import TwoVenues.Proofs.Checked.Names
import TwoVenues.Proofs.Checked.Orders
import TwoVenues.Proofs.Pairing.Invariance

/-!
# Pairing, with checked differences

The keys of venue B that remain unmatched are counted as a difference of two numbers, and a return
is the change between the two members of a window. Matched keys are keys of venue B too, and windows
of two have two members.

* `side_eq`, `align_eq` : the quotes of a venue beside their keys, and the alignment;
* `changes_eq`, `returns_eq` : returns.
-/

namespace TwoVenues.Checked

/-! ## Alignment -/

def side (venue : Venue) (quotes : List Quote) : Option (List KeyedQuote) :=
  (quotes.filter (·.venue = venue)).mapM fun q => do
    let instrument ← key q.instrument
    return (⟨q.time, instrument⟩, q)

/-- The number of keys of venue B less the number of keys of venue A that were matched. -/
def unmatchedB (sideA sideB : List KeyedQuote) : Option Nat :=
  let keysA := sortedKeys (sideA.map Prod.fst)
  let keysB := sortedKeys (sideB.map Prod.fst)
  sub? keysB.length (keysA.filter fun key => keysB.contains key).length

/-- The observations of an alignment, and its counts. -/
def align (quotesA quotesB : List Quote) (reference : Option (List PricePoint)) :
    Option (List Observation × AlignmentCounts) := do
  let sideA ← side .a quotesA
  let sideB ← side .b quotesB
  let unmatchedB ← unmatchedB sideA sideB
  let pairs := sortWith QuotePair.order (Join.pairs sideA sideB)
  let rows := pairs.map QuotePair.toObservation
  let rows := match reference with
    | none => rows
    | some points => Conversion.convert points rows
  return (rows,
    { samplesA := sideA.length
      samplesB := sideB.length
      misrouted := quotesA.countP (·.venue ≠ .a) + quotesB.countP (·.venue ≠ .b)
      paired := rows.length
      unmatchedA := Join.unmatched sideA sideB
      unmatchedB
      unresolvedReference :=
        if reference.isSome then rows.countP (·.referencePrice.isNone) else 0 })

theorem side_eq (venue : Venue) (quotes : List Quote) :
    side venue quotes = some (Join.side venue quotes) :=
  mapM_eq_some_map fun q _ => by
    rw [key_eq]
    rfl

theorem unmatchedB_eq (sideA sideB : List KeyedQuote) :
    unmatchedB sideA sideB = some (Join.unmatched sideB sideA) := by
  have henumerates : ∀ keyed : List KeyedQuote,
      Join.Enumerates (sortedKeys (keyed.map Prod.fst)) keyed := fun keyed =>
    ⟨nodup_sortedKeys _, fun key => mem_sortedKeys⟩
  have hmatched : ∀ keysA keysB : List JoinKey, keysA.Nodup →
      (keysA.filter fun key => keysB.contains key).length ≤ keysB.length := by
    intro keysA keysB hnodup
    refine (List.subperm_of_subset (hnodup.filter _) fun key hkey => ?_).length_le
    simpa using (List.mem_filter.1 hkey).2
  unfold unmatchedB
  rw [sub?_of_le (hmatched _ _ (nodup_sortedKeys _)),
    (henumerates sideA).length_sub_matched (henumerates sideB)]

theorem align_eq (quotesA quotesB : List Quote) (reference : Option (List PricePoint)) :
    align quotesA quotesB reference =
      some (TwoVenues.align quotesA quotesB reference,
        alignmentCounts quotesA quotesB reference) := by
  unfold align
  simp only [side_eq, unmatchedB_eq, Option.bind_eq_bind, Option.bind_some]
  rfl

/-! ## Returns -/

def changes (rows : List Observation) : Option (List Observation) := do
  let steps ← (windows 2 rows).mapM fun pair => do
    let before ← pair[0]?
    let after ← pair[1]?
    return Returns.step? before after
  return steps.filterMap id

def returns (rows : List Observation) : Option (List Observation) := do
  let parts ← (groupsBy (·.instrument) rows).mapM fun (_, group) =>
    changes (sortWith timeOrder group)
  return parts.flatten

theorem changes_eq (rows : List Observation) : changes rows = some (Returns.changes rows) := by
  unfold changes Returns.changes
  rw [windows_two, List.mapM_map, mapM_eq_some_map (g := fun p => Returns.step? p.1 p.2)]
  · rw [Option.bind_eq_bind, Option.bind_some, List.filterMap_map]
    rfl
  · intro p _
    rfl

theorem returns_eq (rows : List Observation) : returns rows = some (Returns.ofLevels rows) := by
  unfold returns Returns.ofLevels
  simp only [sortWith_timeOrder]
  rw [mapM_eq_some_map fun group _ => changes_eq (Observation.byTime group.2)]
  rfl

end TwoVenues.Checked

import TwoVenues.Contract.Name
import TwoVenues.Grouping
import TwoVenues.Pairing.Observation

/-!
# Joining the venues

Quotes of the two venues pair when they have the same key: the same time and the same contract.
Times must agree exactly. All quotes of venue A with a key pair with all quotes of venue B with
that key. Pairs are put in order by time, contract, the venues' names for it and the values, which
two pairs in the same place of that order have in common (`QuotePair.order_eq_iff`).
-/

namespace TwoVenues

/-- What quotes are joined on. -/
structure JoinKey where
  time : Time
  /-- The canonical name of the contract, or the name itself if it names no contract. -/
  instrument : String
deriving DecidableEq

namespace JoinKey

/-- The order of keys: by time, and then by contract. -/
def order : JoinKey → JoinKey → Ordering :=
  compareLex (compareOn (·.time)) (compareOn (·.instrument))

instance : Ord JoinKey := ⟨order⟩

instance : Std.TransOrd JoinKey := by
  change Std.TransCmp order
  unfold order
  infer_instance

instance : Std.LawfulEqOrd JoinKey where
  eq_of_compare {x y} h := by
    obtain ⟨ht, hi⟩ := compareLex_eq_eq.1 h
    obtain ⟨_, _⟩ := x
    obtain ⟨_, _⟩ := y
    exact congr (congrArg JoinKey.mk (Std.LawfulEqCmp.eq_of_compare ht))
      (Std.LawfulEqCmp.eq_of_compare hi)

def ofQuote (q : Quote) : JoinKey := ⟨q.time, Contract.key q.instrument⟩

end JoinKey

/-- A quote beside its key. -/
abbrev KeyedQuote := JoinKey × Quote

/-- Quotes of the two venues with one key. -/
structure QuotePair where
  key : JoinKey
  a : Quote
  b : Quote
deriving DecidableEq

namespace QuotePair

/-- The order of pairs. -/
def order : QuotePair → QuotePair → Ordering :=
  compareLex (compareOn (·.key.time)) <|
  compareLex (compareOn (·.key.instrument)) <|
  compareLex (compareOn (·.a.instrument)) <|
  compareLex (compareOn (·.b.instrument)) <|
  compareLex (compareOn (·.a.value.totalKey)) (compareOn (·.b.value.totalKey))

instance : Std.TransCmp order := by
  unfold order
  infer_instance

theorem order_eq_iff {x y : QuotePair} :
    order x y = .eq ↔ x.key.time = y.key.time ∧ x.key.instrument = y.key.instrument ∧
      x.a.instrument = y.a.instrument ∧ x.b.instrument = y.b.instrument ∧
      x.a.value = y.a.value ∧ x.b.value = y.b.value := by
  have h1 : x.a.value.totalKey = y.a.value.totalKey ↔ x.a.value = y.a.value :=
    ⟨Double.Signed.totalKey_injective, congrArg _⟩
  have h2 : x.b.value.totalKey = y.b.value.totalKey ↔ x.b.value = y.b.value :=
    ⟨Double.Signed.totalKey_injective, congrArg _⟩
  simp only [order, compareLex_eq_eq, compareOn, Std.compare_eq_iff_eq, h1, h2]

def sort (pairs : List QuotePair) : List QuotePair :=
  sortBy (fun x y => (order x y).isLE) pairs

/-- The observation that two quotes with one key make. -/
def toObservation (p : QuotePair) : Observation where
  time := p.key.time
  instrument := p.key.instrument
  valueA := p.a.value.toFloat
  valueB := p.b.value.toFloat
  nameA := p.a.instrument
  nameB := p.b.instrument

end QuotePair

namespace Join

/-- The quotes of a venue, each beside its key; quotes of the other venue are left out. -/
def side (venue : Venue) (quotes : List Quote) : List KeyedQuote :=
  (quotes.filter (·.venue = venue)).map fun q => (JoinKey.ofQuote q, q)

def matching (key : JoinKey) (quotes : List KeyedQuote) : List Quote :=
  (quotes.filter (·.1 = key)).map Prod.snd

/-- All pairs of quotes with one key. -/
def pairs (sideA sideB : List KeyedQuote) : List QuotePair :=
  (sortedKeys (sideA.map Prod.fst)).flatMap fun key =>
    (matching key sideA).flatMap fun x => (matching key sideB).map fun y => ⟨key, x, y⟩

/-- The observations that the pairs make, in the order of pairs. -/
def observations (sideA sideB : List KeyedQuote) : List Observation :=
  (QuotePair.sort (pairs sideA sideB)).map QuotePair.toObservation

/-- The number of keys of one side that the other side does not have. -/
def unmatched (one other : List KeyedQuote) : Nat :=
  (sortedKeys (one.map Prod.fst)).countP fun key => !(other.map Prod.fst).contains key

end Join

end TwoVenues

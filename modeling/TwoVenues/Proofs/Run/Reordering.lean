import TwoVenues.Proofs.Pairing.Conversion
import TwoVenues.Proofs.Pairing.Invariance
import TwoVenues.Proofs.Query.Reference
import TwoVenues.Proofs.Query.Reordering
import TwoVenues.Proofs.Run.Stages

/-!
# Responses in another order lead to the same run

Up to the alignment the order of a response shows only in the order of the quotes, and an alignment
forgets it. The one place where it could come through is the price at a time, which adds up the
reference points at that time from left to right; it does not if there is at most one.

* `Conversion.convert_congr` : a conversion sees only the prices at the observed times;
* `Conversion.priceAt?_perm` : reference points in another order;
* `Response.HasSinglePrices` : at no time does the reference have two finite points;
* `Run.ofLabelled_perm`, `Run.ofResponse_reordering` : the run on quotes and on responses in another
  order;
* `Run.response_order_irrelevant` : the run on the text of a response.
-/

namespace TwoVenues

/-! ## Prices -/

namespace Conversion
variable {points points' : List PricePoint}

theorem convert_congr (h : ∀ time, priceAt? points time = priceAt? points' time)
    (rows : List Observation) : convert points rows = convert points' rows := by
  have hforward : ∀ last, forward points last rows = forward points' last rows := by
    induction rows with
    | nil => exact fun _ => rfl
    | cons o rows ih =>
      intro last
      rw [forward, forward, h, ih]
  exact hforward none

theorem valuesAt_perm (h : points.Perm points') (time : Time) :
    (valuesAt points time).Perm (valuesAt points' time) :=
  (h.filter _).map _

theorem priceAt?_perm (h : points.Perm points') {time : Time}
    (hsingle : (valuesAt points time).length ≤ 1) :
    priceAt? points time = priceAt? points' time := by
  have hvalues : valuesAt points time = valuesAt points' time := by
    have hperm := valuesAt_perm h time
    -- a list with at most one member has one order
    match hlist : valuesAt points time with
    | [] => rw [hlist] at hperm; exact hperm.nil_eq
    | [value] => rw [hlist] at hperm; exact hperm.singleton_eq
    | _ :: _ :: _ => simp [hlist] at hsingle
  rw [priceAt?_eq, priceAt?_eq, meanAt, meanAt, hvalues]

end Conversion

/-- No time has two finite points. -/
def Reference.IsSingle (points : List PricePoint) : Prop :=
  ∀ time, (Conversion.valuesAt points time).length ≤ 1

/-- At no time are there two finite points of the reference that the settings ask for. -/
def Response.HasSinglePrices (s : Settings) (r : Response) : Prop :=
  ∀ quotes, r.quotes = .ok quotes → ∀ points, Run.points? s quotes = some points →
    Reference.IsSingle points

namespace Run
variable {s : Settings} {filter : Option String} {run : Run}

/-! ## Quotes -/

theorem points?_perm {quotes quotes' : List LabelledQuote} (h : quotes.Perm quotes') :
    Option.Rel List.Perm (points? s quotes) (points? s quotes') := by
  have hchoice : Reference.choose? s.alignment quotes = Reference.choose? s.alignment quotes' :=
    Reference.choose?_congr s.alignment fun name => (h.map _).mem_iff
  unfold points? reference?
  by_cases hconvert : s.alignment.convertWithReference
  · rw [if_pos hconvert, if_pos hconvert, Reference.select?, Reference.select?, ← hchoice]
    cases Reference.choose? s.alignment quotes with
    | none => exact .none
    | some instrument => exact .some (Reference.pointsOf_perm h instrument)
  · rw [if_neg hconvert, if_neg hconvert]
    exact .none

theorem observed_perm {sides sides' : Sides} (hA : sides.a.Perm sides'.a)
    (hB : sides.b.Perm sides'.b) {points points' : Option (List PricePoint)}
    (hpoints : Option.Rel List.Perm points points')
    (hsingle : ∀ p, points = some p → Reference.IsSingle p) :
    observed s sides points = observed s sides' points' := by
  have halign : align sides.a sides.b points = align sides'.a sides'.b points' := by
    rw [← align_perm hA hB points]
    cases hpoints with
    | none => rfl
    | some hperm =>
      exact Conversion.convert_congr
        (fun time => Conversion.priceAt?_perm hperm (hsingle _ rfl time)) _
  unfold observed
  rw [halign]

theorem ofLabelled_perm {quotes quotes' : List LabelledQuote} (h : quotes.Perm quotes')
    (hsingle : ∀ points, points? s quotes = some points → Reference.IsSingle points)
    (hrun : ofLabelled s quotes filter = .ok run) : ofLabelled s quotes' filter = .ok run := by
  obtain ⟨sides, hsides, rfl⟩ := ofLabelled_eq_ok_iff.1 hrun
  obtain ⟨sides', hsides', hA, hB⟩ := Sides.split_perm h hsides
  refine ofLabelled_eq_ok_iff.2 ⟨sides', hsides', ?_⟩
  unfold ofQuotes
  rw [observed_perm hA hB (points?_perm h) hsingle]

/-! ## Responses -/

section Responses
variable {r r' : Response} {body body' : String}

theorem ofResponse_reordering (h : r.IsReordering r') (hsingle : r.HasSinglePrices s)
    (hrun : ofResponse s r filter = .ok run) : ofResponse s r' filter = .ok run := by
  obtain ⟨quotes, hquotes, hlabelled⟩ := ofResponse_eq_ok_iff.1 hrun
  obtain ⟨quotes', hquotes', hperm⟩ := Response.quotes_perm h hquotes
  exact ofResponse_eq_ok_iff.2
    ⟨quotes', hquotes', ofLabelled_perm hperm (hsingle quotes hquotes) hlabelled⟩

theorem hasSinglePrices_reordering (h : r.IsReordering r') (hsingle : r.HasSinglePrices s) :
    r'.HasSinglePrices s := by
  intro quotes' hquotes' points' hpoints' time
  obtain ⟨quotes, hquotes, hperm⟩ := Response.quotes_perm h.symm hquotes'
  have hrel := points?_perm (s := s) hperm
  rw [hpoints'] at hrel
  generalize hpoints : points? s quotes = points at hrel
  cases hrel with
  | some hperm =>
    rw [(Conversion.valuesAt_perm hperm time).length_eq]
    exact hsingle quotes hquotes _ hpoints time

/-- **The order of a response does not matter.** Take the texts of two responses to queries that
succeeded, with the same series in some order and the values of each series in some order. The runs
on them are the same, or both end with a fault of the source, provided that the reference has no two
finite points at one time. -/
theorem response_order_irrelevant (hr : Response.ofText body = .ok r)
    (hr' : Response.ofText body' = .ok r') (h : r.IsReordering r')
    (hsingle : r.HasSinglePrices s) (filter : Option String) :
    (∃ run, ofText s body filter = .ok run ∧ ofText s body' filter = .ok run) ∨
    ∃ fault fault', ofText s body filter = .error (.source fault) ∧
      ofText s body' filter = .error (.source fault') := by
  rw [ofText_of_response hr, ofText_of_response hr']
  cases hrun : ofResponse s r filter with
  | ok run =>
    rw [ofResponse_reordering h hsingle hrun]
    exact .inl ⟨run, rfl, rfl⟩
  | error fault =>
    cases hrun' : ofResponse s r' filter with
    | ok run =>
      have hback := ofResponse_reordering h.symm (hasSinglePrices_reordering h hsingle) hrun'
      rw [hrun] at hback
      cases hback
    | error fault' => exact .inr ⟨fault, fault', rfl, rfl⟩

end Responses

/-- The series of the reference and of either venue for one instrument, in two orders. -/
theorem response_order_irrelevant_of_rotation :
    let s : Settings :=
      { alignment := { labelA := "a", labelB := "b", referenceCandidates := ["P"] }
        correlation := { minSamples := 2 } }
    let series := fun instrument venue values =>
      "\x7b\"metric\":\x7b\"instrument\":\"" ++ instrument ++ "\",\"exchange\":\"" ++ venue ++
        "\"\x7d,\"values\":[" ++ values ++ "]\x7d"
    let response := fun x y z =>
      "\x7b\"status\":\"success\",\"data\":\x7b\"result\":[" ++ x ++ "," ++ y ++ "," ++ z ++
        "]\x7d\x7d"
    let p := series "P" "" "[0,\"2\"]"
    let a := series "X" "a" "[0,\"1\"],[1,\"2\"]"
    ∃ run, ofText s (response p a (series "X" "b" "[0,\"1\"],[1,\"3\"]")) none = .ok run ∧
      ofText s (response (series "X" "b" "[1,\"3\"],[0,\"1\"]") p a) none = .ok run ∧
      run.results.map (·.instrument) = ["X"] := by
  intro s series response p a
  let seriesP : Series := ⟨[("instrument", "P"), ("exchange", "")], [(0, "2")]⟩
  let seriesA : Series := ⟨[("instrument", "X"), ("exchange", "a")], [(0, "1"), (1, "2")]⟩
  let seriesB : Series := ⟨[("instrument", "X"), ("exchange", "b")], [(0, "1"), (1, "3")]⟩
  let seriesB' : Series := ⟨[("instrument", "X"), ("exchange", "b")], [(1, "3"), (0, "1")]⟩
  let r : Response := ⟨"success", some [seriesP, seriesA, seriesB], none⟩
  let r' : Response := ⟨"success", some [seriesB', seriesP, seriesA], none⟩
  have hr : Response.ofText (response p a (series "X" "b" "[0,\"1\"],[1,\"3\"]")) = .ok r :=
    toOption_eq_some_iff.1 (by decide +kernel)
  have hr' : Response.ofText (response (series "X" "b" "[1,\"3\"],[0,\"1\"]") p a) = .ok r' :=
    toOption_eq_some_iff.1 (by decide +kernel)
  have hsame : ∀ x : Series, x.IsReordering x := fun x => ⟨fun _ => rfl, .refl _⟩
  have h : r.IsReordering r' := by
    refine ⟨rfl, rfl, .some ⟨[seriesP, seriesA, seriesB'], ?_, by decide +kernel⟩⟩
    exact .cons (hsame _) (.cons (hsame _) (.cons ⟨fun _ => rfl, .swap _ _ _⟩ .nil))
  have hsingle : r.HasSinglePrices s := by
    intro quotes hquotes points hpoints time
    have hpoints' : r.quotes.toOption.map (points? s) = some (some [⟨0, 2.0⟩]) := by decide +kernel
    rw [hquotes] at hpoints'
    obtain rfl : points = [⟨0, 2.0⟩] := by simpa [Except.toOption, hpoints] using hpoints'
    exact (List.length_map ..).trans_le (List.length_filter_le _ _)
  have hresults : (ofResponse s r none).toOption.map (·.results.map (·.instrument)) =
      some ["X"] := by decide +kernel
  obtain ⟨run, hrun, hinstruments⟩ := Option.map_eq_some_iff.1 hresults
  rw [toOption_eq_some_iff] at hrun
  have hok : ofText s _ none = (ofResponse s r none).mapError .source := ofText_of_response hr
  rw [hrun] at hok
  rcases response_order_irrelevant hr hr' h hsingle none with ⟨run', hrun', hsame'⟩ | ⟨_, _, hfault, _⟩
  · obtain rfl : run = run' := Except.ok.inj (hok.symm.trans hrun')
    exact ⟨run, hrun', hsame', hinstruments⟩
  · cases hok.symm.trans hfault

end Run

end TwoVenues

import TwoVenues.Proofs.Query.Insertion
import TwoVenues.Proofs.Query.Reordering
import TwoVenues.Proofs.Run.Stages

/-!
# Third venues do not interfere

The series of a third venue go through the reading and the choice of the reference together with
those of the two venues. Behind the split nothing is left of them.

* `Run.reference?_insert`, `Run.ofLabelled_insert` : the run on quotes;
* `Run.third_venues_do_not_interfere` : the run on the text of a response.
-/

namespace TwoVenues.Run
variable {s : Settings}

theorem reference?_insert {quotes quotes' : List LabelledQuote}
    (h : Inserted (LabelledQuote.IsForeign s.alignment) quotes quotes') :
    reference? s quotes' = reference? s quotes := by
  unfold reference?
  by_cases hconvert : s.alignment.convertWithReference
  · rw [if_pos hconvert, if_pos hconvert]
    exact Reference.select?_insert (h.imp fun q hq => hq.unqualified hconvert)
  · rw [if_neg hconvert, if_neg hconvert]

theorem ofLabelled_insert {quotes quotes' : List LabelledQuote}
    (h : Inserted (LabelledQuote.IsForeign s.alignment) quotes quotes')
    (filter : Option String) : ofLabelled s quotes' filter = ofLabelled s quotes filter := by
  unfold ofLabelled
  rw [Sides.split_insert h, reference?_insert h]

theorem ofResponse_insert {r r' : Response} (h : r.IsExtension s.alignment r')
    (filter : Option String) : ofResponse s r' filter = ofResponse s r filter := by
  unfold ofResponse
  rcases Response.quotes_insert h with
    ⟨cause, hquotes, hquotes'⟩ | ⟨quotes, quotes', hquotes, hquotes', hinserted⟩
  · rw [hquotes, hquotes']
  · rw [hquotes, hquotes']
    exact ofLabelled_insert hinserted filter

/-- **Third venues do not interfere.** Take the texts of two responses to queries that succeeded,
the second with further series anywhere among those of the first, free of faults and of venues other
than the two. If values are converted, let none of their instruments be a candidate for the
reference or a perpetual that may stand in for one. Then both runs are the same, and fail alike. -/
theorem third_venues_do_not_interfere {body body' : String} {r r' : Response}
    (hr : Response.ofText body = .ok r) (hr' : Response.ofText body' = .ok r')
    (h : r.IsExtension s.alignment r') (filter : Option String) :
    ofText s body' filter = ofText s body filter := by
  rw [ofText_of_response hr, ofText_of_response hr', ofResponse_insert h]

/-- A series of another venue between those of the two, for an instrument that both quote. -/
theorem third_venues_do_not_interfere_between :
    let s : Settings :=
      { alignment := { labelA := "a", labelB := "b", referenceCandidates := ["P"] }
        correlation := { minSamples := 2 } }
    let series := fun instrument venue values =>
      "\x7b\"metric\":\x7b\"instrument\":\"" ++ instrument ++ "\",\"exchange\":\"" ++ venue ++
        "\"\x7d,\"values\":[" ++ values ++ "]\x7d"
    let response := fun all =>
      "\x7b\"status\":\"success\",\"data\":\x7b\"result\":[" ++ all ++ "]\x7d\x7d"
    let a := series "X" "a" "[0,\"1\"],[1,\"2\"]"
    let b := series "X" "b" "[0,\"1\"],[1,\"3\"]"
    let p := series "P" "b" "[0,\"2\"]"
    let c := series "X" "c" "[0,\"inf\"]"
    ∃ run, ofText s (response (p ++ "," ++ a ++ "," ++ b)) none = .ok run ∧
      ofText s (response (p ++ "," ++ a ++ "," ++ c ++ "," ++ b)) none = .ok run ∧
      run.results.map (·.instrument) = ["X"] := by
  intro s series response a b p c
  let seriesA : Series := ⟨[("instrument", "X"), ("exchange", "a")], [(0, "1"), (1, "2")]⟩
  let seriesB : Series := ⟨[("instrument", "X"), ("exchange", "b")], [(0, "1"), (1, "3")]⟩
  let seriesP : Series := ⟨[("instrument", "P"), ("exchange", "b")], [(0, "2")]⟩
  let seriesC : Series := ⟨[("instrument", "X"), ("exchange", "c")], [(0, "inf")]⟩
  let r : Response := ⟨"success", some [seriesP, seriesA, seriesB], none⟩
  let r' : Response := ⟨"success", some [seriesP, seriesA, seriesC, seriesB], none⟩
  have hr : Response.ofText (response (p ++ "," ++ a ++ "," ++ b)) = .ok r :=
    toOption_eq_some_iff.1 (by decide +kernel)
  have hr' : Response.ofText (response (p ++ "," ++ a ++ "," ++ c ++ "," ++ b)) = .ok r' :=
    toOption_eq_some_iff.1 (by decide +kernel)
  have hforeign : seriesC.IsForeign s.alignment := by
    have hquotes : seriesC.quotes.toOption = some [⟨0, some "c", "X", .ofFloat Double.infinity⟩] :=
      by decide +kernel
    refine ⟨Series.sound_of_quotes (toOption_eq_some_iff.1 hquotes) (by decide),
      ⟨"c", by decide, by decide, by decide⟩, fun _ instrument hname => ?_⟩
    obtain rfl : "X" = instrument := Option.some.inj hname
    decide
  have h : r.IsExtension s.alignment r' :=
    ⟨rfl, rfl, _, _, rfl, rfl, .keep (.keep (.insert hforeign (.keep .nil)))⟩
  have hsame := third_venues_do_not_interfere (s := s) hr hr' h none
  have hresults : (ofResponse s r none).toOption.map (·.results.map (·.instrument)) =
      some ["X"] := by decide +kernel
  obtain ⟨run, hrun, hinstruments⟩ := Option.map_eq_some_iff.1 hresults
  have hok : ofText s (response (p ++ "," ++ a ++ "," ++ b)) none = .ok run := by
    rw [ofText_of_response hr, toOption_eq_some_iff.1 hrun]
    rfl
  exact ⟨run, hok, hsame.trans hok, hinstruments⟩

end TwoVenues.Run

import TwoVenues.Proofs.Comparison.Batch
import TwoVenues.Proofs.Run.Stages

/-!
# Runs on one instrument

A filter may as well be applied after a run as before it. The comparison of an instrument does not
depend on what other instruments there are, and comparisons that are left out leave the ranking of
the others as it is.

* `Run.narrow` : a run with the comparisons of one instrument only;
* `Run.length_results_narrow` : an instrument is compared at most once;
* `Run.ofQuotes_filter`, `Run.ofText_filter` : a run with a filter is a run without one, narrowed;
* `Run.filter_narrows` : all of this, for quotes and for responses.
-/

namespace TwoVenues.Run

def narrow (instrument : String) (run : Run) : Run :=
  let results := run.results.filter (·.instrument = instrument)
  ⟨run.observations, results, Summary.ofComparisons results⟩

variable (s : Settings) (instrument : String)

/-! ## Quotes -/

theorem ofQuotes_filter (sides : Sides) (reference : Option (List PricePoint)) :
    ofQuotes s sides reference (some instrument) =
      (ofQuotes s sides reference none).narrow instrument := by
  have hresults : (ofQuotes s sides reference (some instrument)).results =
      (ofQuotes s sides reference none).results.filter (·.instrument = instrument) := by
    simp only [ofQuotes, Comparison.filter_rank]
    rw [Comparison.ofObservations_filter s.correlation (some instrument)]
    simp only [Option.all_some, eq_comm]
  calc ofQuotes s sides reference (some instrument)
      = ⟨observed s sides reference, (ofQuotes s sides reference (some instrument)).results,
          Summary.ofComparisons (ofQuotes s sides reference (some instrument)).results⟩ := rfl
    _ = (ofQuotes s sides reference none).narrow instrument := by rw [hresults]; rfl

/-- An instrument is compared at most once. -/
theorem length_results_narrow (sides : Sides) (reference : Option (List PricePoint)) :
    ((ofQuotes s sides reference none).narrow instrument).results.length ≤ 1 := by
  have hperm := perm_sortBy Comparison.ranksBefore
    (Comparison.ofObservations s.correlation none (observed s sides reference))
  have hnodup : ((ofQuotes s sides reference none).results.map (·.instrument)).Nodup :=
    (hperm.map _).nodup_iff.2 (Comparison.nodup_instrument s.correlation none _)
  exact length_filter_key_le_one hnodup instrument

/-! ## Responses -/

theorem ofLabelled_filter (quotes : List LabelledQuote) :
    ofLabelled s quotes (some instrument) =
      (ofLabelled s quotes none).map (narrow instrument) := by
  unfold ofLabelled
  cases Sides.split s.alignment quotes with
  | error fault => rfl
  | ok sides => exact congrArg Except.ok (ofQuotes_filter s instrument sides _)

theorem ofResponse_filter (r : Response) :
    ofResponse s r (some instrument) = (ofResponse s r none).map (narrow instrument) := by
  unfold ofResponse
  cases r.quotes with
  | error fault => rfl
  | ok quotes => exact ofLabelled_filter s instrument quotes

theorem ofText_filter (body : String) :
    ofText s body (some instrument) = (ofText s body none).map (narrow instrument) := by
  unfold ofText
  cases Response.ofText body with
  | error fault => rfl
  | ok r =>
    change (ofResponse s r (some instrument)).mapError Fault.source =
      ((ofResponse s r none).mapError Fault.source).map (narrow instrument)
    rw [ofResponse_filter]
    cases ofResponse s r none <;> rfl

/-- **A filter may be applied before a run or after it**, to the same effect: the observations stay
as they are, and of the comparisons those of the instrument remain, of which there is at most one. A
response that ends a run with a fault ends it with the same fault under any filter. -/
theorem filter_narrows :
    (∀ sides reference,
      let run := ofQuotes s sides reference (some instrument)
      run = (ofQuotes s sides reference none).narrow instrument ∧ run.results.length ≤ 1) ∧
    ∀ body,
      ofText s body (some instrument) = (ofText s body none).map (narrow instrument) ∧
      ∀ run, ofText s body (some instrument) = .ok run → run.results.length ≤ 1 := by
  have hlength : ∀ sides reference,
      (ofQuotes s sides reference (some instrument)).results.length ≤ 1 := by
    intro sides reference
    rw [ofQuotes_filter]
    exact length_results_narrow s instrument sides reference
  refine ⟨fun sides reference => ⟨ofQuotes_filter s instrument sides reference,
    hlength sides reference⟩, fun body => ⟨ofText_filter s instrument body, ?_⟩⟩
  intro run hrun
  obtain ⟨sides, reference, rfl⟩ := exists_ofQuotes hrun
  exact hlength sides reference

/-- A response with one series of either venue for one instrument, which is compared once. -/
theorem filter_narrows_to_one :
    let s : Settings :=
      { alignment := { labelA := "a", labelB := "b", convertWithReference := false }
        correlation := { minSamples := 2 } }
    let body := "\x7b\"status\":\"success\",\"data\":\x7b\"result\":[" ++
      "\x7b\"metric\":\x7b\"instrument\":\"X\",\"exchange\":\"a\"\x7d,\"values\":[[0,\"1\"],[1,\"2\"]]\x7d," ++
      "\x7b\"metric\":\x7b\"instrument\":\"X\",\"exchange\":\"b\"\x7d,\"values\":[[0,\"1\"],[1,\"3\"]]\x7d]\x7d\x7d"
    ∃ run, ofText s body (some "X") = .ok run ∧ run.results.map (·.instrument) = ["X"] ∧
      run.results.length ≤ 1 := by
  intro s body
  have hresults : (ofText s body (some "X")).toOption.map (·.results.map (·.instrument)) =
      some ["X"] := by decide +kernel
  obtain ⟨run, hrun, hinstruments⟩ := Option.map_eq_some_iff.1 hresults
  rw [toOption_eq_some_iff] at hrun
  exact ⟨run, hrun, hinstruments, ((filter_narrows s "X").2 body).2 run hrun⟩

end TwoVenues.Run

import TwoVenues.Proofs.Archive.Ranges
import TwoVenues.Proofs.Run.Stages

/-!
# Which runs and reports survive being written

A run or a presence report can be read back from its written form if and only if each of its plain
doubles is finite, and then it is read as it was. Not all of them are: the averages of a run without
comparisons are not numbers, and neither are the correlations of a flat series or of a size whose
presence never changes.

* `Run.fits_ofText` : the run on a response fits its written form;
* `Run.not_isFinite_of_results_eq_nil` : a run without comparisons is not finite;
* `archive_keeps_finite` : what is read back.
-/

namespace TwoVenues

open Json (IsInt64)

namespace Run
variable {s : Settings} {body : String} {filter : Option String} {run : Run}

theorem fits_ofText (h : ofText s body filter = .ok run) (hrows : IsInt64 run.observations.length) :
    run.Fits := by
  obtain ⟨r, -, hresponse⟩ := ofText_eq_ok_iff.1 h
  obtain ⟨quotes, hquotes, hlabelled⟩ := ofResponse_eq_ok_iff.1 hresponse
  obtain ⟨sides, hsides, rfl⟩ := ofLabelled_eq_ok_iff.1 hlabelled
  refine fits_ofQuotes (fun q hq => ?_) hrows
  obtain ⟨-, rfl⟩ := Sides.split_eq_ok_iff.1 hsides
  obtain ⟨l, hl, -, rfl⟩ := Sides.mem_side.1 hq
  exact Response.isInt64_of_mem_quotes hquotes l hl

/-- Of no comparisons there is no average. -/
theorem not_isFinite_of_results_eq_nil (h : ofText s body filter = .ok run)
    (hresults : run.results = []) : ¬run.IsFinite := by
  have hnone : ¬(Summary.ofComparisons []).IsFinite := by decide
  obtain ⟨sides, reference, rfl⟩ := exists_ofQuotes h
  rintro ⟨-, -, hsummary⟩
  change (Summary.ofComparisons (ofQuotes s sides reference filter).results).IsFinite at hsummary
  rw [hresults] at hsummary
  exact hnone hsummary

end Run

/-- **A record is read back from its written form just if each of its plain doubles is finite**, and
then as it was; this holds for the run on any response and for the presence report on any levels. In
particular a run without comparisons is never read back. -/
theorem archive_keeps_finite (s : Settings) :
    (∀ body filter run, Run.ofText s body filter = .ok run → IsInt64 run.observations.length →
      (∀ read, Run.ofJson? run.toJson = some read ↔ run.IsFinite ∧ run = read) ∧
      (run.results = [] → Run.ofJson? run.toJson = none)) ∧
    ∀ targets levels, levels.length < UInt64.size →
      let report := PresenceReport.ofLevels s.presence targets levels
      ∀ read, PresenceReport.ofJson? report.toJson = some read ↔ report.IsFinite ∧ report = read := by
  constructor
  · intro body filter run hrun hrows
    have hread := Run.readsBack run (Run.fits_ofText hrun hrows)
    refine ⟨hread, fun hresults => Option.eq_none_iff_forall_ne_some.2 fun read h => ?_⟩
    exact Run.not_isFinite_of_results_eq_nil hrun hresults ((hread read).1 h).1
  · intro targets levels hlevels report
    exact PresenceReport.readsBack report (PresenceReport.fits_ofLevels s.presence targets hlevels)

/-- One instrument with two observations, and two sizes that take turns. -/
theorem archive_keeps_finite_of_two :
    let s : Settings :=
      { alignment := { labelA := "a", labelB := "b", convertWithReference := false }
        correlation := { minSamples := 2 } }
    let body := "\x7b\"status\":\"success\",\"data\":\x7b\"result\":[" ++
      "\x7b\"metric\":\x7b\"instrument\":\"X\",\"exchange\":\"a\"\x7d,\"values\":[[0,\"1\"],[1,\"2\"]]\x7d," ++
      "\x7b\"metric\":\x7b\"instrument\":\"X\",\"exchange\":\"b\"\x7d,\"values\":[[0,\"1\"],[1,\"3\"]]\x7d]\x7d\x7d"
    let report := PresenceReport.ofLevels s.presence [.ofFloat 10.0, .ofFloat 20.0]
      [⟨0, 10.0, 1.0⟩, ⟨1, 20.0, 1.0⟩]
    (∃ run, Run.ofText s body none = .ok run ∧ run.results.length = 1 ∧
      Run.ofJson? run.toJson = some run) ∧
    report.correlations.length = 1 ∧ PresenceReport.ofJson? report.toJson = some report := by
  intro s body report
  have hfacts : (Run.ofText s body none).toOption.map (fun run =>
      (run.results.length, run.observations.length, decide run.IsFinite)) = some (1, 2, true) := by
    decide +kernel
  obtain ⟨run, hrun, hrunFacts⟩ := Option.map_eq_some_iff.1 hfacts
  rw [toOption_eq_some_iff] at hrun
  obtain ⟨hresults, hobservations, hfinite⟩ : run.results.length = 1 ∧
      run.observations.length = 2 ∧ run.IsFinite := by
    simpa using hrunFacts
  obtain ⟨hruns, hreports⟩ := archive_keeps_finite s
  have hrows : IsInt64 run.observations.length := by
    rw [hobservations]
    decide
  exact ⟨⟨run, hrun, hresults, ((hruns body none run hrun hrows).1 run).2 ⟨hfinite, rfl⟩⟩,
    by decide +kernel,
    (hreports _ _ (by decide) report).2 ⟨by decide +kernel, rfl⟩⟩

/-- The run on a response without series, and the report on a single time, cannot be read back. -/
theorem exists_lost_record :
    let s : Settings := {}
    let body := "\x7b\"status\":\"success\",\"data\":\x7b\"result\":[]\x7d\x7d"
    let report := PresenceReport.ofLevels s.presence [.ofFloat 10.0, .ofFloat 20.0]
      [⟨0, 10.0, 1.0⟩]
    s.check = .ok s ∧
    (∃ run, Run.ofText s body none = .ok run ∧ Run.ofJson? run.toJson = none) ∧
    PresenceReport.ofJson? report.toJson = none := by
  intro s body report
  have hlost : (Run.ofText s body none).toOption.map (fun run => Run.ofJson? run.toJson) =
      some none := by decide +kernel
  obtain ⟨run, hrun, hread⟩ := Option.map_eq_some_iff.1 hlost
  exact ⟨Settings.check_eq_ok_iff.2 ⟨by decide +kernel, rfl⟩,
    ⟨run, toOption_eq_some_iff.1 hrun, hread⟩, by decide +kernel⟩

end TwoVenues

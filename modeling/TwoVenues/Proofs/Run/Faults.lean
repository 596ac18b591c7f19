import TwoVenues.Proofs.Query.Faults
import TwoVenues.Proofs.Run.Stages

/-!
# What ends a run

A run passes through stages that each have their own way with trouble: a name that cannot be read
pairs with nothing, an instrument with too few observations is left out, a value that is not a
number stays one. None of this is a fault of the run. Only the text of a response and the response
itself can be at fault.

* `Run.ofResponse_cases` : a run on a response ends well, or with a fault of the response;
* `Run.only_source_faults_end_runs` : the runs on texts that end with a fault, and with which.
-/

namespace TwoVenues.Run
variable {s : Settings} {filter : Option String}

/-- A response without a fault leads to a run, and one with a fault does not. -/
theorem ofResponse_cases (s : Settings) (r : Response) (filter : Option String) :
    ((∃ run, ofResponse s r filter = .ok run) ∧ ∀ cause, ¬r.HasFault cause) ∨
    ∃ cause, ofResponse s r filter = .error cause ∧ r.HasFault cause := by
  cases hquotes : r.quotes with
  | error cause =>
    refine Or.inr ⟨cause, ?_, Response.hasFault_of_quotes hquotes⟩
    rw [ofResponse, hquotes]
    rfl
  | ok quotes =>
    cases hsides : Sides.split s.alignment quotes with
    | error cause =>
      refine Or.inr ⟨cause, ?_, Response.hasFault_of_split hquotes hsides⟩
      show (r.quotes >>= fun quotes => ofLabelled s quotes filter) = .error cause
      rw [hquotes]
      show ofLabelled s quotes filter = .error cause
      rw [ofLabelled, hsides]
      rfl
    | ok sides =>
      refine Or.inl ⟨⟨ofQuotes s sides (points? s quotes) filter, ?_⟩,
        fun cause => Response.not_hasFault_of_split hquotes hsides⟩
      exact ofResponse_eq_ok_iff.2 ⟨quotes, hquotes, ofLabelled_eq_ok_iff.2 ⟨sides, hsides, rfl⟩⟩

/-- **Only faults of the data source end a run.** A run on a text fails for want of JSON exactly if
the text is not the JSON of a response. Else it fails exactly if the response has a fault, and then
with a fault that the response has; on all other texts there is a run, whatever its instruments look
like. So all faults that end a run are fatal, and none of them is about an instrument. -/
theorem only_source_faults_end_runs (s : Settings) (body : String) (filter : Option String) :
    let decoded := (Json.ofText? body).bind Response.ofJson?
    let outcome := ofText s body filter
    (outcome = .error .badJson ↔ decoded = none) ∧
    ((∃ cause, outcome = .error (.source cause)) ↔
      ∃ r, decoded = some r ∧ ∃ cause, r.HasFault cause) ∧
    ((∃ run, outcome = .ok run) ↔ ∃ r, decoded = some r ∧ ¬∃ cause, r.HasFault cause) ∧
    (∀ r cause, decoded = some r → outcome = .error (.source cause) → r.HasFault cause) ∧
    ∀ f, outcome = .error f → f.isFatal ∧ (f.kind = .json ∨ f.kind = .source) := by
  intro decoded outcome
  cases hdecoded : decoded with
  | none =>
    have houtcome : outcome = .error .badJson := by
      have htext : Response.ofText body = .error .badJson := by
        unfold Response.ofText
        rw [show (Json.ofText? body).bind Response.ofJson? = none from hdecoded]
      show ofText s body filter = _
      rw [ofText, htext]
      rfl
    rw [houtcome]
    simp [Fault.isFatal, Fault.kind, FaultKind.isFatal]
  | some r =>
    have houtcome : outcome = (ofResponse s r filter).mapError .source := by
      refine ofText_of_response ?_
      unfold Response.ofText
      rw [show (Json.ofText? body).bind Response.ofJson? = some r from hdecoded]
    rcases ofResponse_cases s r filter with ⟨⟨run, hrun⟩, hsound⟩ | ⟨cause, hcause, hfault⟩
    · have hok : outcome = .ok run := by rw [houtcome, hrun]; rfl
      rw [hok]
      simp [hsound]
    · have herror : outcome = .error (.source cause) := by rw [houtcome, hcause]; rfl
      rw [herror]
      refine ⟨by simp, ?_, ?_, ?_, ?_⟩
      · exact iff_of_true ⟨cause, rfl⟩ ⟨r, rfl, cause, hfault⟩
      · refine iff_of_false (by simp) ?_
        rintro ⟨r', hr', hnone⟩
        cases hr'
        exact hnone ⟨cause, hfault⟩
      · intro r' cause' hr' hsame
        cases hr'
        cases hsame
        exact hfault
      · intro f hf
        cases hf
        exact ⟨rfl, .inr rfl⟩

end TwoVenues.Run

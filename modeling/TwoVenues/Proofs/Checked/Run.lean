import TwoVenues.Proofs.Checked.Pairing
import TwoVenues.Proofs.Checked.Presence
import TwoVenues.Proofs.Checked.Series
import TwoVenues.Proofs.Run.Stages
import TwoVenues.Proofs.Settings

/-!
# Runs, with checked operations

The whole way from a response to ranked comparisons, made of the checked parts. Under settings without
fault it never leaves the domain of an operation, and neither do the presence report and the rolling
correlation (`operations_stay_in_domain`). Bands of presence are made without such operations.
-/

namespace TwoVenues.Checked

/-! ## Runs -/

def observed (s : Settings) (sides : Sides) (reference : Option (List PricePoint)) :
    Option (List Observation) := do
  let (levels, _) ← align sides.a sides.b reference
  if s.alignment.compareReturns then returns levels else some levels

def run (s : Settings) (sides : Sides) (reference : Option (List PricePoint))
    (filter : Option String) : Option Run := do
  let observations ← observed s sides reference
  let comparisons ← comparisons s.correlation filter observations
  let results := sortWith rankOrder comparisons
  return ⟨observations, results, Summary.ofComparisons results⟩

def runOfLabelled (s : Settings) (quotes : List LabelledQuote) (filter : Option String) :
    Option (Except SourceFault Run) :=
  match Sides.split s.alignment quotes with
  | .error fault => some (.error fault)
  | .ok sides => (run s sides (Run.points? s quotes) filter).map .ok

def runOfResponse (s : Settings) (r : Response) (filter : Option String) :
    Option (Except SourceFault Run) :=
  match r.quotes with
  | .error fault => some (.error fault)
  | .ok quotes => runOfLabelled s quotes filter

def runOfText (s : Settings) (body : String) (filter : Option String) :
    Option (Except Fault Run) :=
  match Response.ofText body with
  | .error fault => some (.error fault)
  | .ok r => (runOfResponse s r filter).map (·.mapError .source)

theorem observed_eq (s : Settings) (sides : Sides) (reference : Option (List PricePoint)) :
    observed s sides reference = some (Run.observed s sides reference) := by
  unfold observed Run.observed
  simp only [align_eq, returns_eq, Option.bind_eq_bind, Option.bind_some]
  split <;> rfl

section Runs
variable {s : Settings} (h : 0 < s.correlation.lagDivisor) (filter : Option String)
include h

theorem run_eq (sides : Sides) (reference : Option (List PricePoint)) :
    run s sides reference filter = some (Run.ofQuotes s sides reference filter) := by
  unfold run
  simp only [observed_eq, comparisons_eq h, sortWith_rankOrder, Option.bind_eq_bind,
    Option.bind_some]
  rfl

theorem runOfLabelled_eq (quotes : List LabelledQuote) :
    runOfLabelled s quotes filter = some (Run.ofLabelled s quotes filter) := by
  unfold runOfLabelled Run.ofLabelled
  cases Sides.split s.alignment quotes with
  | error fault => rfl
  | ok sides =>
    simp only [run_eq h]
    rfl

theorem runOfResponse_eq (r : Response) :
    runOfResponse s r filter = some (Run.ofResponse s r filter) := by
  unfold runOfResponse Run.ofResponse
  cases r.quotes with
  | error fault => rfl
  | ok quotes => exact runOfLabelled_eq h filter quotes

theorem runOfText_eq (body : String) :
    runOfText s body filter = some (Run.ofText s body filter) := by
  unfold runOfText Run.ofText
  cases Response.ofText body with
  | error fault => rfl
  | ok r =>
    simp only [runOfResponse_eq h]
    rfl

end Runs

/-! ## The domains of all operations -/

/-- **No operation is used outside its domain under settings without fault**: whatever they are given,
runs, presence reports and rolling correlations come out of their checked versions just as they come
out of the library, and so do names at the venues; and all that rows are sorted by is a total
preorder. -/
theorem operations_stay_in_domain {s : Settings} (hs : s.fault? = none) :
    (∀ body filter, runOfText s body filter = some (Run.ofText s body filter)) ∧
    (∀ sides reference filter,
      run s sides reference filter = some (Run.ofQuotes s sides reference filter)) ∧
    (∀ targets levels, report s.presence targets levels =
      some (PresenceReport.ofLevels s.presence targets levels)) ∧
    (∀ instrument rows, rolling s.correlation instrument rows =
      some (Comparison.rolling s.correlation instrument rows)) ∧
    ((∀ venue name, rename venue name = some (Contract.rename venue name)) ∧
      ∀ (c : Contract) naming, render c naming = some (c.render naming)) ∧
    Std.TransCmp QuotePair.order ∧ Std.TransCmp timeOrder ∧ Std.TransCmp sizeOrder ∧
      Std.TransCmp firstOrder ∧ Std.TransCmp rankOrder := by
  obtain ⟨-, -, hdivisor, -, hwindow⟩ :=
    CorrelationSettings.fault?_eq_none_iff.1 (Settings.fault?_correlation hs)
  have hpositive : 0 < s.correlation.rollingWindow := by omega
  refine ⟨?runs, ?quotes, report_eq s.presence, rolling_eq hpositive, ⟨rename_eq, render_eq⟩,
    inferInstance, inferInstance, inferInstance, inferInstance, inferInstance⟩
  case runs =>
    intro body filter
    exact runOfText_eq hdivisor filter body
  case quotes =>
    intro sides reference filter
    exact run_eq hdivisor filter sides reference

/-- Lags up to the length of the series, where nothing is left of either slice, a window of three
observations out of four, and two sizes that are always present together. -/
theorem operations_stay_in_domain_at_full_lag :
    let s : Settings :=
      { correlation := { minSamples := 2, lagDivisor := 1, rollingWindow := 3 } }
    let name := "ETH-20250531-2700-C"
    let quotes := fun (venue : Venue) (values : List Float) =>
      values.zipIdx.map fun (value, time) => (⟨time, venue, name, .ofFloat value⟩ : Quote)
    let sides : Sides := ⟨quotes .a [1.0, 3.0, 2.0, 5.0], quotes .b [2.0, 1.0, 4.0, 3.0]⟩
    let levels : List BookLevel :=
      [⟨0, 10.0, 1.0⟩, ⟨0, 25.0, 1.0⟩, ⟨1, 3.0, 1.0⟩, ⟨2, 10.0, 1.0⟩, ⟨2, 25.0, 1.0⟩]
    s.fault? = none ∧ s.correlation.maxLag 4 = 4 ∧
      (run s sides none none).map (fun r => (r.observations.length, r.results.length)) =
        some (4, 1) ∧
      (rolling s.correlation name (Run.ofQuotes s sides none none).observations).map
        (·.map (·.time)) = some [2, 3] ∧
      (report s.presence [.ofFloat 25.0, .ofFloat 3.0, .ofFloat 10.0] levels).map
        (·.groups.map (·.sizes)) = some [[.ofFloat 3.0], [.ofFloat 10.0, .ofFloat 25.0]] := by
  intro s name quotes sides levels
  have hs : s.fault? = none := by decide +kernel
  obtain ⟨-, hrun, hreport, hrolling, -⟩ := operations_stay_in_domain hs
  rw [hrun, hreport, hrolling]
  exact ⟨hs, by decide +kernel⟩

end TwoVenues.Checked

import TwoVenues.Proofs.Outcome
import TwoVenues.Run

/-!
# The stages of a run

A response is read, its series are taken apart into quotes, and the quotes are split between the
venues. From there on nothing can fail, so a run ends well exactly if it passes these stages.

* `ofLabelled_eq_ok_iff`, `ofResponse_eq_ok_iff`, `ofText_eq_ok_iff` : runs that end well;
* `exists_ofQuotes` : such a run is one on the quotes of the two venues;
* `ofText_of_response` : a run on a text that can be read.
-/

namespace TwoVenues.Run

variable {s : Settings} {quotes : List LabelledQuote} {r : Response} {body : String}
  {filter : Option String} {run : Run}

/-- The points of the reference that the settings ask for. -/
def points? (s : Settings) (quotes : List LabelledQuote) : Option (List PricePoint) :=
  (reference? s quotes).map (·.points)

theorem ofLabelled_eq_ok_iff : ofLabelled s quotes filter = .ok run ↔
    ∃ sides, Sides.split s.alignment quotes = .ok sides ∧
      ofQuotes s sides (points? s quotes) filter = run := by
  rw [ofLabelled, bind_eq_ok_iff]
  simp only [pure, Except.pure, Except.ok.injEq]
  rfl

theorem ofResponse_eq_ok_iff : ofResponse s r filter = .ok run ↔
    ∃ quotes, r.quotes = .ok quotes ∧ ofLabelled s quotes filter = .ok run :=
  bind_eq_ok_iff

theorem ofText_eq_ok_iff : ofText s body filter = .ok run ↔
    ∃ r, Response.ofText body = .ok r ∧ ofResponse s r filter = .ok run := by
  rw [ofText, bind_eq_ok_iff]
  simp only [mapError_eq_ok_iff]

theorem exists_ofQuotes (h : ofText s body filter = .ok run) :
    ∃ sides reference, ofQuotes s sides reference filter = run := by
  obtain ⟨r, -, hr⟩ := ofText_eq_ok_iff.1 h
  obtain ⟨quotes, -, hquotes⟩ := ofResponse_eq_ok_iff.1 hr
  obtain ⟨sides, -, hrun⟩ := ofLabelled_eq_ok_iff.1 hquotes
  exact ⟨sides, points? s quotes, hrun⟩

theorem ofText_of_response (h : Response.ofText body = .ok r) :
    ofText s body filter = (ofResponse s r filter).mapError .source := by
  rw [ofText, h]
  rfl

end TwoVenues.Run

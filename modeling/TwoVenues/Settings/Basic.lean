import TwoVenues.Fault
import TwoVenues.Venue

/-!
# Settings of an analysis

Three groups of settings with their defaults: how quotes are split between the venues and converted
(`AlignmentSettings`), how series are correlated (`CorrelationSettings`) and how order sizes are
followed through the book (`PresenceSettings`). `Settings.fault?` is the first reason not to use
them, and `Settings.check` admits those that have none.
-/

namespace TwoVenues

/-- Labels of the venues and the conversion of prices at venue B. -/
structure AlignmentSettings where
  labelA : String := "derive"
  labelB : String := "deribit"
  /-- Whether values of venue B are multiplied by a reference price. -/
  convertWithReference : Bool := true
  /-- Instruments to take the reference price from, the preferred one first. -/
  referenceCandidates : List String :=
    ["ETH-SPOT", "ETH-USD", "ETH-USDT", "ETH", "ETHUSD", "ETH-PERPETUAL", "ETH-PERP", "ETH_USDT",
      "ETH_USD"]
  /-- How the name of a perpetual instrument starts that may stand in for the candidates. -/
  referenceUnderlying : String := "ETH"
  perpetualMarker : String := "PERP"
  /-- Whether percentage changes are compared in place of levels. -/
  compareReturns : Bool := false

/-- Correlation, the search for a lead, and rolling windows. -/
structure CorrelationSettings where
  minSamples : Nat := 10
  maxLagCap : Nat := 20
  /-- A series of length `n` is tried at lags up to `n / lagDivisor`. -/
  lagDivisor : Nat := 4
  /-- The least number of points that two shifted series must share. -/
  minOverlap : Nat := 3
  significanceLevel : Float := 0.05
  rollingWindow : Nat := 20

/-- Presence of order sizes in the book, and the groups they form. -/
structure PresenceSettings where
  /-- How far a size in the book may be from the size that is followed. -/
  tolerance : Float := 0.1
  clusterMinCorrelation : Float := 0.8
  clusterMaxPValue : Float := 0.05
  bandWidthPct : Float := 5.0

/-- All settings of an analysis. -/
structure Settings where
  alignment : AlignmentSettings := {}
  correlation : CorrelationSettings := {}
  presence : PresenceSettings := {}

def isWithin (low high x : Float) : Bool := low ≤ x && x ≤ high

/-- The venue that a label of the data source stands for. -/
def AlignmentSettings.venue? (s : AlignmentSettings) (label : String) : Option Venue :=
  if label = s.labelA then some .a
  else if label = s.labelB then some .b
  else none

/-- What is wrong with the labels of the venues. -/
def AlignmentSettings.fault? (s : AlignmentSettings) : Option SettingsFault :=
  if s.labelA = "" ∨ s.labelB = "" then some .blankVenueLabel
  else if s.labelA = s.labelB then some (.sharedVenueLabel s.labelA)
  else none

def CorrelationSettings.fault? (s : CorrelationSettings) : Option SettingsFault :=
  if s.minSamples < 2 then some .fewSamples
  else if s.minOverlap < 3 then some .smallOverlap
  else if s.lagDivisor = 0 then some .noLagDivisor
  else if !isWithin 0.0 1.0 s.significanceLevel then some .significanceLevel
  else if s.rollingWindow < 3 then some .smallWindow
  else none

def PresenceSettings.fault? (s : PresenceSettings) : Option SettingsFault :=
  if !(s.tolerance ≥ 0.0) then some .tolerance
  else if !isWithin (-1.0) 1.0 s.clusterMinCorrelation then some .clusterCorrelation
  else if !isWithin 0.0 1.0 s.clusterMaxPValue then some .clusterPValue
  else if !(s.bandWidthPct > 0.0) then some .bandWidth
  else none

/-- The first thing wrong with the settings: labels, then correlation, then presence. -/
def Settings.fault? (s : Settings) : Option SettingsFault :=
  s.alignment.fault? <|> s.correlation.fault? <|> s.presence.fault?

def CorrelationSettings.check (s : CorrelationSettings) : Except Fault CorrelationSettings :=
  match s.fault? with
  | some cause => .error (.settings cause)
  | none => .ok s

/-- Admits settings that have no fault. -/
def Settings.check (s : Settings) : Except Fault Settings :=
  match s.fault? with
  | some cause => .error (.settings cause)
  | none => .ok s

theorem Settings.check_eq_ok_iff {s t : Settings} : s.check = .ok t ↔ s.fault? = none ∧ s = t := by
  unfold check
  split <;> simp_all

end TwoVenues

import TwoVenues.Grouping
import TwoVenues.Pairing.Observation

/-!
# Returns

Percentage changes in place of levels. Within one instrument each observation after the first in
time becomes the change from the observation just before it; a change that is not a number at
either venue leaves its observation out.
-/

namespace TwoVenues.Returns

/-- The change between two values, in percent of the former. -/
def change (before after : Float) : Float := (after - before) / before * 100.0

/-- The later of two observations with the changes for values, if both are numbers. -/
def step? (before after : Observation) : Option Observation :=
  let changeA := change before.valueA after.valueA
  let changeB := change before.valueB after.valueB
  if changeA.isNaN || changeB.isNaN then none
  else some { after with valueA := changeA, valueB := changeB }

/-- The changes between neighbours in a list of observations. -/
def changes (rows : List Observation) : List Observation :=
  (rows.zip rows.tail).filterMap fun (before, after) => step? before after

/-- The returns of all instruments, in ascending order of instruments. -/
def ofLevels (rows : List Observation) : List Observation :=
  (groupsBy (·.instrument) rows).flatMap fun (_, group) => changes (Observation.byTime group)

end TwoVenues.Returns

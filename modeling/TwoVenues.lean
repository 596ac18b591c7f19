import TwoVenues.Archive.Presence
import TwoVenues.Archive.Results
import TwoVenues.Archive.Settings
import TwoVenues.Presence.Bands
import TwoVenues.Proofs.Archive.Survival
import TwoVenues.Proofs.Checked.ForestRuns
import TwoVenues.Proofs.Checked.Run
import TwoVenues.Proofs.Clusters.LinkOrder
import TwoVenues.Proofs.Clusters.Runs
import TwoVenues.Proofs.Comparison.Flat
import TwoVenues.Proofs.Comparison.Mirror
import TwoVenues.Proofs.Comparison.Points
import TwoVenues.Proofs.Comparison.Reordering
import TwoVenues.Proofs.Comparison.Windows
import TwoVenues.Proofs.Contract.Rename
import TwoVenues.Proofs.Contract.RoundTrip
import TwoVenues.Proofs.Double.Bounds
import TwoVenues.Proofs.Double.ValueOrder
import TwoVenues.Proofs.Pairing.Changes
import TwoVenues.Proofs.Pairing.Invariance
import TwoVenues.Proofs.Pairing.Isolation
import TwoVenues.Proofs.Pairing.Names
import TwoVenues.Proofs.Presence.Bands
import TwoVenues.Proofs.Presence.Constant
import TwoVenues.Proofs.Presence.Counts
import TwoVenues.Proofs.Presence.Reordering
import TwoVenues.Proofs.Presence.Tables
import TwoVenues.Proofs.Query.FirstFault
import TwoVenues.Proofs.Query.Selection
import TwoVenues.Proofs.Query.Split
import TwoVenues.Proofs.Run.Faults
import TwoVenues.Proofs.Run.Filter
import TwoVenues.Proofs.Run.Insertion
import TwoVenues.Proofs.Run.Missing
import TwoVenues.Proofs.Run.Ranking
import TwoVenues.Proofs.Run.Reordering
import TwoVenues.Proofs.Run.Returns
import TwoVenues.Proofs.Statistics.Coupled
import TwoVenues.Proofs.Statistics.Defined
import TwoVenues.Proofs.Statistics.Reported
import TwoVenues.Proofs.Statistics.Symmetry

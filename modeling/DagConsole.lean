import DagConsole.Main
import DagConsole.Platform.Canned
import DagConsole.Session.Race
import DagConsole.Proofs.Canvas.Dataflow
import DagConsole.Proofs.Store.Coherence
import DagConsole.Proofs.Store.Provenance
import DagConsole.Proofs.Store.Staleness
import DagConsole.Proofs.Store.Atomicity
import DagConsole.Proofs.Store.Slot
import DagConsole.Proofs.Store.InFlight
import DagConsole.Proofs.Store.Loading
import DagConsole.Proofs.Store.Reordering
import DagConsole.Proofs.Store.Panel
import DagConsole.Proofs.Canvas.View
import DagConsole.Proofs.Session.Overtaking
import DagConsole.Proofs.Store.Enumeration
import DagConsole.Proofs.CommandLine.Mutation
import DagConsole.Proofs.Session.Annotations
import DagConsole.Proofs.Store.Superseding
import DagConsole.Proofs.Wire.RoundTrip
import DagConsole.Proofs.Session.Editing
import DagConsole.Proofs.Wire.Specification
import DagConsole.Proofs.Canvas.Contents
import DagConsole.Proofs.Session.Refreshing
import DagConsole.Proofs.Store.Fetches
import DagConsole.Proofs.Session.Clicking
import DagConsole.Proofs.Session.Reporting
import DagConsole.Proofs.CommandLine.Rescheduling
import DagConsole.Proofs.Client.UntoldErrors
import DagConsole.Proofs.Table.Encodings
import DagConsole.Proofs.CommandLine.Pausing

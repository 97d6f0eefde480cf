import DagConsole.Loadable
import DagConsole.Layout
import DagConsole.NodeResult
import DagConsole.RunPicker
import DagConsole.Selection

/-! The state of one workflow page.

A fetch has two steps. A `begin` step marks its target as loading and hands out the epoch of the
store, and an `apply` step writes the answer only if that epoch is still the current one. Opening a
workflow, selecting a run and tearing down start a new epoch, so an answer that arrives after any of
them is dropped. -/
namespace DagConsole

/-- The generation of what the store holds for the selected run. -/
structure Epoch where
  count : UInt64
deriving DecidableEq, Inhabited

namespace Epoch

def next (e : Epoch) : Epoch := ⟨e.count + 1⟩

def text (e : Epoch) : String := s!"epoch {e.count}"

end Epoch

/-- Shows for which run and in which epoch a fetch was started. -/
structure Ticket where
  epoch : Epoch
  run : DagResultId
deriving DecidableEq, Inhabited

/-- A node result to fetch. -/
inductive NodeFetch where
  | artifact (ticket : Ticket) (id : ArtifactId)
  | operator (ticket : Ticket) (id : OperatorId)
deriving DecidableEq

namespace NodeFetch

def ticket : NodeFetch → Ticket
  | .artifact ticket _ | .operator ticket _ => ticket

def node : NodeFetch → NodeId
  | .artifact _ id => id.node
  | .operator _ id => id.node

end NodeFetch

structure Store where
  workflow : Option WorkflowId := none
  status : LoadingStatus := .initial
  dags : FinMap DagId Dag := .empty
  /-- The runs, newest first. -/
  results : List DagResult := []
  selectedIndex : Option Nat := none
  activeDagId : Option DagId := none
  artifactResults : FinMap ArtifactId (Loadable ArtifactResult) := .empty
  operatorResults : FinMap OperatorId (Loadable OperatorResult) := .empty
  layout : Loadable Layout := .initial
  selection : Selection := {}
  epoch : Epoch := ⟨0⟩
deriving Inhabited

namespace Store

def empty : Store := {}

def selectedResult (s : Store) : Option DagResult := s.selectedIndex.bind fun index => s.results[index]?

def activeDag (s : Store) : Option Dag := s.activeDagId.bind s.dags.find?

/-- The kind of a node of the active version. -/
def nodeType? (s : Store) (id : NodeId) : Option NodeType := s.activeDag.bind fun dag => dag.nodeType? id

def noSelectedResult : Error := .invalidInput "no result is selected"

def noActiveDag : Error := .invalidInput "no dag is active"

def foreignNode (id : NodeId) : Error :=
  .invalidInput s!"node {id} is not part of the active dag"

def indexOutOfRange (index count : Nat) : Error :=
  .invalidInput s!"result index {index} is out of range ({count} results)"

/-- Drops all but the epoch, which goes on, as when the page is left. -/
def teardown (s : Store) : Store := { epoch := s.epoch.next }

/-- Drops what belongs to the selected run and starts a new epoch. -/
def resetRun (s : Store) : Store :=
  { s with
    artifactResults := .empty
    operatorResults := .empty
    layout := .initial
    selection := {}
    epoch := s.epoch.next }

/-- Starts loading a workflow in place of the one shown; the answer belongs to the epoch returned. -/
def beginWorkflow (id : WorkflowId) (s : Store) : Epoch × Store :=
  let s := { s.teardown with workflow := some id, status := .loading }
  (s.epoch, s)

/-- Selects the run at an index, newest first, and makes the version it executed the active one. -/
def selectResult (index : Nat) (s : Store) : Outcome Unit × Store :=
  match s.results[index]? with
  | none => (.error (indexOutOfRange index s.results.length), s)
  | some result =>
    if s.dags.contains result.dag then
      (.ok (), { s with selectedIndex := some index, activeDagId := some result.dag }.resetRun)
    else (.error (Snapshot.unknownDag result), s)

/-- Whether the first of two versions is no newer than the second: by creation time, where none counts
as earliest, and then by identifier. -/
def noNewer (a b : Dag) : Bool :=
  let created := match a.metadata.created, b.metadata.created with
    | none, none => Ordering.eq
    | none, some _ => .lt
    | some _, none => .gt
    | some one, some other => compare one other
  (created.then (compare a.id b.id)).isLE

/-- The newest of some versions, and of equally new ones the last. -/
def newest? (dags : List Dag) : Option Dag :=
  dags.foldl (fun best dag => match best with
    | none => some dag
    | some old => if noNewer old dag then some dag else some old) none

/-- Replaces what is held by a workflow that was fetched, and selects its initial run. A workflow that
never ran shows its newest version. -/
def loadWorkflow (snapshot : Snapshot) (preferred : Option DagResultId) (s : Store) :
    Outcome Unit × Store :=
  match snapshot.validate with
  | .error e => (.error e, s)
  | .ok () =>
    let loaded := { s with
      dags := snapshot.dags
      results := snapshot.newestFirst
      selectedIndex := none
      activeDagId := none }.resetRun
    let loaded := { loaded with status := .succeeded }
    match RunPicker.initialIndex loaded.results preferred with
    | some index => loaded.selectResult index
    | none => (.ok (), { loaded with activeDagId := (newest? loaded.dags.values).map Dag.id })

/-- Writes the answer to a workflow request, unless it is stale. A failure becomes the status of the
workflow and is returned too. -/
def applyWorkflow (epoch : Epoch) (answer : Outcome Snapshot) (preferred : Option DagResultId)
    (s : Store) : Outcome Bool × Store :=
  if s.epoch ≠ epoch then (.ok false, s)
  else
    let (outcome, loaded) := match answer with
      | .ok snapshot => s.loadWorkflow snapshot preferred
      | .error e => (.error e, s)
    match outcome with
    | .ok () => (.ok true, loaded)
    | .error e => (.error e, { loaded with status := .failed e.text })

/-- Starts fetching the result of a node of the active version. There is nothing to fetch when the
result is there or on its way, unless the fetch is forced. -/
def beginNodeFetch (id : NodeId) (force : Bool) (s : Store) : Outcome (Option NodeFetch) × Store :=
  match s.selectedResult with
  | none => (.error noSelectedResult, s)
  | some result =>
    let ticket : Ticket := ⟨s.epoch, result.id⟩
    match s.nodeType? id with
    | none => (.error (foreignNode id), s)
    | some type =>
      if type.isArtifact then
        let slot := (s.artifactResults.find? id.artifact).getD .initial
        if force || slot.needsFetch then
          (.ok (some (.artifact ticket id.artifact)),
            { s with artifactResults := s.artifactResults.insert id.artifact .loading })
        else (.ok none, s)
      else
        let slot := (s.operatorResults.find? id.operator).getD .initial
        if force || slot.needsFetch then
          (.ok (some (.operator ticket id.operator)),
            { s with operatorResults := s.operatorResults.insert id.operator .loading })
        else (.ok none, s)

/-- Starts the fetches of several nodes, one after the other. -/
def beginEach : List NodeId → Store → Outcome (List NodeFetch) × Store
  | [], s => (.ok [], s)
  | id :: rest, s =>
    match s.beginNodeFetch id false with
    | (.error e, s) => (.error e, s)
    | (.ok fetch, s) =>
      match beginEach rest s with
      | (.error e, s) => (.error e, s)
      | (.ok fetches, s) => (.ok (fetch.toList ++ fetches), s)

/-- Starts the fetches of several nodes after checking all of them. -/
def beginNodeFetches (ids : List NodeId) (s : Store) : Outcome (List NodeFetch) × Store :=
  if s.selectedResult.isNone then (.error noSelectedResult, s)
  else
    match ids.find? fun id => (s.nodeType? id).isNone with
    | some id => (.error (foreignNode id), s)
    | none => beginEach ids s

/-- Whether an answer for this ticket is still wanted. -/
def accepts (s : Store) (ticket : Ticket) : Bool :=
  s.epoch == ticket.epoch && s.selectedResult.map DagResult.id == some ticket.run

/-- Writes the answer to an artifact fetch, unless it is stale. -/
def applyArtifactResult (ticket : Ticket) (id : ArtifactId) (answer : Outcome ArtifactResult)
    (s : Store) : Bool × Store :=
  if s.accepts ticket then
    (true, { s with artifactResults := s.artifactResults.insert id (.ofOutcome answer) })
  else (false, s)

/-- Writes the answer to an operator fetch, unless it is stale. -/
def applyOperatorResult (ticket : Ticket) (id : OperatorId) (answer : Outcome OperatorResult)
    (s : Store) : Bool × Store :=
  if s.accepts ticket then
    (true, { s with operatorResults := s.operatorResults.insert id (.ofOutcome answer) })
  else (false, s)

/-- Starts fetching the layout of the active version and drops the layout there was. -/
def beginLayout (s : Store) : Outcome (Epoch × Dag) × Store :=
  match s.activeDag with
  | none => (.error noActiveDag, s)
  | some dag => (.ok (s.epoch, dag), { s with layout := .loading })

/-- Writes the answer to a layout request, unless it is stale. -/
def applyLayout (epoch : Epoch) (answer : Outcome Layout) (s : Store) : Bool × Store :=
  if s.epoch = epoch then (true, { s with layout := .ofOutcome answer }) else (false, s)

/-- Selects a node of the active version. -/
def clickNode (id : NodeId) (s : Store) : Outcome NodeType × Store :=
  match s.nodeType? id with
  | none => (.error (foreignNode id), s)
  | some type => (.ok type, { s with selection := .ofNode id type })

/-- Clears the selection. -/
def clickPane (s : Store) : Store := { s with selection := {} }

end Store

end DagConsole

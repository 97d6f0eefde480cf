import DagConsole.Canvas.Basic
import DagConsole.Session.Operation
import DagConsole.SideSheet

/-! What a person does on a workflow page, in terms of the store and the platform. -/
namespace DagConsole.Session

def noWorkflow : Error := .invalidInput "no workflow is open"

def emptyUpdate : Error := .invalidInput "workflow update changes nothing"

/-- The workflow that is open. -/
def requireWorkflow (s : Store) : Outcome WorkflowId :=
  match s.workflow with
  | some id => .ok id
  | none => .error noWorkflow

/-- Loads a workflow and selects the preferred run, or the newest one if there is no such run. -/
def openWorkflow (id : WorkflowId) (preferred : Option DagResultId) : Action Unit := do
  let epoch ← Action.access fun s => s.beginWorkflow id
  let answer ← Action.answer (.getWorkflow id)
  discard (Action.attempt fun s => s.applyWorkflow epoch answer preferred)

/-- Loads the open workflow again and keeps the selected run if it still exists. -/
def refresh : Action Unit := do
  let (id, selected) ← Action.attempt fun s =>
    ((requireWorkflow s).map (·, s.selectedResult.map DagResult.id), s)
  openWorkflow id selected

/-- Selects the run at an index, newest first. -/
def selectResult (index : Nat) : Action Unit := Action.attempt fun s => s.selectResult index

/-- The list to pick a run from. -/
def resultOptions (s : Store) : List RunPicker.Entry := RunPicker.entries s.results s.selectedIndex

/-- The failure of a layout request as it is reported: by kind and message, where the kind stands in
for a missing message. -/
def layoutFailure (e : Error) : Error := ⟨e.kind, some (e.message.getD e.kind.name), none⟩

/-- Requests the layout of the active version. A failure is written to the store and reported, unless
it comes too late. -/
def resolveLayout : Action Unit := do
  let (epoch, dag) ← Action.attempt Store.beginLayout
  let answer ← Action.answer (.getPositions (.ofDag dag))
  let applied ← Action.access fun s => s.applyLayout epoch answer
  match answer with
  | .error e => if applied then throw (layoutFailure e)
  | .ok _ => return

/-- Fetches the results of nodes of the active version at once, except those that are cached or on
their way, and returns how many answers were written. A failed one is written where it belongs. -/
def fetchNodeResults (ids : List NodeId) : Action Nat := do
  let fetches ← Action.attempt fun s => s.beginNodeFetches ids
  if fetches.isEmpty then return 0
  else ExceptT.lift (Operation.fetchAll fetches .done)

/-- Whether the view of a node shows the outputs of an operator. -/
def showsOutputs : NodeType → Bool
  | .checkOp | .metricOp | .paramOp => true
  | _ => false

/-- The nodes whose results the view of a node shows. -/
def shownNodes (s : Store) (id : NodeId) (type : NodeType) : List NodeId :=
  let operator := s.activeDag.bind fun dag => dag.operators.find? id.operator
  let outputs := if showsOutputs type then (operator.map Operator.outputs).getD [] else []
  id :: outputs.map Id.node

/-- Selects a node and lists the nodes to fetch for its view; before the first run there are none. -/
def selectNode (id : NodeId) (s : Store) : Outcome (NodeType × List NodeId) × Store :=
  match s.clickNode id with
  | (.error e, s) => (.error e, s)
  | (.ok type, s) =>
    (.ok (type, if s.selectedResult.isNone then [] else shownNodes s id type), s)

/-- Selects a node and fetches what its view shows. -/
def clickNode (id : NodeId) : Action NodeType := do
  let (type, ids) ← Action.attempt (selectNode id)
  if ids.isEmpty then return type
  discard (fetchNodeResults ids)
  return type

def clickPane : Action Unit := Action.access fun s => ((), s.clickPane)

/-- The outputs that are drawn at their operators, before the first run none. -/
def annotatedNodes (s : Store) : List NodeId :=
  match s.selectedResult, s.activeDag with
  | some _, some dag => (Canvas.pairOutputs dag).keys.map Id.node
  | _, _ => []

/-- Fetches the outputs that are drawn at their operators. -/
def fetchAnnotations : Action Nat := do
  let ids ← Action.access fun s =>
    (if s.selectedResult.isNone then none else some (annotatedNodes s), s)
  match ids with
  | none => return 0
  | some ids => fetchNodeResults ids

/-- What the canvas draws: nothing until the layout of the active version is there. -/
def canvas (s : Store) : Canvas :=
  match s.activeDag, s.layout.value? with
  | some dag, some layout =>
    Canvas.collapse (.resolve dag layout) dag s.artifactResults s.selection
  | _, _ => {}

/-- Starts a new run of the open workflow. -/
def triggerRun (parameters : RunParameters) : Action Unit := do
  let id ← Action.attempt fun s => (requireWorkflow s, s)
  Action.ask (.triggerRun id parameters)

/-- The checks on an update before it is sent: it changes something, and its period is in range. -/
def checkUpdate (update : WorkflowUpdate) : Outcome Unit :=
  if update.isEmpty then .error emptyUpdate
  else
    match update.schedule.bind Schedule.period? with
    | some period => period.validate
    | none => .ok ()

/-- Changes the settings of the open workflow and loads it again. -/
def editWorkflow (update : WorkflowUpdate) : Action Unit := do
  let id ← Action.attempt fun s => (checkUpdate update *> requireWorkflow s, s)
  Action.ask (.editWorkflow id update)
  refresh

/-- Drops all state of the workflow; answers that come later are dropped too. -/
def close : Action Unit := Action.access fun s => ((), s.teardown)

/-- Deletes the open workflow and closes it. -/
def deleteWorkflow : Action Unit := do
  let id ← Action.attempt fun s => (requireWorkflow s, s)
  Action.ask (.deleteWorkflow id)
  close

end DagConsole.Session

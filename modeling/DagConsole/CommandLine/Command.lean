import DagConsole.Session.Basic

/-! The commands of the command line, as operations of a session. -/
namespace DagConsole.CommandLine

/-- The settings that an edit gives; what is absent stays as it is. -/
structure EditSettings where
  name : Option String := none
  description : Option String := none
  /-- A cron expression to run on. -/
  cron : Option String := none
  /-- Whether to run on request only. -/
  manual : Bool := false
  paused : Option Bool := none
  keepRuns : Option Int := none
deriving DecidableEq

inductive Command where
  /-- Shows the runs and the canvas of a run, which is given by identifier or by index. -/
  | show (workflow : WorkflowId) (run : Option DagResultId) (index : Option Nat)
  /-- Shows the details of a node. -/
  | node (workflow : WorkflowId) (node : NodeId) (run : Option DagResultId)
  /-- Starts a run with parameters, of which the last one of a name counts. -/
  | run (workflow : WorkflowId) (parameters : List (String × Json))
  | edit (workflow : WorkflowId) (settings : EditSettings)
  /-- Deletes a workflow if that is confirmed. -/
  | delete (workflow : WorkflowId) (confirmed : Bool)

def Command.name : Command → String
  | .show .. => "show"
  | .node .. => "node"
  | .run .. => "run"
  | .edit .. => "edit"
  | .delete .. => "delete"

/-- A step of a command that a session may refuse. -/
inductive Step where
  | load
  | selectRun (index : Nat)
  | layOut
  | inspect (node : NodeId)
  | trigger
  | update
  | delete
deriving DecidableEq

def Step.failure : Step → String
  | .load => "failed to load workflow"
  | .selectRun index => s!"cannot select run #{index}"
  | .layOut => "failed to lay out DAG"
  | .inspect node => s!"cannot inspect node {node}"
  | .trigger => "failed to trigger run"
  | .update => "failed to update workflow"
  | .delete => "failed to delete workflow"

/-- Why a command ends without an output. -/
inductive CommandError where
  | notConfirmed (workflow : WorkflowId)
  | nothingToChange
  | failed (step : Step) (cause : Error)
deriving DecidableEq

/-- The text of the error, with what caused it. -/
def CommandError.text : CommandError → String
  | .notConfirmed workflow => s!"refusing to delete workflow {workflow} without --yes"
  | .nothingToChange => "nothing to change; pass at least one setting"
  | .failed step cause => step.failure ++ ": " ++ cause.chain

/-- An operation of a session that ends with an output or the error of a command. -/
abbrev Execution (α : Type) := ExceptT CommandError Operation α

/-- Takes an action as a step of a command. -/
def taking {α : Type} (step : Step) (action : Action α) : Execution α :=
  action.adapt (CommandError.failed step)

def looking {α : Type} (view : Store → α) : Execution α :=
  ExceptT.lift (Operation.access fun s => (view s, s))

namespace EditSettings

/-- The schedule that the settings name, before it is paused or resumed. -/
def namedSchedule (e : EditSettings) (current : Schedule) : Option Schedule :=
  if e.manual then some .manual
  else
    match e.cron with
    | some expression =>
      match Period.ofCron expression with
      | .ok period => some (.ofPeriod period)
      | .error _ => some { trigger := .periodic, cron := Text.trim expression }
    | none => if e.paused.isSome then some current else none

/-- The schedule after an edit. It stays paused if nothing is said of that and the trigger stays the
same, and it refuses runs on request as before. -/
def schedule (e : EditSettings) (current : Schedule) : Option Schedule :=
  (e.namedSchedule current).map fun s =>
    let kept := if s.trigger = current.trigger then current.paused else s.paused
    { s with
      paused := e.paused.getD kept
      disableManualTrigger := current.disableManualTrigger }

/-- The update that the settings describe, which must change something. -/
def update (e : EditSettings) (current : Schedule) : Except CommandError WorkflowUpdate :=
  let update : WorkflowUpdate := {
    name := e.name
    description := e.description
    schedule := e.schedule current
    retention := e.keepRuns.map RetentionPolicy.mk }
  if update.isEmpty then .error .nothingToChange else .ok update

end EditSettings

/-- The schedule of the active version. -/
def currentSchedule (s : Store) : Schedule :=
  (s.activeDag.map fun dag => dag.metadata.schedule).getD {}

def executeShow (workflow : WorkflowId) (run : Option DagResultId) (index : Option Nat) :
    Execution Json := do
  taking .load (Session.openWorkflow workflow run)
  match index with
  | some index => taking (.selectRun index) (Session.selectResult index)
  | none => pure ()
  taking .layOut Session.resolveLayout
  -- Outputs that cannot be fetched are left out of the picture.
  discard (ExceptT.lift Session.fetchAnnotations.run)
  looking fun s => .ofFields [("workflow_id", workflow.toJson),
    ("results", .array ((Session.resultOptions s).map RunPicker.Entry.toJson)),
    ("canvas", (Session.canvas s).toJson)]

def executeNode (workflow : WorkflowId) (node : NodeId) (run : Option DagResultId) :
    Execution Json := do
  taking .load (Session.openWorkflow workflow run)
  discard (taking (.inspect node) (Session.clickNode node))
  looking fun s => (SideSheet.ofStore s).toJson

def executeRun (workflow : WorkflowId) (parameters : List (String × Json)) : Execution Json := do
  let parameters : RunParameters := .ofList parameters
  taking .load (Session.openWorkflow workflow none)
  taking .trigger (Session.triggerRun parameters)
  return .ofFields [("workflow_id", workflow.toJson), ("triggered", .bool true),
    ("parameters", Json.ofMap parameters)]

def executeEdit (workflow : WorkflowId) (settings : EditSettings) : Execution Json := do
  taking .load (Session.openWorkflow workflow none)
  let update ← settings.update (← looking currentSchedule)
  taking .update (Session.editWorkflow update)
  return .ofFields [("workflow_id", workflow.toJson), ("updated", update.toJson)]

def executeDelete (workflow : WorkflowId) (confirmed : Bool) : Execution Json := do
  unless confirmed do throw (.notConfirmed workflow)
  taking .load (Session.openWorkflow workflow none)
  taking .delete Session.deleteWorkflow
  return .ofFields [("workflow_id", workflow.toJson), ("deleted", .bool true)]

/-- Carries a command out in a fresh session, and returns what to print. -/
def Command.execute : Command → Execution Json
  | .show workflow result index => executeShow workflow result index
  | .node workflow id result => executeNode workflow id result
  | .run workflow parameters => executeRun workflow parameters
  | .edit workflow settings => executeEdit workflow settings
  | .delete workflow confirmed => executeDelete workflow confirmed

end DagConsole.CommandLine

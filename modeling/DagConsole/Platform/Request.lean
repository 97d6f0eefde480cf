import DagConsole.Layout
import DagConsole.NodeResult
import DagConsole.Workflow

/-! The requests that a workflow platform answers. -/
namespace DagConsole

/-- The nodes of a version that are to be laid out. -/
structure PositioningRequest where
  operators : FinMap OperatorId Operator
  artifacts : FinMap ArtifactId Artifact
deriving Inhabited

namespace PositioningRequest

/-- A request for every node of a version. -/
def ofDag (dag : Dag) : PositioningRequest := ⟨dag.operators, dag.artifacts⟩

def toJson (r : PositioningRequest) : Json :=
  .ofFields [("operators", r.operators.toJson Operator.toJson),
    ("artifacts", r.artifacts.toJson Artifact.toJson)]

def decode : Decoder PositioningRequest := fun doc => do
  let fields ← Decoder.fields ["operators", "artifacts"] doc
  return {
    operators := ← fields.required "operators" (Decoder.map Id.ofText? Operator.decode)
    artifacts := ← fields.required "artifacts" (Decoder.map Id.ofText? Artifact.decode) }

end PositioningRequest

inductive Request where
  /-- All versions and runs of a workflow. -/
  | getWorkflow (workflow : WorkflowId)
  | getArtifactResult (run : DagResultId) (artifact : ArtifactId)
  | getOperatorResult (run : DagResultId) (operator : OperatorId)
  | getPositions (request : PositioningRequest)
  | triggerRun (workflow : WorkflowId) (parameters : RunParameters)
  | editWorkflow (workflow : WorkflowId) (update : WorkflowUpdate)
  | deleteWorkflow (workflow : WorkflowId)

namespace Request

/-- What a successful answer carries. -/
abbrev Response : Request → Type
  | .getWorkflow _ => Snapshot
  | .getArtifactResult _ _ => ArtifactResult
  | .getOperatorResult _ _ => OperatorResult
  | .getPositions _ => Layout
  | .triggerRun _ _ | .editWorkflow _ _ | .deleteWorkflow _ => Unit

abbrev Answer (request : Request) : Type := Outcome request.Response

/-- Whether the request changes something on the platform. -/
def isMutating : Request → Bool
  | .triggerRun _ _ | .editWorkflow _ _ | .deleteWorkflow _ => true
  | _ => false

/-- The operations of a platform. -/
inductive Kind where
  | getWorkflow
  | getArtifactResult
  | getOperatorResult
  | getPositions
  | triggerRun
  | editWorkflow
  | deleteWorkflow
deriving DecidableEq, Inhabited

instance : Enumerated Kind where
  members := [.getWorkflow, .getArtifactResult, .getOperatorResult, .getPositions, .triggerRun,
    .editWorkflow, .deleteWorkflow]
  name
    | .getWorkflow => "get_workflow"
    | .getArtifactResult => "get_artifact_result"
    | .getOperatorResult => "get_operator_result"
    | .getPositions => "get_positions"
    | .triggerRun => "trigger_run"
    | .editWorkflow => "edit_workflow"
    | .deleteWorkflow => "delete_workflow"

def kind : Request → Kind
  | .getWorkflow _ => .getWorkflow
  | .getArtifactResult _ _ => .getArtifactResult
  | .getOperatorResult _ _ => .getOperatorResult
  | .getPositions _ => .getPositions
  | .triggerRun _ _ => .triggerRun
  | .editWorkflow _ _ => .editWorkflow
  | .deleteWorkflow _ => .deleteWorkflow

end Request

/-- A platform, as what it answers to each request and how that changes it. -/
structure Platform (σ : Type) where
  answer : (request : Request) → σ → request.Answer × σ

end DagConsole

import DagConsole.NodeType
import DagConsole.Schedule.Basic
import DagConsole.Timestamp.Reader

/-! Versions of a workflow: operators, artifacts, and the edges between them. -/
namespace DagConsole

/-- How many past results are kept; -1 keeps all. -/
structure RetentionPolicy where
  latestRuns : Int := -1
deriving DecidableEq, Inhabited

namespace RetentionPolicy

def toJson (p : RetentionPolicy) : Json := .ofFields [("k_latest_runs", .integer p.latestRuns)]

def decode : Decoder RetentionPolicy := fun doc => do
  let fields ← Decoder.fields ["k_latest_runs"] doc
  return { latestRuns := ← fields.withDefault "k_latest_runs" (-1) Decoder.int64 }

end RetentionPolicy

/-- The settings of a workflow as of one version. -/
structure WorkflowMetadata where
  name : String := ""
  description : String := ""
  schedule : Schedule := {}
  retention : RetentionPolicy := {}
  created : Option Timestamp := none
deriving DecidableEq, Inhabited

namespace WorkflowMetadata

def toJson (m : WorkflowMetadata) : Json :=
  .ofFields ([("name", .string m.name), ("description", .string m.description),
    ("schedule", m.schedule.toJson), ("retention_policy", m.retention.toJson)] ++
    Json.optional "created_at" (m.created.map Timestamp.toJson))

def decode : Decoder WorkflowMetadata := fun doc => do
  let fields ← Decoder.fields
    ["name", "description", "schedule", "retention_policy", "created_at"] doc
  return {
    name := ← fields.required "name" Decoder.string
    description := ← fields.withDefault "description" "" Decoder.string
    schedule := ← fields.withDefault "schedule" {} Schedule.decode
    retention := ← fields.withDefault "retention_policy" {} RetentionPolicy.decode
    created := ← fields.optional "created_at" Timestamp.decode }

end WorkflowMetadata

/-- A connection from an artifact to an operator that consumes it, or from an operator to an artifact
that it produces. -/
structure DagEdge where
  source : NodeId
  target : NodeId
deriving DecidableEq, Inhabited

namespace DagEdge

/-- Edges are ordered by source, then by target. -/
instance : Ord DagEdge := ⟨compareLex (compareOn source) (compareOn target)⟩

instance : Std.TransOrd DagEdge :=
  inferInstanceAs (Std.TransCmp (compareLex (compareOn source) (compareOn target)))

def toJson (e : DagEdge) : Json := .ofFields [("from", e.source.toJson), ("to", e.target.toJson)]

def decode : Decoder DagEdge := fun doc => do
  let fields ← Decoder.fields ["from", "to"] doc
  return { source := ← fields.required "from" Id.decode, target := ← fields.required "to" Id.decode }

end DagEdge

/-- One deployed version of a workflow. -/
structure Dag where
  id : DagId
  workflow : WorkflowId
  metadata : WorkflowMetadata := {}
  operators : FinMap OperatorId Operator := .empty
  artifacts : FinMap ArtifactId Artifact := .empty
deriving Inhabited

namespace Dag

/-- Adds an operator under its own identifier. -/
def withOperator (dag : Dag) (op : Operator) : Dag :=
  { dag with operators := dag.operators.insert op.id op }

/-- Adds an artifact under its own identifier. -/
def withArtifact (dag : Dag) (artifact : Artifact) : Dag :=
  { dag with artifacts := dag.artifacts.insert artifact.id artifact }

def nodeCount (dag : Dag) : Nat := dag.operators.size + dag.artifacts.size

/-- The edges at one operator. -/
def edgesAt (op : Operator) : List DagEdge :=
  op.inputs.map (fun artifact => ⟨artifact.node, op.id.node⟩) ++
    op.outputs.map (fun artifact => ⟨op.id.node, artifact.node⟩)

/-- The edges at some operators, in ascending order and each one once. -/
def edgesOf (operators : List Operator) : List DagEdge :=
  (FinMap.ofList ((operators.flatMap edgesAt).map (·, ()))).keys

def edges (dag : Dag) : List DagEdge := edgesOf dag.operators.values

/-- The kind of node that an identifier names: an operator's if there is one, else an artifact's. -/
def nodeType? (dag : Dag) (id : NodeId) : Option NodeType :=
  match dag.operators.find? id.operator with
  | some op => some (.ofOperator op.type)
  | none => (dag.artifacts.find? id.artifact).map fun artifact => .ofArtifact artifact.type

def toJson (dag : Dag) : Json :=
  .ofFields [("id", dag.id.toJson), ("workflow_id", dag.workflow.toJson),
    ("metadata", dag.metadata.toJson), ("operators", dag.operators.toJson Operator.toJson),
    ("artifacts", dag.artifacts.toJson Artifact.toJson)]

def decode : Decoder Dag := fun doc => do
  let fields ← Decoder.fields ["id", "workflow_id", "metadata", "operators", "artifacts"] doc
  return {
    id := ← fields.required "id" Id.decode
    workflow := ← fields.required "workflow_id" Id.decode
    metadata := ← fields.withDefault "metadata" {} WorkflowMetadata.decode
    operators := ← fields.withDefault "operators" .empty (Decoder.map Id.ofText? Operator.decode)
    artifacts := ← fields.withDefault "artifacts" .empty (Decoder.map Id.ofText? Artifact.decode) }

end Dag

end DagConsole

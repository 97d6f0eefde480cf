import DagConsole.Dag.Validity
import DagConsole.Execution
import DagConsole.Sorting

/-! A workflow as the platform reports it, and the settings that can be changed. -/
namespace DagConsole

/-- One run of a version. -/
structure DagResult where
  id : DagResultId
  dag : DagId
  execState : ExecState := {}
  created : Timestamp
deriving DecidableEq, Inhabited

namespace DagResult

def status (r : DagResult) : ExecutionStatus := r.execState.status

/-- Later runs come first, and of runs of one time those with the greater identifier. -/
def mayPrecede (a b : DagResult) : Bool :=
  ((compare b.created a.created).then (compare b.id a.id)).isLE

def toJson (r : DagResult) : Json :=
  .ofFields [("id", r.id.toJson), ("workflow_dag_id", r.dag.toJson),
    ("exec_state", r.execState.toJson), ("created_at", r.created.toJson)]

def decode : Decoder DagResult := fun doc => do
  let fields ← Decoder.fields ["id", "workflow_dag_id", "exec_state", "created_at"] doc
  return {
    id := ← fields.required "id" Id.decode
    dag := ← fields.required "workflow_dag_id" Id.decode
    execState := ← fields.withDefault "exec_state" {} ExecState.decode
    created := ← fields.required "created_at" Timestamp.decode }

end DagResult

/-- All versions of a workflow, by identifier, and all its runs. -/
structure Snapshot where
  dags : FinMap DagId Dag := .empty
  results : List DagResult := []
deriving Inhabited

namespace Snapshot

def newestFirst (s : Snapshot) : List DagResult := Sorting.sortBy DagResult.mayPrecede s.results

def unknownDag (result : DagResult) : Error :=
  .invalidDag s!"result {result.id} references unknown dag {result.dag}"

/-- The version that a run executed. -/
def dagFor (s : Snapshot) (result : DagResult) : Outcome Dag :=
  match s.dags.find? result.dag with
  | some dag => .ok dag
  | none => .error (unknownDag result)

/-- Checks that every run executed a known version, and every version. -/
def validate (s : Snapshot) : Outcome Unit := do
  s.results.forM fun result => discard (s.dagFor result)
  s.dags.values.forM Dag.validate

def toJson (s : Snapshot) : Json :=
  .ofFields [("workflow_dags", s.dags.toJson Dag.toJson),
    ("workflow_dag_results", .array (s.results.map DagResult.toJson))]

def decode : Decoder Snapshot := fun doc => do
  let fields ← Decoder.fields ["workflow_dags", "workflow_dag_results"] doc
  return {
    dags := ← fields.withDefault "workflow_dags" .empty (Decoder.map Id.ofText? Dag.decode)
    results := ← fields.withDefault "workflow_dag_results" [] (Decoder.list DagResult.decode) }

end Snapshot

/-- Changes to the settings of a workflow; what is absent stays as it is. -/
structure WorkflowUpdate where
  name : Option String := none
  description : Option String := none
  schedule : Option Schedule := none
  retention : Option RetentionPolicy := none
deriving DecidableEq, Inhabited

namespace WorkflowUpdate

/-- Whether the update changes nothing. -/
def isEmpty (u : WorkflowUpdate) : Bool :=
  u.name.isNone && u.description.isNone && u.schedule.isNone && u.retention.isNone

def toJson (u : WorkflowUpdate) : Json :=
  .ofFields (Json.optional "name" (u.name.map .string) ++
    Json.optional "description" (u.description.map .string) ++
    Json.optional "schedule" (u.schedule.map Schedule.toJson) ++
    Json.optional "retention_policy" (u.retention.map RetentionPolicy.toJson))

def decode : Decoder WorkflowUpdate := fun doc => do
  let fields ← Decoder.fields ["name", "description", "schedule", "retention_policy"] doc
  return {
    name := ← fields.named "name" Decoder.string
    description := ← fields.named "description" Decoder.string
    schedule := ← fields.named "schedule" Schedule.decode
    retention := ← fields.named "retention_policy" RetentionPolicy.decode }

end WorkflowUpdate

/-- Parameter values for a run, by parameter name. -/
abbrev RunParameters := FinMap String Json

end DagConsole

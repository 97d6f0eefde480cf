import DagConsole.Workflow

/-! Choosing the run of a workflow that is shown. -/
namespace DagConsole.RunPicker

/-- The run shown at first, of runs ordered newest first: the preferred one if it is among them, else
the newest. -/
def initialIndex (results : List DagResult) (preferred : Option DagResultId) : Option Nat :=
  if results.isEmpty then none
  else
    match preferred with
    | none => some 0
    | some id => some ((results.findIdx? fun result => result.id == id).getD 0)

/-- An entry of the list to pick a run from. -/
structure Entry where
  index : Nat
  id : DagResultId
  dag : DagId
  status : ExecutionStatus
  created : Timestamp
  selected : Bool
deriving DecidableEq, Inhabited

/-- The entries for runs ordered newest first. -/
def entries (results : List DagResult) (selected : Option Nat) : List Entry :=
  results.zipIdx.map fun (result, index) =>
    ⟨index, result.id, result.dag, result.status, result.created, selected == some index⟩

def Entry.toJson (e : Entry) : Json :=
  .ofFields [("index", .ofNat e.index), ("id", e.id.toJson), ("dag_id", e.dag.toJson),
    ("status", e.status.toJson), ("created_at", e.created.toJson), ("selected", .bool e.selected)]

end DagConsole.RunPicker

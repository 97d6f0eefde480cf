import DagConsole.Dag.Basic
import DagConsole.Graph.Cycle

/-! The structural checks on a version: every reference resolves, every artifact has at most one
producer, and no edges form a cycle. -/
namespace DagConsole.Dag

def unknownArtifact (op : OperatorId) (artifact : ArtifactId) : Error :=
  .invalidDag s!"operator {op} references unknown artifact {artifact}"

/-- Two producers of one artifact; they are named in ascending order. -/
def producedTwice (artifact : ArtifactId) (one other : OperatorId) : Error :=
  let (first, second) := if (compare one other).isLE then (one, other) else (other, one)
  .invalidDag s!"artifact {artifact} is produced by both {first} and {second}"

def cyclic (dag : DagId) : Error := .invalidDag s!"cycle detected in workflow dag {dag}"

/-- Notes an operator as the producer of its outputs, unless one of them has a producer already. -/
def claimOutputs (producers : FinMap ArtifactId OperatorId) (op : OperatorId) :
    List ArtifactId → Outcome (FinMap ArtifactId OperatorId)
  | [] => .ok producers
  | artifact :: rest =>
    match producers.find? artifact with
    | some other => .error (producedTwice artifact other op)
    | none => claimOutputs (producers.insert artifact op) op rest

/-- Checks the references and the outputs of operators, one operator after the other. -/
def checkOperators (artifacts : FinMap ArtifactId Artifact)
    (producers : FinMap ArtifactId OperatorId) : List Operator → Outcome Unit
  | [] => .ok ()
  | op :: rest =>
    match (op.inputs ++ op.outputs).find? fun artifact => !artifacts.contains artifact with
    | some artifact => .error (unknownArtifact op.id artifact)
    | none => do checkOperators artifacts (← claimOutputs producers op.id op.outputs) rest

/-- Whether an identifier is a key of the version. -/
def isKey (dag : Dag) (id : NodeId) : Bool :=
  dag.operators.contains id.operator || dag.artifacts.contains id.artifact

/-- The edges both of whose ends are keys of the version. -/
def keyedEdges (dag : Dag) : List (NodeId × NodeId) :=
  (dag.edges.filter fun edge => dag.isKey edge.source && dag.isKey edge.target).map fun edge =>
    (edge.source, edge.target)

def validate (dag : Dag) : Outcome Unit := do
  checkOperators dag.artifacts .empty dag.operators.values
  if Graph.hasCycle dag.keyedEdges then .error (cyclic dag.id) else .ok ()

end DagConsole.Dag

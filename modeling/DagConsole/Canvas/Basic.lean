import DagConsole.Canvas.PositionedGraph
import DagConsole.Loadable
import DagConsole.NodeResult
import DagConsole.Selection

/-! What the canvas draws.

A check and its boolean output, and a metric and its numeric output, are drawn as one node: the
output is left out, its value is shown at the operator, and its edges lead to the operator. -/
namespace DagConsole

open Number (Binary64)

/-- The output that is shown at its operator; it has no value until that is loaded. -/
inductive Annotation where
  | check (artifact : ArtifactId) (passed : Option Bool) (level : CheckLevel)
  | metric (artifact : ArtifactId) (value : Option Binary64)
deriving DecidableEq

namespace Annotation

def artifact : Annotation → ArtifactId
  | .check artifact _ _ | .metric artifact _ => artifact

def toJson : Annotation → Json
  | .check artifact passed level =>
    .ofFields [("kind", .string "check"), ("artifact_id", artifact.toJson),
      ("passed", Json.nullable (passed.map .bool)), ("level", level.toJson)]
  | .metric artifact value =>
    .ofFields [("kind", .string "metric"), ("artifact_id", artifact.toJson),
      ("value", Json.nullable (value.map Json.ofBinary64))]

end Annotation

structure CanvasNode where
  id : NodeId
  type : NodeType
  label : String
  position : Position
  annotation : Option Annotation
  selected : Bool
deriving DecidableEq

def CanvasNode.toJson (n : CanvasNode) : Json :=
  .ofFields ([("id", n.id.toJson), ("type", n.type.toJson), ("label", .string n.label),
    ("position", n.position.toJson), ("selected", .bool n.selected)] ++
    Json.optional "annotation" (n.annotation.map Annotation.toJson))

structure CanvasEdge where
  source : NodeId
  target : NodeId
deriving DecidableEq, Inhabited

def CanvasEdge.toJson (e : CanvasEdge) : Json :=
  .ofFields [("source", e.source.toJson), ("target", e.target.toJson)]

structure Canvas where
  nodes : List CanvasNode := []
  edges : List CanvasEdge := []
deriving DecidableEq, Inhabited

namespace Canvas

/-- The type of the output that an operator of some type is drawn together with. -/
def foldedType : OperatorType → Option ArtifactType
  | .check => some .bool
  | .metric | .systemMetric => some .numeric
  | _ => none

/-- The output that an operator is drawn together with: its first one of the right type. -/
def foldedOutput (dag : Dag) (op : Operator) : Option ArtifactId := do
  let wanted ← foldedType op.type
  op.outputs.find? fun id => (dag.artifacts.find? id).any fun artifact => artifact.type == wanted

/-- The artifacts that are drawn at one of some operators, each with that operator and its type. -/
def pairsOf (dag : Dag) (operators : List Operator) : FinMap ArtifactId (NodeId × OperatorType) :=
  .ofList (operators.filterMap fun op =>
    (foldedOutput dag op).map fun artifact => (artifact, (op.id.node, op.type)))

/-- The artifacts that are drawn at an operator. -/
def pairOutputs (dag : Dag) : FinMap ArtifactId (NodeId × OperatorType) :=
  pairsOf dag dag.operators.values

/-- What is shown at an operator for the output it is drawn together with. -/
def annotate (dag : Dag) (results : FinMap ArtifactId (Loadable ArtifactResult))
    (artifact : ArtifactId) (operator : NodeId) (type : OperatorType) : Annotation :=
  let result := (results.find? artifact).bind Loadable.value?
  match type with
  | .check =>
    let level := do (← dag.operators.find? operator.operator).spec.checkLevel
    .check artifact (result.bind ArtifactResult.asBool) (level.getD .default)
  | _ => .metric artifact (result.bind ArtifactResult.asNumber)

/-- What is shown at the operators of some pairs. -/
def annotationsOf (dag : Dag) (results : FinMap ArtifactId (Loadable ArtifactResult))
    (pairs : List (ArtifactId × NodeId × OperatorType)) : FinMap NodeId Annotation :=
  .ofList (pairs.map fun (artifact, operator, type) =>
    (operator, annotate dag results artifact operator type))

/-- The node that stands for a node on the canvas: a folded artifact's operator, or the node itself. -/
def drawnAs (pairs : FinMap ArtifactId (NodeId × OperatorType)) (id : NodeId) : NodeId :=
  ((pairs.find? id.artifact).map Prod.fst).getD id

/-- Folds outputs into their operators and marks the selected node. -/
def collapse (graph : PositionedGraph) (dag : Dag)
    (results : FinMap ArtifactId (Loadable ArtifactResult)) (selection : Selection) : Canvas :=
  let pairs := pairOutputs dag
  let annotations := annotationsOf dag results pairs.entries
  let drawn := graph.nodes.filter fun node => !pairs.contains node.id.artifact
  let edges := graph.edges.map fun edge =>
    CanvasEdge.mk (drawnAs pairs edge.source) (drawnAs pairs edge.target)
  { nodes := drawn.map fun node =>
      { id := node.id, type := node.type, label := node.label, position := node.position,
        annotation := annotations.find? node.id, selected := selection.isSelected node.id }
    edges := (edges.filter fun edge => edge.source != edge.target).eraseDups }

def node? (c : Canvas) (id : NodeId) : Option CanvasNode := c.nodes.find? fun node => node.id == id

def contains (c : Canvas) (id : NodeId) : Bool := (c.node? id).isSome

def toJson (c : Canvas) : Json :=
  .ofFields [("nodes", .array (c.nodes.map CanvasNode.toJson)),
    ("edges", .array (c.edges.map CanvasEdge.toJson))]

end Canvas

end DagConsole

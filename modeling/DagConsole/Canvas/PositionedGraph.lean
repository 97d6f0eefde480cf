import DagConsole.Dag.Basic
import DagConsole.Layout
import DagConsole.Sorting

/-! The nodes and edges of a version, placed on the canvas. -/
namespace DagConsole

structure PositionedNode where
  id : NodeId
  type : NodeType
  label : String
  position : Position
deriving DecidableEq, Inhabited

def PositionedNode.toJson (n : PositionedNode) : Json :=
  .ofFields [("id", n.id.toJson), ("type", n.type.toJson), ("label", .string n.label),
    ("position", n.position.toJson)]

/-- Nodes, operators first and each group ordered by identifier, and the edges of the version. -/
structure PositionedGraph where
  nodes : List PositionedNode := []
  edges : List DagEdge := []
deriving DecidableEq, Inhabited

namespace PositionedGraph

/-- Places a node where the layout puts it, or else at the origin. -/
def place (layout : Layout) (id : NodeId) (type : NodeType) (label : String) : PositionedNode :=
  ⟨id, type, label, (layout.position? id).getD .origin⟩

/-- The nodes of some operators, ordered by identifier. -/
def operatorNodes (layout : Layout) (operators : List Operator) : List PositionedNode :=
  let ordered := Sorting.sortBy (fun a b => (compare a.id b.id).isLE) operators
  ordered.map fun op => place layout op.id.node (.ofOperator op.type) op.name

/-- The nodes of some artifacts, ordered by identifier. -/
def artifactNodes (layout : Layout) (artifacts : List Artifact) : List PositionedNode :=
  let ordered := Sorting.sortBy (fun a b => (compare a.id b.id).isLE) artifacts
  ordered.map fun artifact => place layout artifact.id.node (.ofArtifact artifact.type) artifact.name

/-- Combines a version with the layout that was computed for it. -/
def resolve (dag : Dag) (layout : Layout) : PositionedGraph :=
  ⟨operatorNodes layout dag.operators.values ++ artifactNodes layout dag.artifacts.values, dag.edges⟩

def node? (g : PositionedGraph) (id : NodeId) : Option PositionedNode :=
  g.nodes.find? fun node => node.id == id

def toJson (g : PositionedGraph) : Json :=
  .ofFields [("nodes", .array (g.nodes.map PositionedNode.toJson)),
    ("edges", .array (g.edges.map DagEdge.toJson))]

end PositionedGraph

end DagConsole

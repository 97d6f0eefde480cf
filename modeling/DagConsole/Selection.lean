import DagConsole.NodeType

/-! The selected node and the drawers that show its details. -/
namespace DagConsole

structure SelectedNode where
  id : NodeId
  type : NodeType
deriving DecidableEq, Inhabited

def SelectedNode.toJson (n : SelectedNode) : Json :=
  .ofFields [("id", n.id.toJson), ("type", n.type.toJson)]

/-- Which of the two drawers are open: the bottom one with status and logs, the right one with
details. -/
structure PanelState where
  bottomOpen : Bool := false
  rightOpen : Bool := false
deriving DecidableEq, Inhabited

namespace PanelState

def isClosed (p : PanelState) : Bool := !p.bottomOpen && !p.rightOpen

def toJson (p : PanelState) : Json :=
  .ofFields [("bottom_open", .bool p.bottomOpen), ("right_open", .bool p.rightOpen)]

end PanelState

/-- At most one selected node, and the drawers it opened. -/
structure Selection where
  node : Option SelectedNode := none
  panels : PanelState := {}
deriving DecidableEq, Inhabited

namespace Selection

def empty : Selection := {}

/-- The selection after a click on a node: that node, with both drawers open. -/
def ofNode (id : NodeId) (type : NodeType) : Selection := ⟨some ⟨id, type⟩, ⟨true, true⟩⟩

def isSelected (s : Selection) (id : NodeId) : Bool := s.node.any fun node => node.id == id

def toJson (s : Selection) : Json :=
  .ofFields [("node", Json.nullable (s.node.map SelectedNode.toJson)), ("panels", s.panels.toJson)]

end Selection

end DagConsole

import DagConsole.Proofs.Canvas.Pairs
import DagConsole.Proofs.Canvas.Placement
import DagConsole.Session.Basic

/-! What the check on a version is worth to the page that shows it. The check follows the identifiers that operators
and artifacts are stored under, and the page the identifiers that they carry, so a version that passes can be shown if
these are the same and tell operators and artifacts apart. -/
namespace DagConsole

namespace Dag

variable {dag : Dag}

/-- What a page relies on to show a version. -/
structure Viewable (dag : Dag) : Prop where
  acyclic : Graph.Acyclic dag.Leads
  distinct : ∀ layout, ((PositionedGraph.resolve dag layout).nodes.map PositionedNode.id).Nodup
  joined : ∀ layout, ∀ edge ∈ (PositionedGraph.resolve dag layout).edges,
    edge.source ∈ (PositionedGraph.resolve dag layout).nodes.map PositionedNode.id ∧
      edge.target ∈ (PositionedGraph.resolve dag layout).nodes.map PositionedNode.id
  /-- Where the version is shown, a node is looked up as the kind of node that it is drawn as. -/
  known : ∀ {s : Store}, s.activeDag = some dag → ∀ layout,
    ∀ node ∈ (PositionedGraph.resolve dag layout).nodes, s.nodeType? node.id = some node.type
  /-- Every node on the canvas can be clicked. -/
  clickable : ∀ {s : Store}, s.activeDag = some dag → ∀ node ∈ (Session.canvas s).nodes,
    (s.clickNode node.id).1 = .ok node.type

/-- In a version that passes the check, data does not flow in a circle if every operator carries the identifier of some
node that is stored: only edges between stored identifiers are searched. -/
theorem acyclic_leads_of_validate (valid : dag.validate = .ok ())
    (stored : ∀ op ∈ dag.operators.values, dag.isKey op.id.node) : Graph.Acyclic dag.Leads := by
  obtain ⟨references, _, acyclic⟩ := validate_eq_ok_iff_keyedEdges.mp valid
  have known {op : Operator} {id : NodeId} (member : op ∈ dag.operators.values)
      (referenced : id.artifact ∈ op.inputs ++ op.outputs) : dag.isKey id := by
    simp [isKey, FinMap.contains_iff.mpr (references op member id.artifact referenced)]
  refine acyclic.of_lift (fun node => node) fun source target edge => .single ?_
  refine mem_keyedEdges.mpr ⟨edge, ?_⟩
  obtain ⟨op, member, ⟨consumed, rfl⟩ | ⟨rfl, produced⟩⟩ := leads_iff.mp edge
  · exact ⟨known member (List.mem_append_left _ consumed), stored op member⟩
  · exact ⟨stored op member, known member (List.mem_append_right _ produced)⟩

/-- An edge joins nodes that are stored, as long as each operator is stored under its own identifier. -/
theorem keys_of_leads (keyed : dag.WellKeyed) (references : ∀ op ∈ dag.operators.values,
    ∀ artifact ∈ op.inputs ++ op.outputs, artifact ∈ dag.artifacts.keys) {source target : NodeId}
    (edge : dag.Leads source target) :
    source ∈ dag.operators.keys.map Id.node ++ dag.artifacts.keys.map Id.node ∧
      target ∈ dag.operators.keys.map Id.node ++ dag.artifacts.keys.map Id.node := by
  have operator {op : Operator} (member : op ∈ dag.operators.values) :
      op.id.node ∈ dag.operators.keys.map Id.node ++ dag.artifacts.keys.map Id.node :=
    List.mem_append_left _ (List.mem_map_of_mem (FinMap.contains_iff.mp (keyed.contains_operator member)))
  have artifact {op : Operator} {id : NodeId} (member : op ∈ dag.operators.values)
      (referenced : id.artifact ∈ op.inputs ++ op.outputs) :
      id ∈ dag.operators.keys.map Id.node ++ dag.artifacts.keys.map Id.node :=
    List.mem_append_right _ (List.mem_map_of_mem (references op member _ referenced))
  obtain ⟨op, member, ⟨consumed, rfl⟩ | ⟨rfl, produced⟩⟩ := leads_iff.mp edge
  · exact ⟨artifact member (List.mem_append_left _ consumed), operator member⟩
  · exact ⟨operator member, artifact member (List.mem_append_right _ produced)⟩

end Dag

namespace Canvas

/-- What is drawn was placed, as the kind of node that it is drawn as. -/
theorem placed_of_mem_collapse {graph : PositionedGraph} {dag : Dag}
    {results : FinMap ArtifactId (Loadable ArtifactResult)} {selection : Selection} {node : CanvasNode}
    (drawn : node ∈ (collapse graph dag results selection).nodes) :
    ∃ placed ∈ graph.nodes, placed.id = node.id ∧ placed.type = node.type := by
  obtain ⟨placed, kept, rfl⟩ := List.mem_map.mp drawn
  exact ⟨placed, List.mem_of_mem_filter kept, rfl, rfl⟩

end Canvas

namespace Dag

variable {dag : Dag}

theorem click_of_mem_canvas (keyed : dag.WellKeyed) (apart : dag.Apart) {s : Store}
    (active : s.activeDag = some dag) {node : CanvasNode} (drawn : node ∈ (Session.canvas s).nodes) :
    (s.clickNode node.id).1 = .ok node.type := by
  simp only [Session.canvas, active] at drawn
  split at drawn
  · rename_i shown layout same _
    cases same
    obtain ⟨placed, member, id, type⟩ := Canvas.placed_of_mem_collapse drawn
    have known := PositionedGraph.nodeType?_of_mem_resolve keyed apart member
    rw [id, type] at known
    simp [Store.clickNode, Store.nodeType?, active, known]
  · cases drawn

/-- A version that passes the check can be shown, if its operators and artifacts are stored under their own identifiers
and none of them share one. -/
theorem viewable_of_validate (valid : dag.validate = .ok ()) (keyed : dag.WellKeyed) (apart : dag.Apart) :
    dag.Viewable where
  acyclic := acyclic_leads_of_validate valid fun _ member => keyed.isKey_operator member
  distinct _ := PositionedGraph.nodup_ids_resolve keyed apart
  joined layout edge member := by
    have ids := PositionedGraph.ids_resolve_of_wellKeyed keyed layout
    obtain ⟨references, _, _⟩ := validate_eq_ok_iff_keyedEdges.mp valid
    obtain ⟨source, target⟩ := keys_of_leads keyed references member
    exact ⟨ids.mem_iff.mpr source, ids.mem_iff.mpr target⟩
  known active _ _ member := by
    simp [Store.nodeType?, active, PositionedGraph.nodeType?_of_mem_resolve keyed apart member]
  clickable active _ drawn := click_of_mem_canvas keyed apart active drawn

theorem viewable_checkedTable : checkedTable.validate = .ok () ∧ checkedTable.WellKeyed ∧
    checkedTable.Apart ∧ checkedTable.Viewable :=
  ⟨rfl, by decide, by decide, viewable_of_validate rfl (by decide) (by decide)⟩

/-- An operator that consumes what it produces, stored under another identifier, and an artifact stored under another
one too. -/
def misfiled : Dag :=
  let echo : Operator :=
    { id := ⟨2⟩, name := "echo", spec := ⟨.function, .empty⟩, inputs := [⟨3⟩], outputs := [⟨3⟩] }
  let sound : Artifact := { id := ⟨2⟩, name := "sound", type := .table }
  { id := ⟨5⟩, workflow := ⟨6⟩, operators := .ofList [(⟨1⟩, echo)], artifacts := .ofList [(⟨3⟩, sound)] }

/-- The document of such a version. -/
def misfiledDocument : Document :=
  .object [("id", .string "00000000-0000-0000-0000-000000000005"),
    ("workflow_id", .string "00000000-0000-0000-0000-000000000006"),
    ("operators", .object [("00000000-0000-0000-0000-000000000001",
      .object [("id", .string "00000000-0000-0000-0000-000000000002"), ("name", .string "echo"),
        ("spec", .object [("type", .string "function")]),
        ("inputs", .array [.string "00000000-0000-0000-0000-000000000003"]),
        ("outputs", .array [.string "00000000-0000-0000-0000-000000000003"])])]),
    ("artifacts", .object [("00000000-0000-0000-0000-000000000003",
      .object [("id", .string "00000000-0000-0000-0000-000000000002"), ("name", .string "sound"),
        ("type", .string "table")])])]

/-- The check accepts it although data flows in a circle between the two, which the page places as one node twice,
with edges to a node that is not placed, and where a click finds nothing. -/
theorem misfiled_accepted : Dag.decode misfiledDocument = some misfiled ∧ misfiled.validate = .ok () ∧
    ¬ Graph.Acyclic misfiled.Leads ∧
    (PositionedGraph.resolve misfiled {}).nodes.map PositionedNode.id = [⟨2⟩, ⟨2⟩] ∧
    (PositionedGraph.resolve misfiled {}).edges = [⟨⟨2⟩, ⟨3⟩⟩, ⟨⟨3⟩, ⟨2⟩⟩] ∧
    misfiled.nodeType? ⟨2⟩ = none ∧ ¬ misfiled.Viewable := by
  have out : misfiled.Leads ⟨2⟩ ⟨3⟩ := by unfold Leads; decide
  have back : misfiled.Leads ⟨3⟩ ⟨2⟩ := by unfold Leads; decide
  have circle : ¬ Graph.Acyclic misfiled.Leads := fun acyclic => acyclic ⟨2⟩ (.tail (.single out) back)
  exact ⟨rfl, rfl, circle, by decide, by decide, rfl, fun viewable => circle viewable.acyclic⟩

end Dag

end DagConsole

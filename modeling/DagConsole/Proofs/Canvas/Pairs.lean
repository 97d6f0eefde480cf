import DagConsole.Canvas.Basic
import DagConsole.Proofs.Dag.Validity
import Mathlib.Data.List.Nodup
import Mathlib.Data.List.Pairwise

/-! Outputs and the operators they are drawn at: in a sound version a folded output has its operator as
its only source. -/
namespace DagConsole

namespace Dag

variable {dag : Dag}

theorem Sound.producer_unique (sound : dag.Sound) {one other : Operator} {artifact : ArtifactId}
    (first : one ∈ dag.operators.values) (second : other ∈ dag.operators.values)
    (produced : artifact ∈ one.outputs) (again : artifact ∈ other.outputs) : one = other := by
  by_contra distinct
  have disjoint := (List.nodup_flatMap.mp sound.producers).2
  have : Std.Symm (Function.onFun List.Disjoint Operator.outputs) :=
    ⟨fun _ _ apart => List.Disjoint.symm apart⟩
  exact disjoint.forall first second distinct produced again

/-- Data never comes back to an identifier that it left. -/
theorem Sound.acyclic_leads (sound : dag.Sound) (keyed : dag.WellKeyed) (apart : dag.Apart) :
    Graph.Acyclic dag.Leads :=
  sound.acyclic.of_lift dag.nodeOf fun _ _ edge =>
    .single (flow_of_leads keyed apart sound.references edge)

end Dag

namespace Canvas

variable {dag : Dag}

theorem mem_outputs_of_foldedOutput {op : Operator} {artifact : ArtifactId}
    (folded : foldedOutput dag op = some artifact) : artifact ∈ op.outputs := by
  obtain ⟨_, _, first⟩ := Option.bind_eq_some_iff.mp folded
  exact List.mem_of_find?_eq_some first

/-- A pair stems from an operator of the version that folds the artifact. -/
theorem find?_pairOutputs {artifact : ArtifactId} {operator : NodeId} {type : OperatorType}
    (paired : (pairOutputs dag).find? artifact = some (operator, type)) :
    ∃ op ∈ dag.operators.values,
      operator = op.id.node ∧ type = op.type ∧ foldedOutput dag op = some artifact := by
  obtain ⟨op, member, entry⟩ := List.mem_filterMap.mp (FinMap.mem_of_find?_ofList paired)
  obtain ⟨folded, found, same⟩ := Option.map_eq_some_iff.mp entry
  cases same
  exact ⟨op, member, rfl, rfl, found⟩

section Nodes

variable {graph : PositionedGraph} {results : FinMap ArtifactId (Loadable ArtifactResult)} {selection : Selection}

theorem ids_collapse : (collapse graph dag results selection).nodes.map CanvasNode.id =
    (graph.nodes.filter fun node => !(pairOutputs dag).contains node.id.artifact).map PositionedNode.id := by
  simp only [collapse, List.map_map]
  rfl

/-- A node is drawn if it was placed and is not folded. -/
theorem mem_ids_collapse {id : NodeId} : id ∈ (collapse graph dag results selection).nodes.map CanvasNode.id ↔
    id ∈ graph.nodes.map PositionedNode.id ∧ (pairOutputs dag).contains id.artifact = false := by
  rw [ids_collapse]
  simp only [List.mem_map, List.mem_filter, Bool.not_eq_true']
  constructor
  · rintro ⟨node, ⟨placed, unpaired⟩, rfl⟩
    exact ⟨⟨node, placed, rfl⟩, unpaired⟩
  · rintro ⟨⟨node, placed, rfl⟩, unpaired⟩
    exact ⟨node, ⟨placed, unpaired⟩, rfl⟩

theorem nodup_ids_collapse (distinct : (graph.nodes.map PositionedNode.id).Nodup) :
    ((collapse graph dag results selection).nodes.map CanvasNode.id).Nodup := by
  rw [ids_collapse]
  exact distinct.sublist (List.filter_sublist.map _)

end Nodes

section Drawing

variable (sound : dag.Sound) (apart : dag.Apart) (keyed : dag.WellKeyed)

theorem drawnAs_of_unpaired {pairs : FinMap ArtifactId (NodeId × OperatorType)} {id : NodeId}
    (unpaired : pairs.contains id.artifact = false) : drawnAs pairs id = id := by
  have absent : pairs.find? id.artifact = none := by simpa [FinMap.contains] using unpaired
  simp [drawnAs, absent]

/-- A node is drawn as itself, or at an operator that folds it. -/
theorem drawnAs_cases (dag : Dag) (id : NodeId) :
    ((pairOutputs dag).contains id.artifact = false ∧ drawnAs (pairOutputs dag) id = id) ∨
      ∃ op ∈ dag.operators.values, foldedOutput dag op = some id.artifact ∧
        drawnAs (pairOutputs dag) id = op.id.node := by
  cases found : (pairOutputs dag).find? id.artifact with
  | none =>
    have unpaired : (pairOutputs dag).contains id.artifact = false := by simp [FinMap.contains, found]
    exact .inl ⟨unpaired, drawnAs_of_unpaired unpaired⟩
  | some pair =>
    obtain ⟨op, member, operator, _, folded⟩ := find?_pairOutputs found
    exact .inr ⟨op, member, folded, by simp [drawnAs, found, operator]⟩

include sound in
/-- Only artifacts of the version are folded. -/
theorem artifact_of_paired {artifact : ArtifactId} (paired : (pairOutputs dag).contains artifact) :
    dag.artifacts.contains artifact := by
  obtain ⟨⟨operator, type⟩, found⟩ := Option.isSome_iff_exists.mp paired
  obtain ⟨op, member, _, _, folded⟩ := find?_pairOutputs found
  have produced := List.mem_append_right op.inputs (mem_outputs_of_foldedOutput folded)
  exact FinMap.contains_iff.mpr (sound.references op member artifact produced)

include sound apart keyed in
/-- No operator is folded into another one. -/
theorem unpaired_of_operator {op : Operator} (member : op ∈ dag.operators.values) :
    (pairOutputs dag).contains op.id.node.artifact = false := by
  apply Bool.eq_false_iff.mpr
  intro paired
  have operator := apart.not_operator (artifact_of_paired sound paired)
  rw [Id.artifact_node, Id.operator_artifact, Id.operator_self,
    keyed.contains_operator member] at operator
  cases operator

include sound apart keyed in
theorem drawnAs_operator {op : Operator} (member : op ∈ dag.operators.values) :
    drawnAs (pairOutputs dag) op.id.node = op.id.node :=
  drawnAs_of_unpaired (unpaired_of_operator sound apart keyed member)

/-- Data leads from where a node is drawn to the node itself. -/
theorem leads_of_drawnAs (id : NodeId) :
    Relation.ReflTransGen dag.Leads (drawnAs (pairOutputs dag) id) id := by
  rcases drawnAs_cases dag id with ⟨_, place⟩ | ⟨op, member, folded, place⟩
  · rw [place]
  · rw [place]
    exact .single (Dag.leads_iff.mpr ⟨op, member, .inr ⟨rfl, mem_outputs_of_foldedOutput folded⟩⟩)

include sound apart keyed in
/-- An edge into a folded output comes from the operator that it is drawn at. -/
theorem drawnAs_of_leads_paired {source target : NodeId} (edge : dag.Leads source target)
    (paired : (pairOutputs dag).contains target.artifact) :
    drawnAs (pairOutputs dag) source = drawnAs (pairOutputs dag) target := by
  rcases drawnAs_cases dag target with ⟨unpaired, _⟩ | ⟨op, member, folded, place⟩
  · cases paired.symm.trans unpaired
  obtain ⟨other, present, ⟨_, rfl⟩ | ⟨rfl, produced⟩⟩ := Dag.leads_iff.mp edge
  · rw [unpaired_of_operator sound apart keyed present] at paired
    cases paired
  · have same := sound.producer_unique present member produced (mem_outputs_of_foldedOutput folded)
    rw [place, drawnAs_operator sound apart keyed present, same]

end Drawing

end Canvas

end DagConsole

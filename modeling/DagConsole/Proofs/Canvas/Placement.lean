import DagConsole.Canvas.PositionedGraph
import DagConsole.Proofs.Dag.Edges
import DagConsole.Proofs.Sorting

/-! The nodes that a version is drawn with: where its maps are keyed by identifier and no operator shares one with an
artifact, each node is placed once, and it is found under the identifier that it is placed with. -/
namespace DagConsole

namespace Id

variable {kind : IdKind}

theorem node_injective : Function.Injective (node : Id kind → NodeId) := by
  intro a b same
  cases a
  cases b
  cases same
  rfl

end Id

namespace PositionedGraph

variable {dag : Dag} {layout : Layout} {operators others : List Operator} {artifacts otherArtifacts : List Artifact}

theorem mem_operatorNodes {node : PositionedNode} : node ∈ operatorNodes layout operators ↔
    ∃ op ∈ operators, place layout op.id.node (.ofOperator op.type) op.name = node := by
  simp [operatorNodes, (Sorting.perm_sortBy _ operators).mem_iff]

theorem mem_artifactNodes {node : PositionedNode} : node ∈ artifactNodes layout artifacts ↔
    ∃ artifact ∈ artifacts, place layout artifact.id.node (.ofArtifact artifact.type) artifact.name = node := by
  simp [artifactNodes, (Sorting.perm_sortBy _ artifacts).mem_iff]

theorem ids_operatorNodes : ((operatorNodes layout operators).map PositionedNode.id).Perm
    (operators.map fun op => op.id.node) := by
  simp only [operatorNodes, List.map_map]
  exact (Sorting.perm_sortBy _ operators).map _

theorem ids_artifactNodes : ((artifactNodes layout artifacts).map PositionedNode.id).Perm
    (artifacts.map fun artifact => artifact.id.node) := by
  simp only [artifactNodes, List.map_map]
  exact (Sorting.perm_sortBy _ artifacts).map _

/-- The operators are placed in one order, whatever order they come in. -/
theorem operatorNodes_eq_of_perm (same : operators.Perm others) (distinct : (operators.map Operator.id).Nodup) :
    operatorNodes layout operators = operatorNodes layout others := by
  unfold operatorNodes
  rw [Sorting.sortBy_eq_of_perm (fun a b => Sorting.isLE_total compare a.id b.id)
    (fun _ _ _ => Std.TransCmp.isLE_trans) same]
  intro a first b second before after
  exact List.inj_on_of_nodup_map distinct first second (Sorting.isLE_antisymm before after)

/-- So are the artifacts. -/
theorem artifactNodes_eq_of_perm (same : artifacts.Perm otherArtifacts)
    (distinct : (artifacts.map Artifact.id).Nodup) :
    artifactNodes layout artifacts = artifactNodes layout otherArtifacts := by
  unfold artifactNodes
  rw [Sorting.sortBy_eq_of_perm (fun a b => Sorting.isLE_total compare a.id b.id)
    (fun _ _ _ => Std.TransCmp.isLE_trans) same]
  intro a first b second before after
  exact List.inj_on_of_nodup_map distinct first second (Sorting.isLE_antisymm before after)

theorem ids_resolve (dag : Dag) (layout : Layout) : ((resolve dag layout).nodes.map PositionedNode.id).Perm
    (dag.operators.values.map (fun op => op.id.node) ++
      dag.artifacts.values.map fun artifact => artifact.id.node) := by
  simp only [resolve, List.map_append]
  exact ids_operatorNodes.append ids_artifactNodes

variable (keyed : dag.WellKeyed)

include keyed in
/-- The nodes placed are those that the maps hold. -/
theorem ids_resolve_of_wellKeyed (layout : Layout) : ((resolve dag layout).nodes.map PositionedNode.id).Perm
    (dag.operators.keys.map Id.node ++ dag.artifacts.keys.map Id.node) := by
  have ids := ids_resolve dag layout
  rwa [← keyed.operators.map_values, ← keyed.artifacts.map_values, List.map_map, List.map_map]

include keyed in
theorem nodup_ids_resolve (apart : dag.Apart) :
    ((resolve dag layout).nodes.map PositionedNode.id).Nodup := by
  rw [(ids_resolve_of_wellKeyed keyed layout).nodup_iff, List.nodup_append]
  refine ⟨dag.operators.nodup_keys.map Id.node_injective, dag.artifacts.nodup_keys.map Id.node_injective, ?_⟩
  intro _ operator _ artifact same
  obtain ⟨op, member, rfl⟩ := List.mem_map.mp operator
  obtain ⟨stored, present, rfl⟩ := List.mem_map.mp artifact
  cases Id.node_injective.eq_iff.mp (show op.artifact.node = stored.node from same)
  have absent := apart op member
  rw [FinMap.contains_iff.mpr present] at absent
  cases absent

include keyed in
/-- Where a node is drawn as some kind of node, its identifier is looked up as that kind. -/
theorem nodeType?_of_mem_resolve (apart : dag.Apart) {node : PositionedNode}
    (member : node ∈ (resolve dag layout).nodes) : dag.nodeType? node.id = some node.type := by
  rw [Dag.nodeType?_eq_some_iff]
  rcases List.mem_append.mp member with operator | artifact
  · obtain ⟨op, stored, rfl⟩ := mem_operatorNodes.mp operator
    exact .inl ⟨op, keyed.operators.find?_key stored, rfl⟩
  · obtain ⟨other, stored, rfl⟩ := mem_artifactNodes.mp artifact
    have found := keyed.artifacts.find?_key stored
    have absent := apart.not_operator (FinMap.contains_of_find? found)
    have unknown := Option.isNone_iff_eq_none.mp (Option.isSome_eq_false_iff.mp absent)
    exact .inr ⟨unknown, other, found, rfl⟩

end PositionedGraph

end DagConsole

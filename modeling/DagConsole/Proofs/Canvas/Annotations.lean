import DagConsole.Proofs.Canvas.Pairs
import DagConsole.Proofs.Canvas.Placement

/-! What is shown at the operators on the canvas. In a sound version an operator that has an output of the type it is
drawn together with shows what was fetched for the first such output. -/
namespace DagConsole

/-- An artifact of a version is of some type. -/
def Dag.HasType (dag : Dag) (artifact : ArtifactId) (type : ArtifactType) : Prop :=
  ∃ stored, dag.artifacts.find? artifact = some stored ∧ stored.type = type

/-- The first output of an operator that is of some type. -/
def Operator.FirstOutput (op : Operator) (dag : Dag) (type : ArtifactType) (artifact : ArtifactId) : Prop :=
  ∃ earlier later, op.outputs = earlier ++ artifact :: later ∧ dag.HasType artifact type ∧
    ∀ other ∈ earlier, ¬dag.HasType other type

namespace Canvas

variable {dag : Dag} {op : Operator} {artifact : ArtifactId} {type : ArtifactType} {layout : Layout}
  {graph : PositionedGraph}
  {results : FinMap ArtifactId (Loadable ArtifactResult)} {selection : Selection}

theorem any_type_iff : (dag.artifacts.find? artifact).any (fun stored => stored.type == type) = true ↔
    dag.HasType artifact type := by
  rw [Option.any_eq_true]
  simp only [beq_iff_eq, Dag.HasType]

theorem find?_outputs_iff : (op.outputs.find? fun id => (dag.artifacts.find? id).any fun stored => stored.type == type) =
    some artifact ↔ op.FirstOutput dag type artifact := by
  rw [List.find?_eq_some_iff_append, any_type_iff]
  simp only [Bool.not_eq_true', Bool.eq_false_iff, ne_eq, any_type_iff, Operator.FirstOutput]
  constructor
  · rintro ⟨typed, earlier, later, split, none⟩
    exact ⟨earlier, later, split, typed, none⟩
  · rintro ⟨earlier, later, split, typed, none⟩
    exact ⟨typed, earlier, later, split, none⟩

/-- An operator with an output of some type has a first one. -/
theorem exists_firstOutput (output : artifact ∈ op.outputs) (typed : dag.HasType artifact type) :
    ∃ first, op.FirstOutput dag type first := by
  have found : (op.outputs.find? fun id => (dag.artifacts.find? id).any fun stored => stored.type == type).isSome :=
    List.find?_isSome.mpr ⟨artifact, output, any_type_iff.mpr typed⟩
  obtain ⟨first, same⟩ := Option.isSome_iff_exists.mp found
  exact ⟨first, find?_outputs_iff.mp same⟩

theorem foldedOutput_eq_some_iff : foldedOutput dag op = some artifact ↔
    ∃ type, foldedType op.type = some type ∧ op.FirstOutput dag type artifact := by
  simp only [foldedOutput, Option.bind_eq_bind, Option.bind_eq_some_iff, find?_outputs_iff]

theorem foldedOutput_of_first (folds : foldedType op.type = some type) (first : op.FirstOutput dag type artifact) :
    foldedOutput dag op = some artifact := foldedOutput_eq_some_iff.mpr ⟨type, folds, first⟩

/-- An operator has one output folded into it at most. -/
theorem eq_of_operator (keyed : dag.WellKeyed) {one other : ArtifactId × NodeId × OperatorType}
    (first : one ∈ (pairOutputs dag).entries) (second : other ∈ (pairOutputs dag).entries)
    (same : one.2.1 = other.2.1) : one = other := by
  obtain ⟨op, member, operator, type, folded⟩ := find?_pairOutputs (FinMap.find?_eq_some_iff.mpr first)
  obtain ⟨otherOp, otherMember, otherOperator, otherType, otherFolded⟩ :=
    find?_pairOutputs (FinMap.find?_eq_some_iff.mpr second)
  have ids : op.id = otherOp.id := Id.node_injective (operator.symm.trans (same.trans otherOperator))
  have ops : some op = some otherOp := by
    rw [← keyed.operators.find?_key member, ids, keyed.operators.find?_key otherMember]
  cases ops
  exact (pairOutputs dag).consistent_entries one first other second (Option.some.inj (folded.symm.trans otherFolded))


section Drawing

variable (sound : dag.Sound) (apart : dag.Apart) (keyed : dag.WellKeyed)

include sound in
/-- Each folded output is paired with its operator: no other one produces it. -/
theorem find?_pairOutputs_of_folded (member : op ∈ dag.operators.values) (folded : foldedOutput dag op = some artifact) :
    (pairOutputs dag).find? artifact = some (op.id.node, op.type) := by
  have paired : artifact ∈ (dag.operators.values.filterMap fun op =>
      (foldedOutput dag op).map fun artifact => (artifact, (op.id.node, op.type))).map Prod.fst := by
    simp only [List.map_filterMap, Option.map_map, List.mem_filterMap]
    exact ⟨op, member, by rw [folded]; rfl⟩
  obtain ⟨⟨operator, type⟩, found⟩ := Option.isSome_iff_exists.mp (FinMap.contains_ofList.mpr paired)
  obtain ⟨other, present, rfl, rfl, again⟩ := find?_pairOutputs found
  have same := sound.producer_unique member present (mem_outputs_of_foldedOutput folded)
    (mem_outputs_of_foldedOutput again)
  rw [same]
  exact found

include sound keyed in
theorem find?_annotations_of_folded (member : op ∈ dag.operators.values) (folded : foldedOutput dag op = some artifact) :
    (annotationsOf dag results (pairOutputs dag).entries).find? op.id.node =
      some (annotate dag results artifact op.id.node op.type) := by
  have consistent : FinMap.Consistent ((pairOutputs dag).entries.map fun entry =>
      (entry.2.1, annotate dag results entry.1 entry.2.1 entry.2.2)) := by
    intro one first other second same
    obtain ⟨entry, member, rfl⟩ := List.mem_map.mp first
    obtain ⟨otherEntry, otherMember, rfl⟩ := List.mem_map.mp second
    rw [eq_of_operator keyed member otherMember same]
  have paired := FinMap.find?_eq_some_iff.mp (find?_pairOutputs_of_folded sound member folded)
  exact (FinMap.find?_ofList_eq_some_iff consistent).mpr (List.mem_map.mpr ⟨_, paired, rfl⟩)

/-- Where nodes have different identifiers, each one is found under its own. -/
theorem node?_of_mem {canvas : Canvas} {node : CanvasNode} (distinct : (canvas.nodes.map CanvasNode.id).Nodup)
    (drawn : node ∈ canvas.nodes) : canvas.node? node.id = some node := by
  have some : (canvas.nodes.find? fun other => other.id == node.id).isSome :=
    List.find?_isSome.mpr ⟨node, drawn, BEq.rfl⟩
  obtain ⟨other, first⟩ := Option.isSome_iff_exists.mp some
  have same : other.id = node.id :=
    beq_iff_eq.mp (List.find?_some (p := fun other : CanvasNode => other.id == node.id) first)
  rw [node?, first, List.inj_on_of_nodup_map distinct (List.mem_of_find?_eq_some first) drawn same]

theorem annotation_of_mem_collapse {node : CanvasNode} (drawn : node ∈ (collapse graph dag results selection).nodes) :
    node.annotation = (annotationsOf dag results (pairOutputs dag).entries).find? node.id := by
  obtain ⟨_, _, rfl⟩ := List.mem_map.mp drawn
  rfl

theorem node?_collapse (results : FinMap ArtifactId (Loadable ArtifactResult)) (selection : Selection)
    (distinct : (graph.nodes.map PositionedNode.id).Nodup) {node : PositionedNode} (member : node ∈ graph.nodes)
    (unpaired : (pairOutputs dag).contains node.id.artifact = false) :
    ∃ drawn, (collapse graph dag results selection).node? node.id = some drawn ∧
      drawn.annotation = (annotationsOf dag results (pairOutputs dag).entries).find? node.id := by
  have present : node.id ∈ (collapse graph dag results selection).nodes.map CanvasNode.id :=
    mem_ids_collapse.mpr ⟨List.mem_map_of_mem member, unpaired⟩
  obtain ⟨drawn, inside, same⟩ := List.mem_map.mp present
  rw [← same]
  exact ⟨drawn, node?_of_mem (nodup_ids_collapse distinct) inside, annotation_of_mem_collapse inside⟩

include sound apart keyed in
/-- An operator shows what there is of its first output of the type that it is drawn together with. -/
theorem annotation_of_first (member : op ∈ dag.operators.values) (folds : foldedType op.type = some type)
    (first : op.FirstOutput dag type artifact) :
    ∃ node, (collapse (.resolve dag layout) dag results selection).node? op.id.node = some node ∧
      node.annotation = some (annotate dag results artifact op.id.node op.type) := by
  have placed : PositionedGraph.place layout op.id.node (.ofOperator op.type) op.name ∈
      (PositionedGraph.resolve dag layout).nodes :=
    List.mem_append_left _ (PositionedGraph.mem_operatorNodes.mpr ⟨op, member, rfl⟩)
  obtain ⟨node, drawn, annotation⟩ := node?_collapse results selection
    (PositionedGraph.nodup_ids_resolve keyed apart) placed (unpaired_of_operator sound apart keyed member)
  exact ⟨node, drawn, annotation.trans (find?_annotations_of_folded sound keyed member (foldedOutput_of_first folds first))⟩

/-- A check shows whether it passed, at its level. -/
theorem annotate_check (keyed : dag.WellKeyed) (member : op ∈ dag.operators.values) (check : op.type = .check) :
    annotate dag results artifact op.id.node op.type =
      .check artifact (((results.find? artifact).bind Loadable.value?).bind ArtifactResult.asBool)
        (op.spec.checkLevel.getD .default) := by
  have stored : dag.operators.find? op.id.node.operator = some op := keyed.operators.find?_key member
  simp only [annotate, check, stored]
  rfl

/-- A metric shows its value. -/
theorem annotate_metric (metric : op.type = .metric ∨ op.type = .systemMetric) :
    annotate dag results artifact op.id.node op.type =
      .metric artifact (((results.find? artifact).bind Loadable.value?).bind ArtifactResult.asNumber) := by
  rcases metric with metric | metric
  · simp only [annotate, metric]
  · simp only [annotate, metric]

end Drawing

end Canvas

end DagConsole

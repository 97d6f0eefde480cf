import DagConsole.Proofs.Canvas.Annotations
import DagConsole.Proofs.Canvas.Dataflow
import DagConsole.Proofs.Canvas.View

/-! What is on the canvas of a version that passes the check: which nodes are drawn and where, what joins them, and what
is shown at them. No artifact gets lost, since each one that is folded has one operator that shows it. -/
namespace DagConsole

/-- Where a list names an element again, only the first mention is kept. -/
theorem nodup_eraseDups {α : Type} [BEq α] [LawfulBEq α] : (list : List α) → list.eraseDups.Nodup
  | [] => .nil
  | first :: rest => by
    rw [List.eraseDups_cons, List.nodup_cons, List.mem_eraseDups]
    exact ⟨by simp, nodup_eraseDups _⟩
termination_by list => list.length
decreasing_by exact Nat.lt_succ_of_le (List.length_filter_le _ _)

/-- An operator where the layout lists it, be it as an operator or else as an artifact; what is not listed is at the
origin. -/
def PositionedNode.ofOperator (layout : Layout) (op : Operator) : PositionedNode :=
  ⟨op.id.node, .ofOperator op.type, op.name,
    ((layout.operators.find? op.id).or (layout.artifacts.find? op.id.artifact)).getD .origin⟩

/-- An artifact where the layout lists it; here too a position among the operators comes first. -/
def PositionedNode.ofArtifact (layout : Layout) (artifact : Artifact) : PositionedNode :=
  ⟨artifact.id.node, .ofArtifact artifact.type, artifact.name,
    ((layout.operators.find? artifact.id.operator).or (layout.artifacts.find? artifact.id)).getD .origin⟩

/-- The operators and the artifacts of a version in the order of their identifiers. -/
structure Dag.Listed (dag : Dag) (operators : List Operator) (artifacts : List Artifact) : Prop where
  operators_perm : operators.Perm dag.operators.values
  operators_ascending : operators.Pairwise fun a b => compare a.id b.id = .lt
  artifacts_perm : artifacts.Perm dag.artifacts.values
  artifacts_ascending : artifacts.Pairwise fun a b => compare a.id b.id = .lt

/-- A drawn node as it was placed. -/
def CanvasNode.placed (node : CanvasNode) : PositionedNode := ⟨node.id, node.type, node.label, node.position⟩

/-- What is shown for an artifact at its operator: whether a check passed, with its level, or the number that a metric
computed. Without a loaded value it is neither passed nor failed, or no number. -/
inductive Annotation.Shows (op : Operator) (artifact : ArtifactId) (loaded : Option ArtifactResult) : Annotation → Prop where
  | check {level : CheckLevel} (kind : op.type = .check) (levelled : op.spec.checkLevel = some level) :
      Shows op artifact loaded (.check artifact (loaded.bind ArtifactResult.asBool) level)
  | metric (kind : op.type = .metric ∨ op.type = .systemMetric) :
      Shows op artifact loaded (.metric artifact (loaded.bind ArtifactResult.asNumber))

theorem Annotation.Shows.artifact_eq {op : Operator} {artifact : ArtifactId} {loaded : Option ArtifactResult}
    {note : Annotation} (shows : note.Shows op artifact loaded) : note.artifact = artifact := by
  cases shows <;> rfl

namespace Canvas

/-- The operators that are drawn together with an output, and the type of that. -/
inductive FoldsType : OperatorType → ArtifactType → Prop where
  | check : FoldsType .check .bool
  | metric : FoldsType .metric .numeric
  | systemMetric : FoldsType .systemMetric .numeric

/-- An artifact is drawn at an operator of the version: it is the first output of the type that such an operator is
drawn together with. -/
def Folds (dag : Dag) (op : Operator) (artifact : ArtifactId) : Prop :=
  op ∈ dag.operators.values ∧ ∃ type, FoldsType op.type type ∧ op.FirstOutput dag type artifact

/-- Where a node is drawn: a folded artifact at its operator, any other node as itself. -/
inductive DrawnAt (dag : Dag) (id : NodeId) : NodeId → Prop where
  | operator {op : Operator} (folds : Folds dag op id.artifact) : DrawnAt dag id op.id.node
  | itself (unfolded : ∀ op, ¬Folds dag op id.artifact) : DrawnAt dag id id

variable {dag : Dag} {op : Operator} {artifact : ArtifactId} {layout : Layout} {graph : PositionedGraph}
  {results : FinMap ArtifactId (Loadable ArtifactResult)} {selection : Selection} {note : Annotation}

theorem foldedType_eq_some_iff {kind : OperatorType} {type : ArtifactType} :
    foldedType kind = some type ↔ FoldsType kind type := by
  constructor
  · intro folded
    cases kind <;> cases folded <;> constructor
  · intro folds
    cases folds <;> rfl

theorem folds_iff : Folds dag op artifact ↔ op ∈ dag.operators.values ∧ foldedOutput dag op = some artifact := by
  simp only [Folds, foldedOutput_eq_some_iff, foldedType_eq_some_iff]

/-- The pairs are the operators of the version with what they fold, and none has replaced another. -/
theorem find?_pairOutputs_eq_some_iff (sound : dag.Sound) {operator : NodeId} {type : OperatorType} :
    (pairOutputs dag).find? artifact = some (operator, type) ↔
      ∃ op, Folds dag op artifact ∧ op.id.node = operator ∧ op.type = type := by
  constructor
  · intro paired
    obtain ⟨op, member, rfl, rfl, folded⟩ := find?_pairOutputs paired
    exact ⟨op, folds_iff.mpr ⟨member, folded⟩, rfl, rfl⟩
  · rintro ⟨op, folds, rfl, rfl⟩
    obtain ⟨member, folded⟩ := folds_iff.mp folds
    exact find?_pairOutputs_of_folded sound member folded

/-! ### Nodes -/

theorem placed_collapse : (collapse graph dag results selection).nodes.map CanvasNode.placed =
    graph.nodes.filter fun node => !(pairOutputs dag).contains node.id.artifact := by
  simp only [collapse, List.map_map]
  exact List.map_id _

section Drawing

variable (sound : dag.Sound) (apart : dag.Apart) (keyed : dag.WellKeyed)

include keyed in
theorem listed_sortBy : dag.Listed (Sorting.sortBy (fun a b => (compare a.id b.id).isLE) dag.operators.values)
    (Sorting.sortBy (fun a b => (compare a.id b.id).isLE) dag.artifacts.values) where
  operators_perm := Sorting.perm_sortBy _ _
  operators_ascending := by
    apply Sorting.ascending_sortBy Operator.id
    rw [keyed.operators.map_values]
    exact dag.operators.nodup_keys
  artifacts_perm := Sorting.perm_sortBy _ _
  artifacts_ascending := by
    apply Sorting.ascending_sortBy Artifact.id
    rw [keyed.artifacts.map_values]
    exact dag.artifacts.nodup_keys

include sound apart keyed in
/-- All operators are drawn, and after them the artifacts that are not folded, each group in ascending order. -/
theorem placed_collapse_resolve (layout : Layout) : ∃ operators artifacts, dag.Listed operators artifacts ∧
    (PositionedGraph.resolve dag layout).nodes =
      operators.map (PositionedNode.ofOperator layout) ++ artifacts.map (PositionedNode.ofArtifact layout) ∧
    (collapse (.resolve dag layout) dag results selection).nodes.map CanvasNode.placed =
      operators.map (PositionedNode.ofOperator layout) ++
        (artifacts.filter fun artifact => !(pairOutputs dag).contains artifact.id).map
          (PositionedNode.ofArtifact layout) := by
  refine ⟨_, _, listed_sortBy keyed, rfl, ?_⟩
  have drawn : ∀ node ∈ PositionedGraph.operatorNodes layout dag.operators.values,
      (!(pairOutputs dag).contains node.id.artifact) = true := by
    intro node placed
    obtain ⟨op, member, rfl⟩ := PositionedGraph.mem_operatorNodes.mp placed
    rw [Bool.not_eq_true']
    exact unpaired_of_operator sound apart keyed member
  rw [placed_collapse, PositionedGraph.resolve, List.filter_append, List.filter_eq_self.mpr drawn,
    PositionedGraph.artifactNodes, List.filter_map]
  rfl

include sound apart keyed in
/-- Every operator is drawn. -/
theorem operator_mem_ids_collapse (member : op ∈ dag.operators.values) :
    op.id.node ∈ (collapse (.resolve dag layout) dag results selection).nodes.map CanvasNode.id := by
  have key := FinMap.contains_iff.mp (keyed.contains_operator member)
  rw [mem_ids_collapse, (PositionedGraph.ids_resolve_of_wellKeyed keyed layout).mem_iff]
  exact ⟨List.mem_append_left _ (List.mem_map_of_mem key), unpaired_of_operator sound apart keyed member⟩

/-! ### Edges -/

include sound in
theorem drawnAt_iff {id place : NodeId} : DrawnAt dag id place ↔ drawnAs (pairOutputs dag) id = place := by
  constructor
  · intro drawn
    cases drawn with
    | operator folds => simp [drawnAs, (find?_pairOutputs_eq_some_iff sound).mpr ⟨_, folds, rfl, rfl⟩]
    | itself unfolded =>
      apply drawnAs_of_unpaired
      refine Bool.eq_false_iff.mpr fun paired => ?_
      obtain ⟨⟨operator, type⟩, found⟩ := Option.isSome_iff_exists.mp paired
      obtain ⟨op, folds, _⟩ := (find?_pairOutputs_eq_some_iff sound).mp found
      exact unfolded op folds
  · rintro rfl
    rcases drawnAs_cases dag id with ⟨unpaired, place⟩ | ⟨op, member, folded, place⟩
    · rw [place]
      refine .itself fun op folds => ?_
      have paired := FinMap.contains_of_find? ((find?_pairOutputs_eq_some_iff sound).mpr ⟨op, folds, rfl, rfl⟩)
      exact Bool.false_ne_true (unpaired.symm.trans paired)
    · rw [place]
      exact .operator (folds_iff.mpr ⟨member, folded⟩)

include sound apart keyed in
/-- Wherever a node of the version is drawn, there is a node on the canvas. -/
theorem drawnAs_mem_ids {id : NodeId}
    (stored : id ∈ dag.operators.keys.map Id.node ++ dag.artifacts.keys.map Id.node) :
    drawnAs (pairOutputs dag) id ∈ (collapse (.resolve dag layout) dag results selection).nodes.map CanvasNode.id := by
  rcases drawnAs_cases dag id with ⟨unpaired, place⟩ | ⟨op, member, _, place⟩
  · rw [place, mem_ids_collapse, (PositionedGraph.ids_resolve_of_wellKeyed keyed layout).mem_iff]
    exact ⟨stored, unpaired⟩
  · rw [place]
    exact operator_mem_ids_collapse sound apart keyed member

/-! ### Annotations -/

include keyed in
/-- What is to be shown for a folded artifact is what its operator is annotated with. -/
theorem shows_iff (folds : Folds dag op artifact) :
    note.Shows op artifact ((results.find? artifact).bind Loadable.value?) ↔
      note = annotate dag results artifact op.id.node op.type := by
  obtain ⟨member, type, folded, _⟩ := folds
  have folded := foldedType_eq_some_iff.mpr folded
  by_cases check : op.type = .check
  · obtain ⟨level, levelled⟩ : ∃ level, op.spec.checkLevel = some level := ⟨_, if_pos check⟩
    rw [annotate_check keyed member check, levelled, Option.getD_some]
    constructor
    · intro shows
      cases shows with
      | check _ same =>
        cases levelled.symm.trans same
        rfl
      | metric other => simp [check] at other
    · rintro rfl
      exact .check check levelled
  · have metric : op.type = .metric ∨ op.type = .systemMetric := by
      cases kind : op.type <;> simp_all [foldedType]
    rw [annotate_metric metric]
    constructor
    · intro shows
      cases shows with
      | check other _ => exact absurd other check
      | metric _ => rfl
    · rintro rfl
      exact .metric metric

include sound keyed in
/-- A node is annotated if it is an operator that folds an artifact, with what is shown for this one. -/
theorem annotation_eq_some_iff {node : CanvasNode} (drawn : node ∈ (collapse graph dag results selection).nodes) :
    node.annotation = some note ↔ ∃ op artifact, Folds dag op artifact ∧ op.id.node = node.id ∧
      note.Shows op artifact ((results.find? artifact).bind Loadable.value?) := by
  rw [annotation_of_mem_collapse drawn]
  constructor
  · intro found
    obtain ⟨⟨artifact, operator, type⟩, member, same⟩ := List.mem_map.mp (FinMap.mem_of_find?_ofList found)
    cases same
    obtain ⟨op, folds, operator, rfl⟩ :=
      (find?_pairOutputs_eq_some_iff sound).mp (FinMap.find?_eq_some_iff.mpr member)
    refine ⟨op, artifact, folds, operator, (shows_iff keyed folds).mpr ?_⟩
    rw [operator]
  · rintro ⟨op, artifact, folds, operator, shows⟩
    obtain ⟨member, folded⟩ := folds_iff.mp folds
    rw [← operator, find?_annotations_of_folded sound keyed member folded, (shows_iff keyed folds).mp shows]

include sound keyed in
/-- The nodes with an annotation are the operators of the pairs. -/
theorem isSome_annotation_iff {node : CanvasNode} (drawn : node ∈ (collapse graph dag results selection).nodes) :
    node.annotation.isSome ↔ ∃ artifact type, (pairOutputs dag).find? artifact = some (node.id, type) := by
  simp only [Option.isSome_iff_exists, annotation_eq_some_iff sound keyed drawn, find?_pairOutputs_eq_some_iff sound]
  constructor
  · rintro ⟨_, op, artifact, folds, operator, _⟩
    exact ⟨artifact, op.type, op, folds, operator, rfl⟩
  · rintro ⟨artifact, _, op, folds, operator, _⟩
    exact ⟨_, op, artifact, folds, operator, (shows_iff keyed folds).mpr rfl⟩

include sound apart keyed in
/-- An artifact that is folded is shown at its operator and nowhere else. -/
theorem shown_at_operator {operator : NodeId} {type : OperatorType}
    (paired : (pairOutputs dag).find? artifact = some (operator, type)) :
    ∃ node ∈ (collapse (.resolve dag layout) dag results selection).nodes, node.id = operator ∧
      ∀ other ∈ (collapse (.resolve dag layout) dag results selection).nodes,
        other.annotation.map Annotation.artifact = some artifact ↔ other = node := by
  obtain ⟨op, folds, rfl, _⟩ := (find?_pairOutputs_eq_some_iff sound).mp paired
  obtain ⟨node, drawn, same⟩ := List.mem_map.mp (operator_mem_ids_collapse sound apart keyed folds.1)
  refine ⟨node, drawn, same, fun other alsoDrawn => ⟨fun named => ?_, fun here => ?_⟩⟩
  · obtain ⟨note, held, named⟩ := Option.map_eq_some_iff.mp named
    obtain ⟨otherOp, otherArtifact, otherFolds, otherSame, shows⟩ :=
      (annotation_eq_some_iff sound keyed alsoDrawn).mp held
    cases shows.artifact_eq.symm.trans named
    -- Both nodes are operators that produce the artifact, of which there is one only.
    have producer := sound.producer_unique otherFolds.1 folds.1
      (mem_outputs_of_foldedOutput (folds_iff.mp otherFolds).2) (mem_outputs_of_foldedOutput (folds_iff.mp folds).2)
    have ids : other.id = node.id := by rw [← otherSame, producer, same]
    have distinct : ((PositionedGraph.resolve dag layout).nodes.map PositionedNode.id).Nodup :=
      PositionedGraph.nodup_ids_resolve keyed apart
    exact List.inj_on_of_nodup_map (nodup_ids_collapse distinct) alsoDrawn drawn ids
  · have shows : (annotate dag results artifact op.id.node op.type).Shows op artifact
        ((results.find? artifact).bind Loadable.value?) := (shows_iff keyed folds).mpr rfl
    have held := (annotation_eq_some_iff sound keyed drawn).mpr ⟨op, artifact, folds, same.symm, shows⟩
    rw [here, held, Option.map_some, shows.artifact_eq]

end Drawing

/-! ### The whole canvas -/

/-- All that is on a canvas which shows a version, laid out in some way, with some results and some selection. -/
structure Contents (dag : Dag) (layout : Layout) (results : FinMap ArtifactId (Loadable ArtifactResult))
    (selection : Selection) (canvas : Canvas) : Prop where
  /-- The artifacts left out are those that an operator folds, with this operator. -/
  paired : ∀ {artifact : ArtifactId} {operator : NodeId} {type : OperatorType},
    (pairOutputs dag).find? artifact = some (operator, type) ↔
      ∃ op, Folds dag op artifact ∧ op.id.node = operator ∧ op.type = type
  /-- The others are drawn as they are placed, after the operators; each group ascends. -/
  placed : ∃ operators artifacts, dag.Listed operators artifacts ∧
    (PositionedGraph.resolve dag layout).nodes =
      operators.map (PositionedNode.ofOperator layout) ++ artifacts.map (PositionedNode.ofArtifact layout) ∧
    canvas.nodes.map CanvasNode.placed = operators.map (PositionedNode.ofOperator layout) ++
      (artifacts.filter fun artifact => !(pairOutputs dag).contains artifact.id).map (PositionedNode.ofArtifact layout)
  distinct : (canvas.nodes.map CanvasNode.id).Nodup
  selected : ∀ node ∈ canvas.nodes, node.selected ↔ ∃ clicked, selection.node = some clicked ∧ clicked.id = node.id
  nodup_edges : canvas.edges.Nodup
  /-- The edges are those of the version, from and to where their ends are drawn, less the loops. -/
  leads_iff : ∀ {source target : NodeId}, canvas.Leads source target ↔ source ≠ target ∧
    ∃ one other, dag.Leads one other ∧ DrawnAt dag one source ∧ DrawnAt dag other target
  closed : ∀ {source target : NodeId}, canvas.Leads source target →
    source ∈ canvas.nodes.map CanvasNode.id ∧ target ∈ canvas.nodes.map CanvasNode.id
  annotated : ∀ node ∈ canvas.nodes, node.annotation.isSome ↔
    ∃ artifact type, (pairOutputs dag).find? artifact = some (node.id, type)
  shows : ∀ node ∈ canvas.nodes, ∀ note : Annotation, node.annotation = some note ↔
    ∃ op artifact, Folds dag op artifact ∧ op.id.node = node.id ∧
      note.Shows op artifact ((results.find? artifact).bind Loadable.value?)
  /-- What is left out is an artifact of the version that its operator shows, and no other node. -/
  shown : ∀ {artifact : ArtifactId} {operator : NodeId} {type : OperatorType},
    (pairOutputs dag).find? artifact = some (operator, type) →
      dag.artifacts.contains artifact ∧ artifact.node ∉ canvas.nodes.map CanvasNode.id ∧
      ∃ node ∈ canvas.nodes, node.id = operator ∧
        ∀ other ∈ canvas.nodes, other.annotation.map Annotation.artifact = some artifact ↔ other = node

/-- What is on the canvas of a version that passes the check, if its operators and artifacts are stored under their own
identifiers and none of them share one. -/
theorem contents_collapse (valid : dag.validate = .ok ()) (keyed : dag.WellKeyed) (apart : dag.Apart) (layout : Layout)
    (results : FinMap ArtifactId (Loadable ArtifactResult)) (selection : Selection) :
    Contents dag layout results selection (collapse (.resolve dag layout) dag results selection) := by
  have sound := (Dag.validate_eq_ok_iff keyed apart).mp valid
  exact {
    paired := find?_pairOutputs_eq_some_iff sound
    placed := placed_collapse_resolve sound apart keyed layout
    distinct := nodup_ids_collapse (PositionedGraph.nodup_ids_resolve keyed apart)
    selected := by
      intro node drawn
      obtain ⟨_, _, rfl⟩ := List.mem_map.mp drawn
      simp only [Selection.isSelected, Option.any_eq_true, beq_iff_eq]
    nodup_edges := nodup_eraseDups _
    leads_iff := by
      simp only [drawnAt_iff sound]
      exact leads_collapse_iff
    closed := by
      intro source target edge
      obtain ⟨_, one, other, leads, rfl, rfl⟩ := leads_collapse_iff.mp edge
      obtain ⟨start, stop⟩ := Dag.keys_of_leads keyed sound.references leads
      exact ⟨drawnAs_mem_ids sound apart keyed start, drawnAs_mem_ids sound apart keyed stop⟩
    annotated := fun node drawn => isSome_annotation_iff sound keyed drawn
    shows := fun node drawn note => annotation_eq_some_iff sound keyed drawn
    shown := by
      intro artifact operator type found
      have paired := FinMap.contains_of_find? found
      refine ⟨artifact_of_paired sound paired, fun drawn => ?_, shown_at_operator sound apart keyed found⟩
      have unpaired := (mem_ids_collapse.mp drawn).2
      rw [Id.artifact_node, Id.artifact_self, paired] at unpaired
      cases unpaired }

/-- The outcome of the check is shown at the check, which the table leads to. The operators are listed, one of them among
the artifacts; the table is not. -/
theorem contents_checkedTable :
    let aside : Position := ⟨⟨0x43480000⟩, ⟨0⟩⟩
    let below : Position := ⟨⟨0⟩, ⟨0x43480000⟩⟩
    let layout : Layout := { operators := .ofList [(⟨1⟩, aside)], artifacts := .ofList [(⟨1⟩, below), (⟨2⟩, below)] }
    let results : FinMap ArtifactId (Loadable ArtifactResult) :=
      .ofList [(⟨4⟩, .succeeded (.ofContent .bool .string "true"))]
    let canvas := collapse (.resolve Dag.checkedTable layout) Dag.checkedTable results {}
    Dag.checkedTable.validate = .ok () ∧ Dag.checkedTable.WellKeyed ∧ Dag.checkedTable.Apart ∧
      Contents Dag.checkedTable layout results {} canvas ∧
      canvas.nodes.map (fun node => (node.id, node.position, node.annotation)) =
        [(⟨1⟩, aside, none), (⟨2⟩, below, some (.check ⟨4⟩ (some true) .warning)), (⟨3⟩, .origin, none)] ∧
      canvas.edges = [⟨⟨1⟩, ⟨3⟩⟩, ⟨⟨3⟩, ⟨2⟩⟩] := by
  intro aside below layout results canvas
  have keyed : Dag.checkedTable.WellKeyed := by decide
  have apart : Dag.checkedTable.Apart := by decide
  exact ⟨rfl, keyed, apart, contents_collapse rfl keyed apart layout results {}, by decide, by decide⟩

end Canvas

end DagConsole

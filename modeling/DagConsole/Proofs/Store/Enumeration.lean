import DagConsole.Proofs.Canvas.Annotations
import DagConsole.Proofs.Dag.Enumeration
import DagConsole.Proofs.Store.Operations

/-! What a page makes of a workflow when maps are visited in whatever order. Nodes and edges are sorted, the pairs that
are folded have one operator for each output and one output for each operator, and no two versions are equally new. -/
namespace DagConsole

/-- The orders in which the maps of a layout are visited. -/
structure Layout.Visit (layout : Layout) where
  operators : layout.operators.Visit
  artifacts : layout.artifacts.Visit

namespace Layout.Visit

variable {layout : Layout} (visit : layout.Visit)

/-- A layout filled with what is visited. -/
def toLayout : Layout := ⟨visit.operators.toMap, visit.artifacts.toMap⟩

theorem toLayout_eq : visit.toLayout = layout := by
  rw [toLayout, FinMap.Visit.toMap_eq, FinMap.Visit.toMap_eq]

end Layout.Visit

namespace Dag.Visit

variable {dag : Dag} (visit : dag.Visit)

def positioned {layout : Layout} (places : layout.Visit) : PositionedGraph :=
  ⟨PositionedGraph.operatorNodes places.toLayout visit.operators.values ++
    PositionedGraph.artifactNodes places.toLayout visit.artifacts.values, visit.edges⟩

theorem positioned_eq (keyed : dag.WellKeyed) {layout : Layout} (places : layout.Visit) :
    visit.positioned places = .resolve dag layout := by
  have operators : (visit.operators.values.map Operator.id).Nodup := by
    rw [(visit.operators.values_perm.map _).nodup_iff, keyed.operators.map_values]
    exact dag.operators.nodup_keys
  have artifacts : (visit.artifacts.values.map Artifact.id).Nodup := by
    rw [(visit.artifacts.values_perm.map _).nodup_iff, keyed.artifacts.map_values]
    exact dag.artifacts.nodup_keys
  rw [positioned, PositionedGraph.resolve, places.toLayout_eq, visit.edges_eq,
    PositionedGraph.operatorNodes_eq_of_perm visit.operators.values_perm operators,
    PositionedGraph.artifactNodes_eq_of_perm visit.artifacts.values_perm artifacts]

def pairs : FinMap ArtifactId (NodeId × OperatorType) := Canvas.pairsOf dag visit.operators.values

/-- No artifact is folded into two operators, so it does not matter which one comes last. -/
theorem pairs_eq (sound : dag.Sound) : visit.pairs = Canvas.pairOutputs dag := by
  have same := visit.operators.values_perm.filterMap fun op =>
    (Canvas.foldedOutput dag op).map fun artifact => (artifact, (op.id.node, op.type))
  refine FinMap.ofList_eq_of_perm ?_ same
  intro one first other second artifact
  obtain ⟨op, member, entry⟩ := List.mem_filterMap.mp first
  obtain ⟨otherOp, otherMember, otherEntry⟩ := List.mem_filterMap.mp second
  obtain ⟨output, folded, rfl⟩ := Option.map_eq_some_iff.mp entry
  obtain ⟨otherOutput, otherFolded, rfl⟩ := Option.map_eq_some_iff.mp otherEntry
  cases artifact
  cases sound.producer_unique (visit.operators.values_perm.mem_iff.mp member)
    (visit.operators.values_perm.mem_iff.mp otherMember) (Canvas.mem_outputs_of_foldedOutput folded)
    (Canvas.mem_outputs_of_foldedOutput otherFolded)
  rfl

end Dag.Visit

namespace Canvas

variable {dag : Dag} {pairs : FinMap ArtifactId (NodeId × OperatorType)}

/-- The operators that folded artifacts are drawn at, noted pair by pair. -/
def rewired (pairs : List (ArtifactId × NodeId × OperatorType)) : FinMap NodeId NodeId :=
  .ofList (pairs.map fun (artifact, operator, _) => (artifact.node, operator))

/-- Folds outputs into their operators pair by pair. -/
def collapseVisited (graph : PositionedGraph) (dag : Dag)
    (results : FinMap ArtifactId (Loadable ArtifactResult)) (selection : Selection)
    (pairs : List (ArtifactId × NodeId × OperatorType)) : Canvas :=
  let annotations := annotationsOf dag results pairs
  let resolve (id : NodeId) := ((rewired pairs).find? id).getD id
  let drawn := graph.nodes.filter fun node => !(rewired pairs).contains node.id
  let edges := graph.edges.map fun edge => CanvasEdge.mk (resolve edge.source) (resolve edge.target)
  { nodes := drawn.map fun node =>
      { id := node.id, type := node.type, label := node.label, position := node.position,
        annotation := annotations.find? node.id, selected := selection.isSelected node.id }
    edges := (edges.filter fun edge => edge.source != edge.target).eraseDups }

theorem find?_rewired (visit : pairs.Visit) (id : NodeId) :
    (rewired visit.entries).find? id = (pairs.find? id.artifact).map Prod.fst := by
  have consistent : FinMap.Consistent (visit.entries.map fun (artifact, operator, _) => (artifact.node, operator)) := by
    intro one first other second same
    obtain ⟨entry, member, rfl⟩ := List.mem_map.mp first
    obtain ⟨otherEntry, otherMember, rfl⟩ := List.mem_map.mp second
    have keys : entry.1 = otherEntry.1 := Id.node_injective same
    rw [(pairs.consistent_entries.perm visit.perm.symm) entry member otherEntry otherMember keys]
  ext operator
  rw [rewired, FinMap.find?_ofList_eq_some_iff consistent, Option.map_eq_some_iff]
  simp only [List.mem_map, FinMap.find?_eq_some_iff, visit.perm.mem_iff]
  constructor
  · rintro ⟨entry, member, same⟩
    cases same
    exact ⟨entry.2, member, rfl⟩
  · rintro ⟨pair, member, rfl⟩
    exact ⟨_, member, rfl⟩

theorem annotationsOf_eq (keyed : dag.WellKeyed) (results : FinMap ArtifactId (Loadable ArtifactResult))
    (visit : (pairOutputs dag).Visit) :
    annotationsOf dag results visit.entries = annotationsOf dag results (pairOutputs dag).entries := by
  refine FinMap.ofList_eq_of_perm ?_ (visit.perm.map _)
  intro one first other second same
  obtain ⟨entry, member, rfl⟩ := List.mem_map.mp first
  obtain ⟨otherEntry, otherMember, rfl⟩ := List.mem_map.mp second
  rw [eq_of_operator keyed (visit.perm.mem_iff.mp member) (visit.perm.mem_iff.mp otherMember) same]

theorem collapseVisited_eq (keyed : dag.WellKeyed) (graph : PositionedGraph)
    (results : FinMap ArtifactId (Loadable ArtifactResult)) (selection : Selection)
    (visit : (pairOutputs dag).Visit) :
    collapseVisited graph dag results selection visit.entries = collapse graph dag results selection := by
  have folded (id : NodeId) : (rewired visit.entries).contains id = (pairOutputs dag).contains id.artifact := by
    simp [FinMap.contains, find?_rewired]
  simp only [collapseVisited, collapse, annotationsOf_eq keyed, folded, find?_rewired]
  rfl

end Canvas

namespace Dag.Visit

variable {dag : Dag}

/-- What the page makes of a version, visited in some orders, is what it makes of it in any other ones. -/
structure Agrees (visit : dag.Visit) : Prop where
  edges : visit.edges = dag.edges
  positioned : ∀ {layout : Layout} (places : layout.Visit), visit.positioned places = .resolve dag layout
  pairs : visit.pairs = Canvas.pairOutputs dag
  canvas : ∀ (graph : PositionedGraph) (results : FinMap ArtifactId (Loadable ArtifactResult)) (selection : Selection)
    (folded : visit.pairs.Visit),
    Canvas.collapseVisited graph dag results selection folded.entries = Canvas.collapse graph dag results selection

theorem agrees (keyed : dag.WellKeyed) (sound : dag.Sound) (visit : dag.Visit) : visit.Agrees where
  edges := visit.edges_eq
  positioned := visit.positioned_eq keyed
  pairs := visit.pairs_eq sound
  canvas graph results selection folded := by
    have perm : folded.entries.Perm (Canvas.pairOutputs dag).entries := by
      rw [← visit.pairs_eq sound]
      exact folded.perm
    exact Canvas.collapseVisited_eq keyed graph results selection ⟨folded.entries, perm⟩

end Dag.Visit

/-- The orders in which the maps of a snapshot are visited. -/
structure Snapshot.Visit (snapshot : Snapshot) where
  dags : snapshot.dags.Visit
  each : ∀ dag : Dag, dag.Visit

namespace Snapshot.Visit

variable {snapshot : Snapshot} (visit : snapshot.Visit)

def validate : Outcome Unit := do
  snapshot.results.forM fun result => discard (snapshot.dagFor result)
  visit.dags.values.forM fun dag => (visit.each dag).validate

/-- Where all versions pass, only the runs decide. -/
theorem validate_eq (valid : ∀ dag ∈ snapshot.dags.values, dag.validate = .ok ()) :
    visit.validate = snapshot.validate := by
  have visited : (visit.dags.values.forM fun dag => (visit.each dag).validate) = .ok () :=
    forM_eq_ok_iff.mpr fun dag member =>
      (visit.each dag).validate_eq_ok_iff.mpr (valid dag (visit.dags.values_perm.mem_iff.mp member))
  rw [validate, Snapshot.validate, visited, forM_eq_ok_iff.mpr valid]

end Snapshot.Visit

namespace Store

/-- Loads a snapshot, visiting its maps in some orders. -/
def loadVisited {snapshot : Snapshot} (visit : snapshot.Visit) (preferred : Option DagResultId) (s : Store) :
    Outcome Unit × Store :=
  match visit.validate with
  | .error e => (.error e, s)
  | .ok () =>
    let loaded := { s with
      dags := visit.dags.toMap
      results := snapshot.newestFirst
      selectedIndex := none
      activeDagId := none }.resetRun
    let loaded := { loaded with status := .succeeded }
    match RunPicker.initialIndex loaded.results preferred with
    | some index => loaded.selectResult index
    | none => (.ok (), { loaded with activeDagId := (newest? visit.dags.values).map Dag.id })

theorem loadVisited_eq {snapshot : Snapshot} (keyed : snapshot.dags.KeyedBy Dag.id)
    (valid : ∀ dag ∈ snapshot.dags.values, dag.validate = .ok ()) (visit : snapshot.Visit)
    (preferred : Option DagResultId) (s : Store) :
    s.loadVisited visit preferred = s.loadWorkflow snapshot preferred := by
  have distinct : (visit.dags.values.map Dag.id).Nodup := by
    rw [(visit.dags.values_perm.map _).nodup_iff, keyed.map_values]
    exact snapshot.dags.nodup_keys
  have newest : newest? visit.dags.values = newest? snapshot.dags.values :=
    newest?_eq_of_perm visit.dags.values_perm distinct
  simp only [loadVisited, loadWorkflow, visit.validate_eq valid, visit.dags.toMap_eq, newest]
  rfl

/-- The order in which maps are visited is never seen. Whether a version passes does not depend on it, and where all
versions pass, are stored under their own identifiers and tell operators and artifacts apart, neither do the edges, the
placed nodes, the folded outputs, the canvas and what is loaded. -/
theorem enumeration_irrelevant :
    (∀ (dag : Dag) (visit : dag.Visit), visit.validate = .ok () ↔ dag.validate = .ok ()) ∧
      ∀ snapshot : Snapshot, snapshot.dags.KeyedBy Dag.id →
        (∀ dag ∈ snapshot.dags.values, dag.WellKeyed ∧ dag.Apart ∧ dag.validate = .ok ()) →
        (∀ dag ∈ snapshot.dags.values, ∀ visit : dag.Visit, visit.Agrees) ∧
          ∀ (visit : snapshot.Visit) (preferred : Option DagResultId) (s : Store),
            s.loadVisited visit preferred = s.loadWorkflow snapshot preferred := by
  refine ⟨fun _ visit => visit.validate_eq_ok_iff, fun snapshot keyed valid => ⟨?_, ?_⟩⟩
  · intro dag member visit
    obtain ⟨wellKeyed, apart, passes⟩ := valid dag member
    exact visit.agrees wellKeyed ((Dag.validate_eq_ok_iff wellKeyed apart).mp passes)
  · exact loadVisited_eq keyed fun dag member => (valid dag member).2.2

/-- A workflow with two versions that never ran. -/
def twoVersions : Snapshot where
  dags := .ofList [(⟨5⟩, Dag.checkedTable), (⟨9⟩, { id := ⟨9⟩, workflow := ⟨6⟩ })]

/-- Visited backwards. -/
def backwards : twoVersions.Visit where
  dags := ⟨_, List.reverse_perm _⟩
  each _ := ⟨⟨_, List.reverse_perm _⟩, ⟨_, List.reverse_perm _⟩⟩

theorem enumeration_irrelevant_backwards : backwards.dags.keys = [⟨9⟩, ⟨5⟩] ∧ twoVersions.dags.KeyedBy Dag.id ∧
    (∀ dag ∈ twoVersions.dags.values, dag.WellKeyed ∧ dag.Apart ∧ dag.validate = .ok ()) ∧
    (backwards.each Dag.checkedTable).Agrees ∧
    (Store.empty.loadVisited backwards none).2.activeDagId = some ⟨9⟩ := by
  have keyed : twoVersions.dags.KeyedBy Dag.id := by decide
  have valid : ∀ dag ∈ twoVersions.dags.values, dag.WellKeyed ∧ dag.Apart ∧ dag.validate = .ok () := by
    intro dag member
    rcases List.mem_pair.mp member with rfl | rfl
    · exact ⟨by decide, by decide, rfl⟩
    · exact ⟨by decide, by decide, rfl⟩
  obtain ⟨agrees, loads⟩ := enumeration_irrelevant.2 twoVersions keyed valid
  refine ⟨rfl, keyed, valid, agrees _ List.mem_cons_self _, ?_⟩
  rw [loads]
  rfl

end Store

end DagConsole

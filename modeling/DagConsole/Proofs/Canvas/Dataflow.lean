import DagConsole.Proofs.Canvas.Pairs

/-! Folding outputs into their operators keeps who depends on whom. -/
namespace DagConsole.Canvas

open Relation

/-- One step along the edges that are drawn. -/
def Leads (canvas : Canvas) (source target : NodeId) : Prop := ⟨source, target⟩ ∈ canvas.edges

variable {dag : Dag} {layout : Layout} {results : FinMap ArtifactId (Loadable ArtifactResult)}
  {selection : Selection}

/-- The drawn edges are the images of the edges of the version, less those that became loops. -/
theorem leads_collapse_iff {source target : NodeId} :
    (collapse (.resolve dag layout) dag results selection).Leads source target ↔
      source ≠ target ∧ ∃ one other, dag.Leads one other ∧
        drawnAs (pairOutputs dag) one = source ∧ drawnAs (pairOutputs dag) other = target := by
  simp only [Leads, collapse, List.mem_eraseDups, List.mem_filter, List.mem_map, bne_iff_ne,
    PositionedGraph.resolve, CanvasEdge.mk.injEq]
  constructor
  · rintro ⟨⟨edge, member, sources, targets⟩, apart⟩
    exact ⟨apart, edge.source, edge.target, member, sources, targets⟩
  · rintro ⟨apart, one, other, member, sources, targets⟩
    exact ⟨⟨⟨one, other⟩, member, sources, targets⟩, apart⟩

theorem drawnAs_of_drawn {id : NodeId}
    (drawn : id ∈ (collapse (.resolve dag layout) dag results selection).nodes.map CanvasNode.id) :
    drawnAs (pairOutputs dag) id = id := drawnAs_of_unpaired (mem_ids_collapse.mp drawn).2

/-- Every edge of the version is drawn, or both its ends are drawn as one node. -/
theorem path_of_leads {source target : NodeId} (edge : dag.Leads source target) :
    ReflTransGen (collapse (.resolve dag layout) dag results selection).Leads
      (drawnAs (pairOutputs dag) source) (drawnAs (pairOutputs dag) target) := by
  by_cases same : drawnAs (pairOutputs dag) source = drawnAs (pairOutputs dag) target
  · rw [same]
  · exact .single (leads_collapse_iff.mpr ⟨same, source, target, edge, rfl, rfl⟩)

section Sound

variable (sound : dag.Sound) (apart : dag.Apart) (keyed : dag.WellKeyed)

include sound apart keyed in
/-- Every drawn edge stands for a path of the version. -/
theorem path_of_leads_collapse {source target : NodeId}
    (edge : (collapse (.resolve dag layout) dag results selection).Leads source target) :
    TransGen dag.Leads source target := by
  obtain ⟨distinct, one, other, step, rfl, rfl⟩ := leads_collapse_iff.mp edge
  cases paired : (pairOutputs dag).contains other.artifact with
  | true => exact absurd (drawnAs_of_leads_paired sound apart keyed step paired) distinct
  | false =>
    rw [drawnAs_of_unpaired paired]
    exact .tail' (leads_of_drawnAs one) step

end Sound

/-- Between two nodes on the canvas there is a path exactly when there is one in the version, and the
canvas shows no circle. -/
theorem collapse_preserves_dataflow (valid : dag.validate = .ok ()) (keyed : dag.WellKeyed)
    (apart : dag.Apart) (layout : Layout) (results : FinMap ArtifactId (Loadable ArtifactResult))
    (selection : Selection) :
    let canvas := collapse (.resolve dag layout) dag results selection
    (∀ source ∈ canvas.nodes.map CanvasNode.id, ∀ target ∈ canvas.nodes.map CanvasNode.id,
      source ≠ target → (TransGen canvas.Leads source target ↔ TransGen dag.Leads source target)) ∧
    Graph.Acyclic canvas.Leads := by
  intro canvas
  have sound := (Dag.validate_eq_ok_iff keyed apart).mp valid
  have expand : TransGen canvas.Leads ≤ TransGen dag.Leads :=
    TransGen.closed fun _ _ edge => path_of_leads_collapse sound apart keyed edge
  constructor
  · intro source drawn target alsoDrawn distinct
    constructor
    · exact expand source target
    · intro path
      have folded : ReflTransGen canvas.Leads (drawnAs (pairOutputs dag) source)
          (drawnAs (pairOutputs dag) target) :=
        ReflTransGen.lift' _ (fun _ _ edge => path_of_leads edge) _ _ path.to_reflTransGen
      rw [drawnAs_of_drawn drawn, drawnAs_of_drawn alsoDrawn] at folded
      exact (reflTransGen_iff_eq_or_transGen.mp folded).resolve_left distinct.symm
  · intro node cycle
    exact sound.acyclic_leads keyed apart node (expand node node cycle)

/-- The table lies between the two operators on the canvas too, and the outcome of the check is folded. -/
theorem dataflow_checkedTable :
    let canvas := collapse (.resolve Dag.checkedTable {}) Dag.checkedTable .empty {}
    Dag.checkedTable.validate = .ok () ∧ Dag.checkedTable.WellKeyed ∧ Dag.checkedTable.Apart ∧
      canvas.nodes.map CanvasNode.id = [⟨1⟩, ⟨2⟩, ⟨3⟩] ∧ TransGen canvas.Leads ⟨1⟩ ⟨2⟩ ∧
      Graph.Acyclic canvas.Leads := by
  have valid : Dag.checkedTable.validate = .ok () := rfl
  have keyed : Dag.checkedTable.WellKeyed := by decide
  have apart : Dag.checkedTable.Apart := by decide
  have extracted : Dag.checkedTable.Leads ⟨1⟩ ⟨3⟩ := by unfold Dag.Leads; decide
  have checked : Dag.checkedTable.Leads ⟨3⟩ ⟨2⟩ := by unfold Dag.Leads; decide
  obtain ⟨paths, acyclic⟩ := collapse_preserves_dataflow valid keyed apart {} .empty {}
  refine ⟨valid, keyed, apart, by decide, ?_, acyclic⟩
  exact (paths ⟨1⟩ (by decide) ⟨2⟩ (by decide) (by decide)).mpr (.tail (.single extracted) checked)

end DagConsole.Canvas

import DagConsole.Proofs.Store.History
import DagConsole.SideSheet

/-! The selected node and the panel that shows it. A selection lasts no longer than the page it was made on, so the
panel always finds the node that it is for. -/
namespace DagConsole

namespace SideSheetView

theorem ofNodeType_ofArtifact (type : ArtifactType) : ofNodeType (.ofArtifact type) = .dataPreview := by
  cases type <;> rfl

theorem ofNodeType_ofOperator (type : OperatorType) : ofNodeType (.ofOperator type) ≠ .dataPreview := by
  cases type <;> decide

end SideSheetView

namespace SideSheet

/-- The node that the content is about. -/
def node? : SideSheet → Option NodeId
  | .none => Option.none
  | .dataPreview content => some content.artifact.node
  | .operatorResults content => some content.operator.node
  | .parameter content => some content.operator.node

variable {s : Store} {dag : Dag} {node : SelectedNode}

theorem ofStore_of_unselected (unselected : s.selection.node = Option.none) : ofStore s = .none := by
  simp only [ofStore, unselected]

/-- The panel for a node of the active version has the view of its type: what the view is made from is looked up
where the type was found. -/
theorem ofStore_of_selected (selected : s.selection.node = some node) (active : s.activeDag = some dag)
    (known : dag.nodeType? node.id = some node.type) :
    (ofStore s).view? = some (.ofNodeType node.type) ∧ (ofStore s).node? = some node.id := by
  rcases Dag.nodeType?_eq_some_iff.mp known with ⟨op, found, operator⟩ | ⟨_, artifact, found, type⟩
  · have view := SideSheetView.ofNodeType_ofOperator op.type
    rw [← operator] at view
    simp only [ofStore, selected, active, found]
    cases shown : SideSheetView.ofNodeType node.type with
    | dataPreview => exact absurd shown view
    | operatorResults => exact ⟨rfl, rfl⟩
    | parameter => exact ⟨rfl, rfl⟩
  · have view := SideSheetView.ofNodeType_ofArtifact artifact.type
    rw [← type] at view
    simp only [ofStore, selected, active, found, view]
    exact ⟨rfl, rfl⟩

end SideSheet

namespace Store

/-- A store shows a node: the drawers are open, it is a node of the active version and of its type there, and the
panel is about it, in the view of its type. -/
structure Shows (s : Store) (node : SelectedNode) : Prop where
  opened : s.selection.panels = ⟨true, true⟩
  active : s.activeDag.isSome
  known : s.nodeType? node.id = some node.type
  view : (SideSheet.ofStore s).view? = some (.ofNodeType node.type)
  about : (SideSheet.ofStore s).node? = some node.id

/-- The drawers and the panel of a store show what is selected. -/
structure ShowsSelection (s : Store) : Prop where
  closed : s.selection.node = none → s.selection.panels = ⟨false, false⟩
  blank : s.selection.node = none → SideSheet.ofStore s = .none
  selected : ∀ {node}, s.selection.node = some node → Shows s node

/-- Nothing is selected, or a node of the active version was clicked. -/
def Clicked (s : Store) : Prop :=
  s.selection = {} ∨ ∃ id type, s.nodeType? id = some type ∧ s.selection = .ofNode id type

variable {s t : Store}

theorem shows_of_clicked {id : NodeId} {type : NodeType} (known : s.nodeType? id = some type)
    (made : s.selection = .ofNode id type) : Shows s ⟨id, type⟩ := by
  obtain ⟨dag, active, found⟩ := Option.bind_eq_some_iff.mp known
  have selected : s.selection.node = some ⟨id, type⟩ := by rw [made]; rfl
  obtain ⟨view, about⟩ := SideSheet.ofStore_of_selected selected active found
  exact ⟨by rw [made]; rfl, by rw [active]; rfl, known, view, about⟩

theorem Clicked.showsSelection (clicked : Clicked s) : ShowsSelection s := by
  rcases clicked with empty | ⟨id, type, known, made⟩
  · have unselected : s.selection.node = none := by rw [empty]
    refine ⟨fun _ => by rw [empty], fun _ => SideSheet.ofStore_of_unselected unselected, ?_⟩
    intro node selected
    cases unselected.symm.trans selected
  · have selected : s.selection.node = some ⟨id, type⟩ := by rw [made]; rfl
    refine ⟨fun none => ?_, fun none => ?_, fun same => ?_⟩
    · cases none.symm.trans selected
    · cases none.symm.trans selected
    · cases selected.symm.trans same
      exact shows_of_clicked known made

theorem SamePage.clicked (same : SamePage s t) (kept : t.selection = s.selection) (clicked : Clicked s) :
    Clicked t := by
  unfold Clicked
  simp only [kept, same.nodeType?]
  exact clicked

/-- Whatever changes the active version clears the selection with it. -/
theorem Clicked.next (clicked : Clicked s) (step : Step) : Clicked (step.next s) := by
  have effect := effect step s
  generalize step.next s = t at effect ⊢
  cases effect with
  | stay => exact clicked
  | mark marking => exact marking.same.clicked marking.selection clicked
  | waitForLayout _ | refuse _ | artifact _ | operator _ | layout =>
    exact SamePage.clicked ⟨rfl, rfl, rfl, rfl, rfl, rfl⟩ rfl clicked
  | @clickNode id type known => exact .inr ⟨id, type, known, rfl⟩
  | clickPane | teardown | beginWorkflow _ | selectResult _ _ => exact .inl rfl
  | load preferred _ => exact .inl (restart_loaded _ preferred s).selection

/-- Whatever happens to a store in whatever order, the drawers are open exactly when a node is selected, and then it
is a node of the active version and the panel shows it in the view of its type. Nothing is asked of the snapshots
that are loaded. -/
theorem shows_selection_of_reachable {permitted : History → Step → Prop} {h : History}
    (reached : h.Reachable permitted) : ShowsSelection h.store := by
  have clicked : Clicked h.store := by
    induction reached with
    | start => exact .inl rfl
    | @step h step _ _ ih => exact ih.next step
  exact clicked.showsSelection

/-- On the page of a workflow with one run, a click on the check opens the drawers for its results. -/
theorem shows_selection_clicked : (History.opened.after (.clickNode ⟨2⟩)).Reachable (fun _ _ => True) ∧
    (History.opened.after (.clickNode ⟨2⟩)).store.selection.node = some ⟨⟨2⟩, .checkOp⟩ ∧
    (SideSheet.ofStore (History.opened.after (.clickNode ⟨2⟩)).store).view? = some .operatorResults := by
  have reached : (History.opened.after (.clickNode ⟨2⟩)).Reachable (fun _ _ => True) :=
    .step (History.reachable_opened fun _ _ => trivial) trivial
  have selected : (History.opened.after (.clickNode ⟨2⟩)).store.selection.node = some ⟨⟨2⟩, .checkOp⟩ := rfl
  exact ⟨reached, selected, ((shows_selection_of_reachable reached).selected selected).view⟩

end Store

end DagConsole

import DagConsole.Platform.Canned
import DagConsole.Proofs.Session.Sequential
import DagConsole.Proofs.Store.Panel

/-! A click on a node: what is asked for is what the panel shows of the node, and when the click is over it is there, or
has failed to come. -/
namespace DagConsole

namespace Store

/-- What the view of a node of a version is about: the node, and at some operators their outputs. -/
inductive Shown (dag : Dag) (id : NodeId) : Target → Prop where
  | operator {op : Operator} (found : dag.operators.find? id.operator = some op) : Shown dag id (.operator id.operator)
  | artifact {artifact : Artifact} (found : dag.artifacts.find? id.artifact = some artifact) :
      Shown dag id (.artifact id.artifact)
  | output {op : Operator} {output : ArtifactId} (found : dag.operators.find? id.operator = some op)
      (shown : op.type = .check ∨ op.type = .metric ∨ op.type = .systemMetric ∨ op.type = .param)
      (declared : output ∈ op.outputs) : Shown dag id (.artifact output)

end Store

namespace SideSheet

/-- How far the value has come that the content shows. -/
def status? : SideSheet → Option LoadingStatus
  | .none => Option.none
  | .dataPreview content => some content.status
  | .operatorResults content => some content.status
  | .parameter content => some content.status

theorem statusOf_eq {α : Type} (cached : Option (Loadable α)) : statusOf cached = (cached.getD .initial).status := by
  cases cached <;> rfl

variable {s : Store} {dag : Dag} {id : NodeId} {type : NodeType}

/-- The panel of a node shows how far something has come that its view is about. -/
theorem status_of_selected (selected : s.selection.node = some ⟨id, type⟩) (active : s.activeDag = some dag)
    (known : dag.nodeType? id = some type)
    (valued : ∀ op, dag.operators.find? id.operator = some op → op.type = .param → op.outputs ≠ []) :
    ∃ target, Store.Shown dag id target ∧ (ofStore s).status? = some (s.slot target).status := by
  rcases Dag.nodeType?_eq_some_iff.mp known with ⟨op, found, rfl⟩ | ⟨_, artifact, found, rfl⟩
  · simp only [ofStore, selected, active, found]
    cases kind : op.type with
    | param =>
      obtain ⟨output, others, outputs⟩ := List.exists_cons_of_ne_nil (valued op found kind)
      refine ⟨.artifact output, .output found (by simp [kind]) (by simp [outputs]), ?_⟩
      simp only [NodeType.ofOperator, SideSheetView.ofNodeType, ofParameter, outputs, status?, statusOf_eq]
      rfl
    | _ =>
      refine ⟨.operator id.operator, .operator found, ?_⟩
      simp only [NodeType.ofOperator, SideSheetView.ofNodeType, ofOperator, status?, statusOf_eq]
      rfl
  · refine ⟨.artifact id.artifact, .artifact found, ?_⟩
    simp only [ofStore, selected, active, found, SideSheetView.ofNodeType_ofArtifact, ofArtifact, status?, statusOf_eq]
    rfl

end SideSheet

namespace Session

open Operation Store

variable {s t : Store} {dag : Dag} {id node : NodeId} {type : NodeType} {target : Target} {run : DagResult}

theorem showsOutputs_iff (type : OperatorType) : showsOutputs (.ofOperator type) ↔
    type = .check ∨ type = .metric ∨ type = .systemMetric ∨ type = .param := by
  cases type <;> simp [showsOutputs, NodeType.ofOperator]

section Shown

variable (active : s.activeDag = some dag) (sound : dag.Sound) (apart : dag.Apart)
  (known : dag.nodeType? id = some type)

theorem mem_shownNodes {op : Operator} (active : s.activeDag = some dag)
    (found : dag.operators.find? id.operator = some op) :
    node ∈ shownNodes s id type ↔ node = id ∨ showsOutputs type ∧ ∃ output ∈ op.outputs, output.node = node := by
  simp only [shownNodes, active, Option.bind_some, found, Option.map_some, Option.getD_some, List.mem_cons,
    List.mem_map]
  cases showsOutputs type <;> simp

include active sound apart known

/-- A click fetches nothing but what the view of the node is about. -/
theorem shown_of_mem (member : node ∈ shownNodes s id type) :
    ∃ target, s.target? node = some target ∧ Shown dag id target := by
  rcases Dag.nodeType?_eq_some_iff.mp known with ⟨op, found, rfl⟩ | ⟨absent, artifact, found, rfl⟩
  · rcases (mem_shownNodes active found).mp member with rfl | ⟨drawn, output, declared, rfl⟩
    · exact ⟨_, target?_of_operator active found, .operator found⟩
    · have stored := FinMap.mem_values.mpr ⟨_, found⟩
      have present := FinMap.contains_iff.mpr (sound.references op stored output (List.mem_append_right _ declared))
      have shown : Shown dag id (.artifact output) := .output found ((showsOutputs_iff op.type).mp drawn) declared
      exact ⟨.artifact output, target?_of_artifact active apart present, shown⟩
  · have single : shownNodes s id (.ofArtifact artifact.type) = [id] := by simp [shownNodes, active, absent]
    rw [single] at member
    cases List.mem_singleton.mp member
    exact ⟨_, target?_of_artifact active apart (FinMap.contains_of_find? found), .artifact found⟩

/-- And all of that. -/
theorem mem_of_shown (shown : Shown dag id target) :
    ∃ node ∈ shownNodes s id type, s.target? node = some target := by
  cases shown with
  | operator found => exact ⟨id, List.mem_cons_self, target?_of_operator active found⟩
  | artifact found => exact ⟨id, List.mem_cons_self, target?_of_artifact active apart (FinMap.contains_of_find? found)⟩
  | @output op output found drawn declared =>
    rcases Dag.nodeType?_eq_some_iff.mp known with ⟨same, there, rfl⟩ | ⟨absent, _⟩
    · cases found.symm.trans there
      have stored := FinMap.mem_values.mpr ⟨_, found⟩
      have present := FinMap.contains_iff.mpr (sound.references op stored output (List.mem_append_right _ declared))
      refine ⟨output.node, (mem_shownNodes active found).mpr (.inr ⟨?_, output, declared, rfl⟩), ?_⟩
      · exact (showsOutputs_iff op.type).mpr drawn
      · exact target?_of_artifact active apart present
    · cases found.symm.trans absent

end Shown

section Fetched

variable {ids : List NodeId} {handles : List Handle} {log : List Inquiry}

/-- After a fetch nothing of what was to be fetched is missing or on its way. -/
theorem Resting.arrived_of_fetched (resting : Resting s) (fetched : Fetched s ids handles log t)
    (fetchable : ∃ node ∈ ids, s.target? node = some target) : (t.slot target).status.Arrived := by
  by_cases needed : (s.slot target).needsFetch
  · have lacking := mem_lacking.mpr ⟨fetchable, needed⟩
    rw [← fetched.targets] at lacking
    obtain ⟨handle, given, rfl⟩ := List.mem_map.mp lacking
    obtain ⟨answer, _, slot⟩ := fetched.written handle given
    rw [slot]
    exact handle.arrived_content answer
  · rw [fetched.kept target fun lacking => needed (mem_lacking.mp lacking).2]
    exact Loadable.arrived_of_filled (resting.idle target) (Bool.eq_false_iff.mpr needed)

/-- Between operations, what needs no fetch is there. -/
theorem Resting.needsFetch_iff (resting : Resting s) (target : Target) :
    (s.slot target).needsFetch ↔ ∀ value, s.slot target ≠ .succeeded value := by
  have idle := resting.idle target
  cases held : s.slot target with
  | loading => exact absurd held idle
  | initial | failed _ | succeeded _ => simp [Loadable.needsFetch]

end Fetched

/-- What a click on a node of the active version comes to. -/
structure NodeClicked (s : Store) (run : DagResult) (dag : Dag) (id : NodeId) (type : NodeType) (asked : List Request)
    (t : Store) : Prop where
  page : SamePage s t
  selection : t.selection = .ofNode id type
  once : asked.Nodup
  requests : ∀ request, request ∈ asked ↔
    ∃ target, Shown dag id target ∧ (∀ value, s.slot target ≠ .succeeded value) ∧ target.request? run.id = some request
  view : (SideSheet.ofStore t).view? = some (.ofNodeType type)
  about : (SideSheet.ofStore t).node? = some id
  /-- A parameter has a value to show if the operator declares an output for it. -/
  status : (∀ op, dag.operators.find? id.operator = some op → op.type = .param → op.outputs ≠ []) →
    ∃ status, (SideSheet.ofStore t).status? = some status ∧ status.Arrived

section Clicks

variable {log more : List Inquiry} {calls : List Call}

theorem clicked_of_fetched {handles : List Handle} (resting : Resting s) (selected : s.selectedResult = some run)
    (active : s.activeDag = some dag) (sound : dag.Sound) (apart : dag.Apart) (known : dag.nodeType? id = some type)
    (fetched : Fetched { s with selection := .ofNode id type } (shownNodes s id type) handles more t) :
    NodeClicked s run dag id type (more.map Inquiry.request) t := by
  generalize marked : { s with selection := .ofNode id type } = u at fetched
  have same : SamePage s u := marked ▸ ⟨rfl, rfl, rfl, rfl, rfl, rfl⟩
  have slots (target : Target) : u.slot target = s.slot target := by subst marked; cases target <;> rfl
  have waiting : Resting u := resting.of_same same fun target => slots target ▸ resting.idle target
  have shown : t.selection = .ofNode id type := fetched.selection.trans (marked ▸ rfl)
  have nodes (target : Target) :
      (∃ node ∈ shownNodes s id type, u.target? node = some target) ↔ Shown dag id target := by
    simp only [same.target?]
    constructor
    · rintro ⟨node, member, place⟩
      obtain ⟨other, there, shown⟩ := shown_of_mem active sound apart known member
      cases place.symm.trans there
      exact shown
    · exact mem_of_shown active sound apart known
  have selection : t.selection.node = some ⟨id, type⟩ := by rw [shown]; rfl
  have current : t.activeDag = some dag := (same.trans fetched.same).activeDag.trans active
  obtain ⟨view, about⟩ := SideSheet.ofStore_of_selected selection current known
  refine ⟨same.trans fetched.same, shown, fetched.nodup_requests, fun request => ?_, view, about, fun valued => ?_⟩
  · rw [fetched.mem_requests (same.selectedResult.trans selected)]
    simp only [mem_lacking, nodes, slots, resting.needsFetch_iff, and_assoc]
  · obtain ⟨target, about, status⟩ := SideSheet.status_of_selected selection current known valued
    exact ⟨_, status, waiting.arrived_of_fetched fetched ((nodes target).mpr about)⟩

/-- In a session that waits for each operation, a click comes to an end whatever the platform is. On a node of a sound
version it asks for all that the view of the node is about and that is not there, once and for the selected run, and
then the panel has that view and something to show in it. On anything else it fails, and nothing comes of it. -/
theorem clicking_settles (ran : (performEach calls).Runs .empty log () s) (selected : s.selectedResult = some run)
    (active : s.activeDag = some dag) (keyed : dag.WellKeyed) (apart : dag.Apart) :
    (∀ {σ : Type} (p : Platform σ) (x : σ), ∃ more,
      (clickNode id).run.Runs s more ((clickNode id).run.run p s x).1 ((clickNode id).run.run p s x).2.1) ∧
    ∀ more value t, (clickNode id).run.Runs s more value t →
      (dag.isKey id → ∃ type, dag.nodeType? id = some type ∧ value = .ok type ∧
        NodeClicked s run dag id type (more.map Inquiry.request) t) ∧
      (¬dag.isKey id → value = .error (foreignNode id) ∧ more = [] ∧ t = s) := by
  refine ⟨fun p x => ⟨_, runs_run p (clickNode id).run s x⟩, fun more value t clicks => ?_⟩
  have resting := resting_of_session ran
  obtain ⟨version, _, stored⟩ := Option.bind_eq_some_iff.mp active
  have sound := (Dag.validate_eq_ok_iff keyed apart).mp (resting.valid dag (FinMap.mem_values.mpr ⟨version, stored⟩))
  have types : s.nodeType? id = dag.nodeType? id := by rw [nodeType?, active, Option.bind_some]
  cases clicks_of_runs clicks with
  | foreign unknown =>
    refine ⟨fun key => ?_, fun _ => ⟨rfl, rfl, rfl⟩⟩
    have known := Dag.isSome_nodeType?_iff.mpr key
    rw [← types, unknown] at known
    cases known
  | unselected _ never => cases selected.symm.trans never
  | @refused type known shown unfetchable e =>
    refine absurd ⟨shown, fun node member => ?_⟩ unfetchable
    obtain ⟨target, place, _⟩ := shown_of_mem active sound apart (types ▸ known) member
    obtain ⟨kind, found, _⟩ := Option.map_eq_some_iff.mp place
    exact Option.isSome_iff_exists.mpr ⟨kind, found⟩
  | @fetched type known shown handles _ _ fetched =>
    rw [types] at known
    refine ⟨fun _ => ⟨type, known, rfl, ?_⟩, fun foreign => ?_⟩
    · exact clicked_of_fetched resting selected active sound apart known fetched
    · exact absurd (Dag.isSome_nodeType?_iff.mp (Option.isSome_iff_exists.mpr ⟨type, known⟩)) foreign

end Clicks

/-- A click on a check, of which the platform has nothing but the output, and one on what is not there. -/
theorem clicking_settles_checked : ∃ log s run more t,
    (performEach [.openWorkflow ⟨6⟩ none]).Runs .empty log () s ∧ s.selectedResult = some run ∧
      s.activeDag = some Dag.checkedTable ∧ Dag.checkedTable.WellKeyed ∧ Dag.checkedTable.Apart ∧
      (clickNode ⟨2⟩).run.Runs s more (.ok .checkOp) t ∧
      more.map Inquiry.request = [.getOperatorResult ⟨7⟩ ⟨2⟩, .getArtifactResult ⟨7⟩ ⟨4⟩] ∧
      NodeClicked s run Dag.checkedTable ⟨2⟩ .checkOp (more.map Inquiry.request) t ∧
      (clickNode ⟨9⟩).run.Runs s [] (.error (foreignNode ⟨9⟩)) s := by
  let platform : CannedPlatform := CannedPlatform.withArtifactResult { workflows := .ofList [(⟨6⟩, checkedOnce)] }
    ⟨7⟩ ⟨4⟩ (.ofContent .bool .json "true")
  have answered {α : Type} (op : Operation α) (s : Store) := runs_run CannedPlatform.platform op s platform
  have opens : (performEach [.openWorkflow ⟨6⟩ none]).Runs .empty _ () (checkedPage 3) := answered _ .empty
  have selected : (checkedPage 3).selectedResult = some { id := ⟨7⟩, dag := ⟨5⟩, created := ⟨0⟩ } := rfl
  have active : (checkedPage 3).activeDag = some Dag.checkedTable := rfl
  have keyed : Dag.checkedTable.WellKeyed := by decide
  have apart : Dag.checkedTable.Apart := by decide
  have clicks : (clickNode ⟨2⟩).run.Runs (checkedPage 3) _ (.ok .checkOp) _ := answered _ (checkedPage 3)
  have beside : (clickNode ⟨9⟩).run.Runs (checkedPage 3) _ _ _ := answered _ (checkedPage 3)
  obtain ⟨type, known, same, clicked⟩ := ((clicking_settles opens selected active keyed apart).2 _ _ _ clicks).1 rfl
  cases same
  obtain ⟨failed, unasked, unchanged⟩ :=
    ((clicking_settles opens selected active keyed apart).2 _ _ _ beside).2 (by decide)
  rw [failed, unasked, unchanged] at beside
  exact ⟨_, _, _, _, _, opens, selected, active, keyed, apart, clicks, rfl, clicked, beside⟩

end Session

end DagConsole

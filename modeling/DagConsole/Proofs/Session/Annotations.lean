import DagConsole.Platform.Canned
import DagConsole.Proofs.Canvas.Annotations
import DagConsole.Proofs.Session.Settled

/-! The values on the canvas. A session that fetches the outputs that are drawn at their operators asks for those that
have no value, and then shows at each operator what the platform answered last. -/
namespace DagConsole.Session

open Operation Store

/-- The outputs drawn at operators of a version that have no value yet. -/
def missing (s : Store) (dag : Dag) : List ArtifactId :=
  (Canvas.pairOutputs dag).keys.filter fun artifact => ((s.artifactResults.find? artifact).bind Loadable.value?).isNone

/-- Checks and metrics show what was answered last for their outputs; after a failure they show no value. -/
structure ShowsAnswers (log : List Inquiry) (run : DagResult) (dag : Dag) (canvas : Canvas) : Prop where
  checks : ∀ op ∈ dag.operators.values, op.type = .check → ∀ output ∈ op.outputs, dag.HasType output .bool →
    ∃ artifact answer node, op.FirstOutput dag .bool artifact ∧
      LastAnswer log (.getArtifactResult run.id artifact) answer ∧ canvas.node? op.id.node = some node ∧
      node.annotation = some (.check artifact (answer.toOption.bind ArtifactResult.asBool)
        (op.spec.checkLevel.getD .default))
  metrics : ∀ op ∈ dag.operators.values, op.type = .metric ∨ op.type = .systemMetric →
    ∀ output ∈ op.outputs, dag.HasType output .numeric →
    ∃ artifact answer node, op.FirstOutput dag .numeric artifact ∧
      LastAnswer log (.getArtifactResult run.id artifact) answer ∧ canvas.node? op.id.node = some node ∧
      node.annotation = some (.metric artifact (answer.toOption.bind ArtifactResult.asNumber))

variable {s t : Store} {log more : List Inquiry} {ids : List NodeId} {handles : List Handle} {run : DagResult}
  {dag : Dag} {artifact : ArtifactId} {layout : Layout}

theorem value?_slot (s : Store) (artifact : ArtifactId) :
    (s.artifactResults.find? artifact).bind Loadable.value? = (s.slot (.artifact artifact)).value? := by
  rw [slot]
  cases s.artifactResults.find? artifact <;> rfl

theorem value?_ofOutcome {α : Type} (answer : Outcome α) : (Loadable.ofOutcome answer).value? = answer.toOption := by
  cases answer <;> rfl

/-- What is drawn at an operator is an artifact of the version. -/
theorem target_of_paired (active : s.activeDag = some dag) (sound : dag.Sound) (apart : dag.Apart)
    (paired : artifact ∈ (Canvas.pairOutputs dag).keys) : s.target? artifact.node = some (.artifact artifact) :=
  target?_of_artifact active apart (Canvas.artifact_of_paired sound (FinMap.contains_iff.mpr paired))

/-- Between operations, an output that has no value is one to fetch. -/
theorem mem_missing (settled : Settled log s) :
    artifact ∈ missing s dag ↔
      artifact ∈ (Canvas.pairOutputs dag).keys ∧ (s.slot (.artifact artifact)).needsFetch := by
  have idle := settled.idle artifact
  rw [missing, List.mem_filter, value?_slot]
  cases held : s.slot (.artifact artifact) with
  | loading => exact absurd held idle
  | initial | failed _ | succeeded _ => simp [Loadable.value?, Loadable.needsFetch]

theorem nodup_missing (s : Store) (dag : Dag) : (missing s dag).Nodup := (FinMap.nodup_keys _).filter _

section Fetching

variable (settled : Settled log s) (selected : s.selectedResult = some run) (active : s.activeDag = some dag)
  (sound : dag.Sound) (apart : dag.Apart)

theorem mem_annotatedNodes (selected : s.selectedResult = some run) (active : s.activeDag = some dag) {id : NodeId} :
    id ∈ annotatedNodes s ↔ ∃ artifact ∈ (Canvas.pairOutputs dag).keys, artifact.node = id := by
  simp only [annotatedNodes, selected, active, List.mem_map]

include settled selected active sound apart

theorem lacking_annotated {target : Target} :
    target ∈ s.lacking (annotatedNodes s) ↔ ∃ artifact ∈ missing s dag, .artifact artifact = target := by
  simp only [mem_lacking, mem_annotatedNodes selected active, mem_missing settled]
  constructor
  · rintro ⟨⟨_, ⟨artifact, paired, rfl⟩, place⟩, needed⟩
    rw [target_of_paired active sound apart paired] at place
    cases place
    exact ⟨artifact, ⟨paired, needed⟩, rfl⟩
  · rintro ⟨artifact, ⟨paired, needed⟩, rfl⟩
    exact ⟨⟨_, ⟨artifact, paired, rfl⟩, target_of_paired active sound apart paired⟩, needed⟩

/-- The outputs without a value are asked for, and nothing else. -/
theorem requests_of_fetched (fetched : Fetched s (annotatedNodes s) handles more t) :
    (more.map Inquiry.request).Perm ((missing s dag).map (.getArtifactResult run.id)) := by
  have apart_requests : ((missing s dag).map (Request.getArtifactResult run.id)).Nodup :=
    (nodup_missing s dag).map fun _ _ same => (Request.getArtifactResult.inj same).2
  refine (List.perm_ext_iff_of_nodup fetched.nodup_requests apart_requests).mpr fun request => ?_
  rw [fetched.mem_requests selected]
  simp only [lacking_annotated settled selected active sound apart, List.mem_map]
  constructor
  · rintro ⟨_, ⟨artifact, absent, rfl⟩, made⟩
    exact ⟨artifact, absent, Option.some.inj made⟩
  · rintro ⟨artifact, absent, rfl⟩
    exact ⟨_, ⟨artifact, absent, rfl⟩, rfl⟩

/-- Whether its value was there or has come, a drawn output holds the last answer for it. -/
theorem shown_of_fetched (fetched : Fetched s (annotatedNodes s) handles more t)
    (paired : artifact ∈ (Canvas.pairOutputs dag).keys) : ∃ answer,
      LastAnswer (log ++ more) (.getArtifactResult run.id artifact) answer ∧
        t.slot (.artifact artifact) = .ofOutcome answer := by
  by_cases lacking : .artifact artifact ∈ s.lacking (annotatedNodes s)
  · obtain ⟨answer, member, slot⟩ := fetched.answer_of_lacking selected lacking
    exact ⟨answer, .of_mem log fetched.nodup_requests member, slot⟩
  · rw [fetched.kept _ lacking]
    have held : (s.slot (.artifact artifact)).needsFetch = false := by
      refine Bool.eq_false_iff.mpr fun needed => lacking ?_
      exact (lacking_annotated settled selected active sound apart).mpr
        ⟨artifact, (mem_missing settled).mpr ⟨paired, needed⟩, rfl⟩
    cases filled : s.slot (.artifact artifact) with
    | loading => exact absurd filled (settled.idle artifact)
    | succeeded result =>
      exact ⟨.ok result, (settled.answered selected filled).append (fetched.request_ne_of_filled selected lacking), rfl⟩
    | initial | failed _ =>
      rw [filled] at held
      cases held

/-- Fetching what is drawn is never refused once a run is shown. -/
theorem fetched_of_annotations {value : Outcome Nat} (ran : fetchAnnotations.run.Runs s more value t) :
    ∃ handles, value = .ok handles.length ∧ Fetched s (annotatedNodes s) handles more t := by
  obtain ⟨_, fetches⟩ := (annotations_of_runs ran).resolve_left fun ⟨never, _⟩ => nomatch selected.symm.trans never
  rcases fetched_of_runs fetches with ⟨e, refused, _⟩ | fetched
  · have fetchable : Fetchable s (annotatedNodes s) := by
      refine ⟨settled.run, fun id member => ?_⟩
      obtain ⟨artifact, paired, rfl⟩ := (mem_annotatedNodes selected active).mp member
      have known := target_of_paired active sound apart paired
      obtain ⟨type, found, _⟩ := Option.map_eq_some_iff.mp known
      exact Option.isSome_iff_exists.mpr ⟨type, found⟩
    obtain ⟨fetches, u, begun⟩ := beginNodeFetches_ok_iff.mpr fetchable
    rw [begun] at refused
    cases refused
  · exact fetched

end Fetching

/-- An operator shows the last answer for the output that it is drawn together with. -/
theorem drawn_of_shown {type : ArtifactType} {op : Operator} {output : ArtifactId} (active : t.activeDag = some dag)
    (laid : t.layout = .succeeded layout) (sound : dag.Sound) (keyed : dag.WellKeyed) (apart : dag.Apart)
    (shown : ∀ artifact ∈ (Canvas.pairOutputs dag).keys, ∃ answer,
      LastAnswer log (.getArtifactResult run.id artifact) answer ∧ t.slot (.artifact artifact) = .ofOutcome answer)
    (member : op ∈ dag.operators.values) (folds : Canvas.foldedType op.type = some type) (produced : output ∈ op.outputs)
    (typed : dag.HasType output type) : ∃ artifact answer node, op.FirstOutput dag type artifact ∧
      LastAnswer log (.getArtifactResult run.id artifact) answer ∧ (canvas t).node? op.id.node = some node ∧
      node.annotation = some (Canvas.annotate dag t.artifactResults artifact op.id.node op.type) ∧
      (t.artifactResults.find? artifact).bind Loadable.value? = answer.toOption := by
  obtain ⟨artifact, first⟩ := Canvas.exists_firstOutput produced typed
  have paired := Canvas.find?_pairOutputs_of_folded sound member (Canvas.foldedOutput_of_first folds first)
  obtain ⟨answer, last, slot⟩ := shown artifact (FinMap.contains_iff.mp (FinMap.contains_of_find? paired))
  have placed : ∃ node, (canvas t).node? op.id.node = some node ∧
      node.annotation = some (Canvas.annotate dag t.artifactResults artifact op.id.node op.type) := by
    rw [canvas, active, laid]
    exact Canvas.annotation_of_first sound apart keyed member folds first
  obtain ⟨node, drawn, annotation⟩ := placed
  have value := value?_slot t artifact
  rw [slot, value?_ofOutcome] at value
  exact ⟨artifact, answer, node, first, last, drawn, annotation, value⟩

/-- Once all drawn outputs hold the last answers for them, so does the canvas. -/
theorem showsAnswers_of_shown (active : t.activeDag = some dag) (laid : t.layout = .succeeded layout) (sound : dag.Sound)
    (keyed : dag.WellKeyed) (apart : dag.Apart)
    (shown : ∀ artifact ∈ (Canvas.pairOutputs dag).keys, ∃ answer,
      LastAnswer log (.getArtifactResult run.id artifact) answer ∧ t.slot (.artifact artifact) = .ofOutcome answer) :
    ShowsAnswers log run dag (canvas t) := by
  refine ⟨fun op member check output produced typed => ?_, fun op member metric output produced typed => ?_⟩
  · have folds : Canvas.foldedType op.type = some .bool := by rw [check]; rfl
    obtain ⟨artifact, answer, node, first, last, drawn, annotation, value⟩ :=
      drawn_of_shown active laid sound keyed apart shown member folds produced typed
    rw [Canvas.annotate_check keyed member check, value] at annotation
    exact ⟨artifact, answer, node, first, last, drawn, annotation⟩
  · have folds : Canvas.foldedType op.type = some .numeric := by rcases metric with type | type <;> rw [type] <;> rfl
    obtain ⟨artifact, answer, node, first, last, drawn, annotation, value⟩ :=
      drawn_of_shown active laid sound keyed apart shown member folds produced typed
    rw [Canvas.annotate_metric metric, value] at annotation
    exact ⟨artifact, answer, node, first, last, drawn, annotation⟩

section Sessions

variable {s₀ s₁ s₂ s₃ s₄ : Store} {log₀ log₁ log₂ log₃ : List Inquiry} {id : WorkflowId}
  {preferred : Option DagResultId} {snapshot : Snapshot} {calls : List Call} {value : Outcome Nat}

/-- A workflow that has runs is opened, someone looks around, and then the layout is resolved and the drawn outputs are
fetched. Those that had no value are asked for of the selected run, and nothing else is; then the canvas shows what was
answered last. -/
theorem canvas_shows_answers (opens : (openWorkflow id preferred).run.Runs s₀ log₀ (.ok ()) s₁)
    (loaded : ⟨.getWorkflow id, .ok snapshot⟩ ∈ log₀) (runs : snapshot.results ≠ [])
    (keyed : ∀ dag ∈ snapshot.dags.values, dag.WellKeyed ∧ dag.Apart)
    (browsing : ∀ call ∈ calls, call.isBrowsing) (browses : (performEach calls).Runs s₁ log₁ () s₂)
    (resolves : resolveLayout.run.Runs s₂ log₂ (.ok ()) s₃)
    (fetches : fetchAnnotations.run.Runs s₃ log₃ value s₄) :
    ∃ run dag, s₃.selectedResult = some run ∧ s₃.activeDag = some dag ∧ SamePage s₃ s₄ ∧
      value = .ok (missing s₃ dag).length ∧
      (log₃.map Inquiry.request).Perm ((missing s₃ dag).map (.getArtifactResult run.id)) ∧
      ShowsAnswers (log₀ ++ log₁ ++ log₂ ++ log₃) run dag (canvas s₄) := by
  have opened := settled_of_opened opens loaded runs keyed
  have browsed := settled_of_browsing browsing opened browses
  obtain ⟨settled, layout, laid⟩ := settled_of_laidOut browsed resolves
  obtain ⟨run, selected⟩ := Option.isSome_iff_exists.mp settled.run
  obtain ⟨dag, active⟩ := Option.isSome_iff_exists.mp settled.dag
  obtain ⟨version, _, known⟩ := Option.bind_eq_some_iff.mp active
  obtain ⟨valid, wellKeyed, apart⟩ := settled.sound dag (FinMap.mem_values.mpr ⟨version, known⟩)
  have sound := (Dag.validate_eq_ok_iff wellKeyed apart).mp valid
  obtain ⟨handles, rfl, fetched⟩ := fetched_of_annotations settled selected active sound apart fetches
  have requests := requests_of_fetched settled selected active sound apart fetched
  have count : handles.length = (missing s₃ dag).length := by
    simpa using fetched.requests.length_eq.symm.trans requests.length_eq
  have kept : s₄.layout = .succeeded layout := by
    have absent : .layout ∉ s₃.lacking (annotatedNodes s₃) := by
      simp [lacking_annotated settled selected active sound apart]
    exact (fetched.kept .layout absent).trans laid
  refine ⟨run, dag, selected, active, fetched.same, by rw [count], requests, ?_⟩
  exact showsAnswers_of_shown (fetched.same.activeDag.trans active) kept sound wellKeyed apart fun _ paired =>
    shown_of_fetched settled selected active sound apart fetched paired

end Sessions

/-- A look at the table, for which there is no answer, a selection that drops it again, and a click beside the nodes;
after that the check is asked for and shown. -/
theorem canvas_shows_answers_checked :
    let calls : List Call := [.clickNode ⟨3⟩, .selectResult 0, .clickPane]
    ∃ log₀ log₁ log₂ log₃ s₃ s₄ run dag,
      (openWorkflow ⟨6⟩ none).run.Runs .empty log₀ (.ok ()) (checkedPage 3) ∧
      ⟨.getWorkflow ⟨6⟩, .ok checkedOnce⟩ ∈ log₀ ∧ (performEach calls).Runs (checkedPage 3) log₁ () (checkedPage 4) ∧
      resolveLayout.run.Runs (checkedPage 4) log₂ (.ok ()) s₃ ∧ fetchAnnotations.run.Runs s₃ log₃ (.ok 1) s₄ ∧
      missing s₃ dag = [⟨4⟩] ∧ ShowsAnswers (log₀ ++ log₁ ++ log₂ ++ log₃) run dag (canvas s₄) ∧
      ((canvas s₄).node? ⟨2⟩).bind CanvasNode.annotation = some (.check ⟨4⟩ (some true) .default) := by
  intro calls
  let platform : CannedPlatform := CannedPlatform.withArtifactResult { workflows := .ofList [(⟨6⟩, checkedOnce)] }
    ⟨7⟩ ⟨4⟩ (.ofContent .bool .json "true")
  let laid : Store := { checkedPage 4 with layout := .succeeded (CannedPlatform.gridLayout (.ofDag .checkedTable)) }
  have answered {α : Type} (op : Operation α) (s : Store) := runs_run CannedPlatform.platform op s platform
  have opens : (openWorkflow ⟨6⟩ none).run.Runs .empty _ (.ok ()) (checkedPage 3) := answered _ .empty
  have browses : (performEach calls).Runs (checkedPage 3) _ () (checkedPage 4) := answered _ (checkedPage 3)
  have resolves : resolveLayout.run.Runs (checkedPage 4) _ (.ok ()) laid := answered _ (checkedPage 4)
  have fetches : fetchAnnotations.run.Runs laid _ (.ok 1) _ := answered _ laid
  have loaded : ⟨.getWorkflow ⟨6⟩, .ok checkedOnce⟩ ∈ [(⟨.getWorkflow ⟨6⟩, .ok checkedOnce⟩ : Inquiry)] :=
    List.mem_singleton.mpr rfl
  have keyed : ∀ dag ∈ checkedOnce.dags.values, dag.WellKeyed ∧ dag.Apart :=
    List.forall_mem_singleton.mpr ⟨by decide, by decide⟩
  obtain ⟨run, dag, selected, active, _, _, _, shows⟩ :=
    canvas_shows_answers opens loaded (List.cons_ne_nil _ _) keyed (by decide) browses resolves fetches
  cases active
  exact ⟨_, _, _, _, _, _, run, _, opens, loaded, browses, resolves, fetches, rfl, shows, rfl⟩

end DagConsole.Session

import DagConsole.Proofs.Store.Page

/-! What steps do to a store, case by case. The page changes only with the epoch, and handles are given out for
the page shown. -/
namespace DagConsole.Store

/-- What a step can do to a store. -/
inductive Effect (s : Store) : Step → Store → Prop where
  /-- It fails, or comes too late, or there is nothing to do. -/
  | stay {step : Step} : Effect s step s
  | mark {step : Step} {t : Store} (marking : Marking s t) : Effect s step t
  | waitForLayout {dag : Dag} (active : s.activeDag = some dag) :
      Effect s .beginLayout { s with layout := .loading }
  | refuse {id : WorkflowId} {answer : Outcome Snapshot} {preferred : Option DagResultId} (e : Error) :
      Effect s (.deliver (.workflow s.epoch id) answer preferred) { s with status := .failed e.text }
  | artifact {ticket : Ticket} {id : ArtifactId} {answer : Outcome ArtifactResult}
      {preferred : Option DagResultId} (accepted : s.accepts ticket) :
      Effect s (.deliver (.artifact ticket id) answer preferred)
        { s with artifactResults := s.artifactResults.insert id (.ofOutcome answer) }
  | operator {ticket : Ticket} {id : OperatorId} {answer : Outcome OperatorResult}
      {preferred : Option DagResultId} (accepted : s.accepts ticket) :
      Effect s (.deliver (.operator ticket id) answer preferred)
        { s with operatorResults := s.operatorResults.insert id (.ofOutcome answer) }
  | layout {dag : Dag} {answer : Outcome Layout} {preferred : Option DagResultId} :
      Effect s (.deliver (.layout s.epoch dag) answer preferred) { s with layout := .ofOutcome answer }
  | clickNode {id : NodeId} {type : NodeType} (known : s.nodeType? id = some type) :
      Effect s (.clickNode id) { s with selection := .ofNode id type }
  | clickPane : Effect s .clickPane { s with selection := {} }
  | teardown : Effect s .teardown s.teardown
  | beginWorkflow (id : WorkflowId) :
      Effect s (.beginWorkflow id) { s.teardown with workflow := some id, status := .loading }
  | selectResult {index : Nat} {result : DagResult} (found : s.results[index]? = some result)
      (known : s.dags.contains result.dag) : Effect s (.selectResult index)
        { s with selectedIndex := some index, activeDagId := some result.dag }.resetRun
  | load {step : Step} {snapshot : Snapshot} (preferred : Option DagResultId)
      (loads : step.Loads s snapshot) : Effect s step (s.loaded snapshot preferred)

section Effects

variable {s : Store} {preferred : Option DagResultId}

theorem effect_deliver_workflow (s : Store) (epoch : Epoch) (id : WorkflowId) (answer : Outcome Snapshot) :
    Effect s (.deliver (.workflow epoch id) answer preferred) (s.applyWorkflow epoch answer preferred).2 := by
  by_cases current : s.epoch = epoch
  · subst epoch
    rw [applyWorkflow_of_current]
    cases answer with
    | error e => exact .refuse e
    | ok snapshot =>
      cases checked : snapshot.validate with
      | error e =>
        simp only [Except.bind, checked, Except.map]
        exact .refuse e
      | ok _ =>
        simp only [Except.bind, checked, Except.map]
        refine .load preferred ⟨rfl, checked, ?_⟩
        intro handle uses
        cases uses
        rfl
  · rw [applyWorkflow_of_stale current]
    exact .stay

theorem effect_deliver (s : Store) (handle : Handle) (answer : handle.request.Answer) :
    Effect s (.deliver handle answer preferred) (handle.deliver preferred s answer).2 := by
  cases handle with
  | workflow epoch id => exact effect_deliver_workflow s epoch id answer
  | artifact ticket id =>
    simp only [Handle.deliver, applyArtifactResult]
    split
    · rename_i accepted
      exact .artifact accepted
    · exact .stay
  | operator ticket id =>
    simp only [Handle.deliver, applyOperatorResult]
    split
    · rename_i accepted
      exact .operator accepted
    · exact .stay
  | layout epoch dag =>
    simp only [Handle.deliver, applyLayout]
    split
    · rename_i current
      subst epoch
      exact .layout
    · exact .stay

/-- Every step has one of the effects. -/
theorem effect (step : Step) (s : Store) : Effect s step (step.next s) := by
  cases step with
  | beginWorkflow id => exact .beginWorkflow id
  | beginNodeFetch id force => exact .mark (beginNodeFetch_spec s id force).marking
  | beginNodeFetches ids => exact .mark (beginNodeFetches_marking ids s)
  | beginLayout =>
    simp only [Step.next, beginLayout]
    split
    · exact .stay
    · rename_i active
      exact .waitForLayout active
  | deliver handle answer preferred => exact effect_deliver s handle answer
  | loadWorkflow snapshot preferred =>
    cases checked : snapshot.validate with
    | error e =>
      simp only [Step.next, loadWorkflow_of_invalid checked]
      exact .stay
    | ok _ =>
      simp only [Step.next, loadWorkflow_of_valid checked]
      exact .load preferred ⟨rfl, checked, fun _ uses => nomatch uses⟩
  | selectResult index =>
    rcases selectResult_cases s index with ⟨e, failed⟩ | ⟨result, found, known⟩
    · simp only [Step.next, failed]
      exact .stay
    · simp only [Step.next, selectResult_of_known found known]
      exact .selectResult found known
  | clickNode id =>
    simp only [Step.next, clickNode]
    split
    · exact .stay
    · rename_i known
      exact .clickNode known
  | clickPane => exact .clickPane
  | teardown => exact .teardown

/-- A new epoch: nothing has been fetched in it, and nothing is selected. -/
structure Restart (s t : Store) : Prop where
  artifacts : t.artifactResults = .empty
  operators : t.operatorResults = .empty
  layout : t.layout = .initial
  selection : t.selection = {}
  epoch : t.epoch = s.epoch.next ∨ t.epoch = s.epoch.next.next

theorem restart_loaded (snapshot : Snapshot) (preferred : Option DagResultId) (s : Store) :
    Restart s (s.loaded snapshot preferred) := by
  refine ⟨rfl, rfl, rfl, rfl, ?_⟩
  unfold loaded
  dsimp only
  split
  · exact .inr rfl
  · exact .inl rfl

/-- The page changes only with the epoch. -/
theorem Effect.page {step : Step} {t : Store} (effect : Effect s step t) :
    SamePage s t ∨ Restart s t := by
  cases effect with
  | stay => exact .inl (.refl s)
  | mark marking => exact .inl marking.same
  | load preferred _ => exact .inr (restart_loaded _ preferred s)
  | teardown | beginWorkflow _ | selectResult _ _ => exact .inr ⟨rfl, rfl, rfl, rfl, .inl rfl⟩
  | waitForLayout _ | refuse _ | artifact _ | operator _ | layout | clickNode _ | clickPane =>
    exact .inl ⟨rfl, rfl, rfl, rfl, rfl, rfl⟩

/-- A handle that a step gives out belongs to the epoch and to the page after the step. -/
theorem fits_of_given {step : Step} {handle : Handle} (given : handle ∈ step.handles s) :
    handle.epoch = (step.next s).epoch ∧ handle.Fits (step.next s) := by
  cases step with
  | beginWorkflow id =>
    cases List.mem_singleton.mp given
    exact ⟨rfl, rfl⟩
  | beginNodeFetch id force =>
    have start := beginNodeFetch_spec s id force
    have same := start.marking.same
    change _ = (s.beginNodeFetch id force).2.epoch ∧ Handle.Fits (s.beginNodeFetch id force).2 _
    simp only [Step.handles] at given
    generalize s.beginNodeFetch id force = result at start same given ⊢
    rcases result with ⟨_ | fetch, t⟩
    · cases given
    · obtain ⟨begun, member, rfl⟩ := List.mem_map.mp given
      cases Option.mem_toList.mp member
      exact ⟨start.fits.1.trans same.epoch.symm, same.fits start.fits.2⟩
  | beginNodeFetches ids =>
    have same := (beginNodeFetches_marking ids s).same
    simp only [Step.handles] at given
    split at given
    · rename_i begun
      obtain ⟨fetch, member, rfl⟩ := List.mem_map.mp given
      obtain ⟨epoch, fits⟩ := beginNodeFetches_fits begun fetch member
      exact ⟨epoch.trans same.epoch.symm, same.fits fits⟩
    · cases given
  | beginLayout =>
    simp only [Step.handles, Step.next, beginLayout] at given ⊢
    cases active : s.activeDag with
    | none =>
      rw [active] at given
      cases given
    | some dag =>
      rw [active] at given
      cases List.mem_singleton.mp given
      exact ⟨rfl, active⟩
  | deliver _ _ _ | loadWorkflow _ _ | selectResult _ | clickNode _ | clickPane | teardown => cases given

end Effects

end DagConsole.Store

import DagConsole.Proofs.Session.Transcript

/-! What the operations of a session ask of the platform when they run alone: which of them only read, and which
request an operation makes for the workflow that is open. -/
namespace DagConsole.Session

open Operation

variable {s t : Store} {log : List Inquiry} {id : WorkflowId} {preferred : Option DagResultId}

/-- How the opening of a workflow can end: it is shown, or the status tells why it is not. -/
inductive Opened (id : WorkflowId) (preferred : Option DagResultId) (s : Store) :
    Outcome Snapshot → Outcome Unit → Store → Prop where
  | loaded {snapshot : Snapshot} (valid : snapshot.validate = .ok ()) :
      Opened id preferred s (.ok snapshot) (.ok ()) ((s.beginWorkflow id).2.loaded snapshot preferred)
  | refused {answer : Outcome Snapshot} {e : Error} (failed : answer.bind Snapshot.validate = .error e) :
      Opened id preferred s answer (.error e) { (s.beginWorkflow id).2 with status := .failed e.text }

/-- Alone, it is never overtaken, so the answer is written. -/
theorem opened_of_runs {value : Outcome Unit} (ran : (openWorkflow id preferred).run.Runs s log value t) :
    ∃ answer, log = [⟨.getWorkflow id, answer⟩] ∧ Opened id preferred s answer value t := by
  rw [ExceptT.run, openWorkflow_eq, runs_act, awaiting, runs_ask] at ran
  obtain ⟨answer, rest, rfl, ran⟩ := ran
  rw [delivery, runs_act, runs_done] at ran
  obtain ⟨rfl, rfl, rfl⟩ := ran
  refine ⟨answer, rfl, ?_⟩
  have current : (s.beginWorkflow id).1 = (s.beginWorkflow id).2.epoch := rfl
  rw [current, Store.applyWorkflow_of_current]
  cases answer with
  | error e => exact .refused rfl
  | ok snapshot =>
    cases checked : snapshot.validate with
    | error e =>
      simp only [Except.bind, checked, Except.map]
      exact .refused checked
    | ok _ =>
      simp only [Except.bind, checked, Except.map]
      exact .loaded checked

theorem runs_of_opened {answer : Outcome Snapshot} {value : Outcome Unit}
    (opened : Opened id preferred s answer value t) :
    (openWorkflow id preferred).run.Runs s [⟨.getWorkflow id, answer⟩] value t := by
  rw [ExceptT.run, openWorkflow_eq, runs_act, awaiting, runs_ask]
  refine ⟨answer, [], rfl, ?_⟩
  have current : (s.beginWorkflow id).1 = (s.beginWorkflow id).2.epoch := rfl
  rw [delivery, runs_act, runs_done, current, Store.applyWorkflow_of_current]
  cases opened with
  | loaded valid =>
    simp only [Except.bind, valid, Except.map, true_and, and_true]
    rfl
  | refused failed =>
    cases answer with
    | error e =>
      cases failed
      exact ⟨rfl, rfl, rfl⟩
    | ok snapshot =>
      have invalid : snapshot.validate = .error _ := failed
      simp only [Except.bind, invalid, Except.map, true_and, and_true]
      rfl

/-- How the resolution of a layout can end: there is no version to lay out, or the answer is written, and reported if it
is a failure. -/
inductive Resolved (s : Store) : List Inquiry → Outcome Unit → Store → Prop where
  | inactive : Resolved s [] (.error Store.noActiveDag) s
  | written (request : PositioningRequest) (answer : Outcome Layout) :
      Resolved s [⟨.getPositions request, answer⟩] ((answer.mapError layoutFailure).map fun _ => ())
        { s with layout := .ofOutcome answer }

/-- Alone, the request for a layout is answered in time. -/
theorem resolved_of_runs {value : Outcome Unit} (ran : resolveLayout.run.Runs s log value t) :
    Resolved s log value t := by
  rw [ExceptT.run, resolveLayout_eq, runs_act] at ran
  cases active : s.activeDag with
  | none =>
    simp only [Store.beginLayout, active, runs_done] at ran
    obtain ⟨rfl, rfl, rfl⟩ := ran
    exact .inactive
  | some dag =>
    simp only [Store.beginLayout, active, arranging, runs_ask, placement, runs_act, runs_done] at ran
    obtain ⟨answer, rest, rfl, rfl, rfl, rfl⟩ := ran
    simp only [Store.applyLayout, if_true]
    cases answer with
    | ok layout => exact .written _ (.ok layout)
    | error e => exact .written _ (.error e)

/-- A refresh opens what is open once more, with the selected run preferred. -/
theorem refreshed_of_runs {value : Outcome Unit} (ran : refresh.run.Runs s log value t) :
    (s.workflow = none ∧ log = [] ∧ value = .error noWorkflow ∧ t = s) ∨
      ∃ id answer, s.workflow = some id ∧ log = [⟨.getWorkflow id, answer⟩] ∧
        Opened id (s.selectedResult.map DagResult.id) s answer value t := by
  rw [ExceptT.run, refresh_eq, runs_act, id_eq] at ran
  cases found : s.workflow with
  | none =>
    rw [found, runs_done] at ran
    exact .inl ⟨rfl, ran⟩
  | some id =>
    rw [found] at ran
    obtain ⟨answer, asked, opened⟩ := opened_of_runs ran
    exact .inr ⟨id, answer, rfl, asked, opened⟩

/-- How a change of settings can end: it is refused before or by the platform, or a refresh follows. -/
inductive Edited (update : WorkflowUpdate) (s : Store) : List Inquiry → Outcome Unit → Store → Prop where
  | refused {e : Error} (unsent : checkUpdate update = .error e ∨ s.workflow = none) : Edited update s [] (.error e) s
  | failed {id : WorkflowId} (found : s.workflow = some id) (e : Error) :
      Edited update s [⟨.editWorkflow id update, .error e⟩] (.error e) s
  | accepted {id : WorkflowId} (found : s.workflow = some id) {reads : List Inquiry} {value : Outcome Unit} {t : Store}
      (refreshes : refresh.run.Runs s reads value t) :
      Edited update s (⟨.editWorkflow id update, .ok ()⟩ :: reads) value t

theorem changed_of_runs {update : WorkflowUpdate} {value : Outcome Unit}
    (ran : (editWorkflow update).run.Runs s log value t) : Edited update s log value t := by
  rw [ExceptT.run, editWorkflow_eq, runs_act, id_eq] at ran
  cases checked : checkUpdate update with
  | error e =>
    rw [checked, runs_done] at ran
    obtain ⟨rfl, rfl, rfl⟩ := ran
    exact .refused (.inl checked)
  | ok _ =>
    cases found : s.workflow with
    | none =>
      rw [checked, found, runs_done] at ran
      obtain ⟨rfl, rfl, rfl⟩ := ran
      exact .refused (.inr found)
    | some id =>
      rw [checked, found] at ran
      obtain ⟨answer, reads, rfl, reloaded⟩ := runs_ask.mp ran
      cases answer with
      | error e =>
        obtain ⟨rfl, rfl, rfl⟩ := runs_done.mp reloaded
        exact .failed found e
      | ok _ => exact .accepted found reloaded

/-- What changes nothing on the platform. -/
abbrev Reading (request : Request) : Prop := request.isMutating = false

theorem openWorkflow_asks (id : WorkflowId) (preferred : Option DagResultId) :
    (openWorkflow id preferred).run.Asks Reading := by
  rw [ExceptT.run, openWorkflow_eq]
  exact fun _ => ⟨rfl, fun _ _ => trivial⟩

theorem refresh_asks : refresh.run.Asks Reading := by
  rw [ExceptT.run, refresh_eq]
  intro s
  dsimp only
  cases s.workflow with
  | none => exact trivial
  | some id => exact openWorkflow_asks id _

theorem attempt_asks {α : Type} (sort : Request → Prop) (step : Store → Outcome α × Store) :
    (Action.attempt step).run.Asks sort := fun _ => trivial

theorem fetchNodeResults_asks (ids : List NodeId) : (fetchNodeResults ids).run.Asks Reading := by
  refine Asks.except_bind (attempt_asks _ _) fun fetches => ?_
  split
  · exact trivial
  · refine ⟨fun fetch _ => ?_, fun _ => trivial⟩
    cases fetch <;> rfl

theorem fetchAnnotations_asks : fetchAnnotations.run.Asks Reading := by
  refine Asks.except_bind (fun _ => trivial) fun ids => ?_
  cases ids with
  | none => exact trivial
  | some ids => exact fetchNodeResults_asks ids

theorem clickNode_asks (id : NodeId) : (clickNode id).run.Asks Reading := by
  refine Asks.except_bind (attempt_asks _ _) fun (type, ids) => ?_
  dsimp only
  split
  · exact trivial
  · exact Asks.except_bind (Asks.discard (fetchNodeResults_asks ids)) fun _ => trivial

theorem resolveLayout_asks : resolveLayout.run.Asks Reading := by
  refine Asks.except_bind (attempt_asks _ _) fun (epoch, dag) => ?_
  refine Asks.except_bind ⟨rfl, fun _ => trivial⟩ fun answer => ?_
  refine Asks.except_bind (fun _ => trivial) fun applied => ?_
  cases answer with
  | ok _ => exact trivial
  | error e =>
    dsimp only
    split <;> exact trivial

/-- The request for a run goes to the open workflow. -/
theorem triggered_of_runs {parameters : RunParameters} {value : Outcome Unit} (found : s.workflow = some id)
    (ran : (triggerRun parameters).run.Runs s log value t) : log = [⟨.triggerRun id parameters, value⟩] := by
  rcases runs_attempt_bind.mp ran with ⟨e, refused, _⟩ | ⟨other, known, asks⟩
  · rw [requireWorkflow, found] at refused
    cases refused
  · rw [requireWorkflow, found] at known
    cases known
    obtain ⟨answer, rest, rfl, ended⟩ := runs_ask.mp asks
    obtain ⟨rfl, rfl, rfl⟩ := runs_done.mp ended
    rfl

/-- The deletion is of the open workflow, and succeeds exactly if the platform deletes it. -/
theorem deleted_of_runs {value : Outcome Unit} (found : s.workflow = some id)
    (ran : deleteWorkflow.run.Runs s log value t) : log = [⟨.deleteWorkflow id, value⟩] := by
  rw [ExceptT.run, deleteWorkflow_eq, runs_act, id_eq, found] at ran
  obtain ⟨answer, rest, rfl, ended⟩ := runs_ask.mp ran
  cases answer with
  | error e =>
    obtain ⟨rfl, rfl, rfl⟩ := runs_done.mp ended
    rfl
  | ok _ =>
    dsimp only at ended
    rw [close_eq, runs_act, runs_done] at ended
    obtain ⟨rfl, rfl, rfl⟩ := ended
    rfl

/-- The change is of the open workflow, and comes first, if it comes at all; then the workflow is only read. -/
theorem edited_of_runs {update : WorkflowUpdate} {value : Outcome Unit} (found : s.workflow = some id)
    (ran : (editWorkflow update).run.Runs s log value t) :
    log = [] ∨ ∃ answer reads, log = ⟨.editWorkflow id update, answer⟩ :: reads ∧
      ∀ inquiry ∈ reads, Reading inquiry.request := by
  cases changed_of_runs ran with
  | refused _ => exact .inl rfl
  | failed there e =>
    cases found.symm.trans there
    exact .inr ⟨.error e, [], rfl, List.forall_mem_nil _⟩
  | accepted there refreshes =>
    cases found.symm.trans there
    exact .inr ⟨.ok (), _, rfl, refreshes.asks refresh_asks⟩

/-- An update that passes the check is sent. -/
theorem sent_of_runs {update : WorkflowUpdate} {value : Outcome Unit} (passes : checkUpdate update = .ok ())
    (found : s.workflow = some id) (ran : (editWorkflow update).run.Runs s log value t) :
    ∃ answer reads, log = ⟨.editWorkflow id update, answer⟩ :: reads ∧ ∀ inquiry ∈ reads, Reading inquiry.request := by
  rcases edited_of_runs found ran with rfl | sent
  · generalize unsent : ([] : List Inquiry) = log at ran
    cases changed_of_runs ran with
    | refused refused =>
      rcases refused with failed | closed
      · cases passes.symm.trans failed
      · cases found.symm.trans closed
    | failed _ _ | accepted _ _ => cases unsent
  · exact sent

end DagConsole.Session

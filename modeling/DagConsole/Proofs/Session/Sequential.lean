import DagConsole.Proofs.Session.Settled

/-! What holds between the operations of a session that waits for each one before it starts the next: nothing is on its
way, and what is shown has passed its checks and belongs to a workflow that is open. -/
namespace DagConsole.Session

open Operation Store

/-- A session between two operations. -/
structure Resting (s : Store) : Prop where
  opened : s.workflow = none → s.results = []
  idle : ∀ target, s.slot target ≠ .loading
  valid : ∀ dag ∈ s.dags.values, dag.validate = .ok ()

variable {s t : Store} {log : List Inquiry} {ids : List NodeId} {handles : List Handle} {id : WorkflowId}
  {preferred : Option DagResultId}

theorem Resting.empty : Resting .empty :=
  ⟨fun _ => rfl, fun target => by cases target <;> nofun, List.forall_mem_nil _⟩

theorem Resting.of_same (resting : Resting s) (same : SamePage s t) (idle : ∀ target, t.slot target ≠ .loading) :
    Resting t := by
  refine ⟨fun closed => ?_, idle, same.dags ▸ resting.valid⟩
  exact same.results.trans (resting.opened (same.workflow.symm.trans closed))

/-- Where nothing has been fetched, only the workflow itself could be on its way. -/
theorem Resting.of_restart (restart : Restart s t) (status : t.status ≠ .loading)
    (opened : t.workflow = none → t.results = []) (valid : ∀ dag ∈ t.dags.values, dag.validate = .ok ()) :
    Resting t := by
  refine ⟨opened, fun target loading => ?_, valid⟩
  by_cases kind : target = .workflow
  · subst kind
    have same := congrArg Loadable.status loading
    rw [Store.slot, Loadable.status_ofStatus] at same
    exact status same
  · rw [restart.slot kind] at loading
    cases loading

theorem resting_of_opened {answer : Outcome Snapshot} {value : Outcome Unit}
    (opened : Opened id preferred s answer value t) : Resting t := by
  cases opened with
  | @loaded snapshot valid =>
    have restart := restart_loaded snapshot preferred (s.beginWorkflow id).2
    exact .of_restart restart nofun (fun closed => nomatch closed) (Snapshot.validate_eq_ok_iff.mp valid).2
  | @refused _ e failed =>
    have restart : Restart s { (s.beginWorkflow id).2 with status := .failed e.text } := ⟨rfl, rfl, rfl, rfl, .inl rfl⟩
    exact .of_restart restart nofun (fun _ => rfl) (List.forall_mem_nil _)

theorem Resting.teardown (s : Store) : Resting s.teardown :=
  .of_restart (s := s) ⟨rfl, rfl, rfl, rfl, .inl rfl⟩ nofun (fun _ => rfl) (List.forall_mem_nil _)

/-- Everything that was asked for has been answered. -/
theorem Resting.fetched (resting : Resting s) (fetched : Fetched s ids handles log t) : Resting t := by
  refine resting.of_same fetched.same fun target => ?_
  by_cases lacking : target ∈ s.lacking ids
  · rw [← fetched.targets] at lacking
    obtain ⟨handle, given, rfl⟩ := List.mem_map.mp lacking
    obtain ⟨answer, _, slot⟩ := fetched.written handle given
    rw [slot]
    exact Loadable.ne_loading_of_arrived (handle.arrived_content answer)
  · rw [fetched.kept target lacking]
    exact resting.idle target

section Calls

variable {value : Outcome Unit}

theorem resting_of_fetch {count : Outcome Nat} (resting : Resting s)
    (ran : (fetchNodeResults ids).run.Runs s log count t) : Resting t := by
  rcases fetched_of_runs ran with ⟨_, _, _, _, rfl⟩ | ⟨_, _, fetched⟩
  · exact resting
  · exact resting.fetched fetched

theorem resting_of_refresh (resting : Resting s) (ran : refresh.run.Runs s log value t) : Resting t := by
  rcases refreshed_of_runs ran with ⟨_, _, _, rfl⟩ | ⟨_, _, _, _, opened⟩
  · exact resting
  · exact resting_of_opened opened

theorem resting_of_selectResult {index : Nat} (resting : Resting s)
    (ran : (selectResult index).run.Runs s log value t) : Resting t := by
  obtain ⟨_, _, rfl⟩ := runs_attempt.mp ran
  rcases selectResult_cases s index with ⟨e, failed⟩ | ⟨result, found, known⟩
  · rwa [failed]
  · rw [selectResult_of_known found known]
    refine .of_restart (s := s) ⟨rfl, rfl, rfl, rfl, .inl rfl⟩ (fun loading => ?_) resting.opened resting.valid
    exact resting.idle .workflow (congrArg Loadable.ofStatus loading)

theorem resting_of_clickNode {node : NodeId} {type : Outcome NodeType} (resting : Resting s)
    (ran : (clickNode node).run.Runs s log type t) : Resting t := by
  have selected (type : NodeType) : Resting { s with selection := .ofNode node type } :=
    resting.of_same ⟨rfl, rfl, rfl, rfl, rfl, rfl⟩ resting.idle
  cases clicks_of_runs ran with
  | foreign _ => exact resting
  | unselected _ _ | refused _ _ _ _ => exact selected _
  | fetched _ _ fetched => exact (selected _).fetched fetched

theorem resting_of_triggerRun {parameters : RunParameters} (resting : Resting s)
    (ran : (triggerRun parameters).run.Runs s log value t) : Resting t := by
  rcases runs_attempt_bind.mp ran with ⟨_, _, _, _, rfl⟩ | ⟨_, _, asks⟩
  · exact resting
  · obtain ⟨_, _, _, ended⟩ := runs_ask.mp asks
    obtain ⟨_, _, rfl⟩ := runs_done.mp ended
    exact resting

theorem resting_of_deleteWorkflow (resting : Resting s) (ran : deleteWorkflow.run.Runs s log value t) : Resting t := by
  rw [ExceptT.run, deleteWorkflow_eq, runs_act, id_eq] at ran
  cases found : s.workflow with
  | none =>
    rw [found, runs_done] at ran
    exact ran.2.2 ▸ resting
  | some id =>
    rw [found] at ran
    obtain ⟨answer, _, _, ended⟩ := runs_ask.mp ran
    cases answer with
    | error e => exact (runs_done.mp ended).2.2 ▸ resting
    | ok _ => exact (runs_access.mp ended).2.2 ▸ .teardown s

theorem resting_of_call {call : Call} (resting : Resting s) (ran : call.body.run.Runs s log value t) : Resting t := by
  cases call with
  | openWorkflow id preferred =>
    obtain ⟨_, _, opened⟩ := opened_of_runs ran
    exact resting_of_opened opened
  | refresh => exact resting_of_refresh resting ran
  | selectResult index => exact resting_of_selectResult resting ran
  | resolveLayout =>
    cases resolved_of_runs ran with
    | inactive => exact resting
    | written request answer =>
      refine resting.of_same ⟨rfl, rfl, rfl, rfl, rfl, rfl⟩ fun target => ?_
      cases target with
      | layout => exact Loadable.ofOutcome_ne_loading answer
      | workflow => exact resting.idle .workflow
      | artifact id => exact resting.idle (.artifact id)
      | operator id => exact resting.idle (.operator id)
  | clickNode node =>
    obtain ⟨_, clicks, _⟩ := runs_discard.mp ran
    exact resting_of_clickNode resting clicks
  | clickPane =>
    obtain ⟨_, _, rfl⟩ := runs_access.mp ran
    exact resting.of_same ⟨rfl, rfl, rfl, rfl, rfl, rfl⟩ resting.idle
  | fetchNodeResults ids =>
    obtain ⟨_, fetches, _⟩ := runs_discard.mp ran
    exact resting_of_fetch resting fetches
  | fetchAnnotations =>
    obtain ⟨_, draws, _⟩ := runs_discard.mp ran
    rcases annotations_of_runs draws with ⟨_, _, _, rfl⟩ | ⟨_, fetches⟩
    · exact resting
    · exact resting_of_fetch resting fetches
  | triggerRun parameters => exact resting_of_triggerRun resting ran
  | editWorkflow update =>
    cases changed_of_runs ran with
    | refused _ => exact resting
    | failed _ _ => exact resting
    | accepted _ refreshes => exact resting_of_refresh resting refreshes
  | deleteWorkflow => exact resting_of_deleteWorkflow resting ran
  | close =>
    obtain ⟨_, _, rfl⟩ := runs_access.mp ran
    exact .teardown s

/-- Whatever was done one after another, the session rests. -/
theorem resting_of_session {calls : List Call} (ran : (performEach calls).Runs .empty log () s) : Resting s := by
  let inv (_ : List Inquiry) (s : Store) : Prop := Resting s
  have start : inv [] .empty := Resting.empty
  exact invariant_of_performEach inv [] (fun _ _ _ _ _ _ _ resting => resting_of_call resting) start ran

end Calls

end DagConsole.Session

import DagConsole.Proofs.Store.History

/-! Handles of earlier epochs. Each step that replaces what is shown starts a new epoch, and until the counter
wraps around no later epoch is that of an earlier handle, so an answer delivered with it is dropped. -/
namespace DagConsole.Store

variable {s : Store}

/-- Whether an answer delivered with a handle is written. -/
def wants (s : Store) : Handle → Bool
  | .workflow epoch _ | .layout epoch _ => s.epoch == epoch
  | .artifact ticket _ | .operator ticket _ => s.accepts ticket

theorem epoch_of_wants {handle : Handle} (wanted : s.wants handle) : handle.epoch = s.epoch := by
  cases handle with
  | workflow epoch id => exact (beq_iff_eq.mp wanted).symm
  | artifact ticket id => exact (accepts_iff.mp wanted).1
  | operator ticket id => exact (accepts_iff.mp wanted).1
  | layout epoch dag => exact (beq_iff_eq.mp wanted).symm

theorem SamePage.wants {t : Store} (same : SamePage s t) (handle : Handle) :
    t.wants handle = s.wants handle := by
  cases handle with
  | workflow _ _ | layout _ _ => simp only [Store.wants, same.epoch]
  | artifact _ _ | operator _ _ => simp only [Store.wants, accepts, same.epoch, same.selectedResult]

theorem deliver_of_unwanted {handle : Handle} (unwanted : s.wants handle = false)
    (answer : handle.request.Answer) (preferred : Option DagResultId) :
    handle.deliver preferred s answer = (.ok false, s) := by
  cases handle with
  | workflow epoch id => exact applyWorkflow_of_stale (beq_eq_false_iff_ne.mp unwanted)
  | artifact ticket id =>
    have refused : s.accepts ticket = false := unwanted
    simp [Handle.deliver, applyArtifactResult, refused]
  | operator ticket id =>
    have refused : s.accepts ticket = false := unwanted
    simp [Handle.deliver, applyOperatorResult, refused]
  | layout epoch dag => simp [Handle.deliver, applyLayout, beq_eq_false_iff_ne.mp unwanted]

theorem deliver_of_stale {handle : Handle} (stale : handle.epoch ≠ s.epoch) (answer : handle.request.Answer)
    (preferred : Option DagResultId) : handle.deliver preferred s answer = (.ok false, s) :=
  deliver_of_unwanted (Bool.eq_false_iff.mpr fun wanted => stale (epoch_of_wants wanted)) answer preferred

/-- The steps that succeed in replacing what is shown. -/
inductive Replaces (s : Store) : Step → Prop where
  | beginWorkflow (id : WorkflowId) : Replaces s (.beginWorkflow id)
  | teardown : Replaces s .teardown
  | selectResult {index : Nat} (selected : (s.selectResult index).1 = .ok ()) :
      Replaces s (.selectResult index)
  | loadWorkflow {snapshot : Snapshot} {preferred : Option DagResultId}
      (loaded : (s.loadWorkflow snapshot preferred).1 = .ok ()) :
      Replaces s (.loadWorkflow snapshot preferred)
  | applyWorkflow {epoch : Epoch} {id : WorkflowId} {answer : Outcome Snapshot}
      {preferred : Option DagResultId} (loaded : (s.applyWorkflow epoch answer preferred).1 = .ok true) :
      Replaces s (.deliver (.workflow epoch id) answer preferred)

/-- Such a step starts a new epoch, whose slots are empty. -/
theorem Replaces.restart {step : Step} (replaces : Replaces s step) : Restart s (step.next s) := by
  cases replaces with
  | beginWorkflow id => exact ⟨rfl, rfl, rfl, rfl, .inl rfl⟩
  | teardown => exact ⟨rfl, rfl, rfl, rfl, .inl rfl⟩
  | @selectResult index selected =>
    rcases selectResult_cases s index with ⟨e, failed⟩ | ⟨result, found, known⟩
    · rw [failed] at selected
      cases selected
    · simp only [Step.next, selectResult_of_known found known]
      exact ⟨rfl, rfl, rfl, rfl, .inl rfl⟩
  | @loadWorkflow snapshot preferred loaded =>
    cases checked : snapshot.validate with
    | error e =>
      rw [loadWorkflow_of_invalid checked] at loaded
      cases loaded
    | ok _ =>
      simp only [Step.next, loadWorkflow_of_valid checked]
      exact restart_loaded snapshot preferred s
  | @applyWorkflow epoch id answer preferred loaded =>
    by_cases current : s.epoch = epoch
    · subst epoch
      simp only [Step.next, Handle.deliver]
      rw [applyWorkflow_of_current] at loaded ⊢
      split at loaded
      · exact restart_loaded _ preferred s
      · cases loaded
    · rw [applyWorkflow_of_stale current] at loaded
      cases loaded

theorem Restart.since_pos {t : Store} (restart : Restart s t) : 0 < t.epoch.since s.epoch := by
  rcases restart.epoch with one | two
  · simp [one]
  · simp [two]

variable {permitted : History → Step → Prop} {h earlier last : History} {step replacing : Step}

/-- Once what a handle was given out for has been replaced, no answer is written with its epoch at any later
time, whatever its target and whether or not it is a failure. This also holds of a handle that has itself loaded
the workflow. -/
theorem stale_after_replaced {handle : Handle} (given : handle ∈ step.handles h.store)
    (between : (h.after step).Continues permitted earlier) (permits : permitted earlier replacing)
    (replaced : Replaces earlier.store replacing)
    (since : (earlier.after replacing).Continues permitted last)
    (bounded : last.epochs < (h.after step).epochs + UInt64.size) {used : Handle}
    (same : used.epoch = handle.epoch) (answer : used.request.Answer) (preferred : Option DagResultId) :
    used.deliver preferred last.store answer = (.ok false, last.store) := by
  have begun : earlier.epochs < (earlier.after replacing).epochs :=
    Nat.lt_add_of_pos_right replaced.restart.since_pos
  have passed : (h.after step).epochs < last.epochs := calc
    (h.after step).epochs ≤ earlier.epochs := between.epochs_le
    _ < (earlier.after replacing).epochs := begun
    _ ≤ last.epochs := since.epochs_le
  have past : (h.after step).store.epoch ≠ last.store.epoch :=
    ((between.step permits).trans since).epoch_ne passed bounded
  apply deliver_of_stale
  rw [same, (fits_of_given given).1]
  exact past

/-- The handle that loaded a workflow does not load it again after an output and the layout were fetched. -/
theorem stale_after_opened : .workflow ⟨1⟩ ⟨6⟩ ∈ Step.handles (.beginWorkflow ⟨6⟩) History.start.store ∧
    History.opened.epochs < (History.start.after (.beginWorkflow ⟨6⟩)).epochs + UInt64.size ∧
    Handle.deliver none History.opened.store (.workflow ⟨1⟩ ⟨6⟩) (.ok {}) =
      (.ok false, History.opened.store) := by
  have given : .workflow ⟨1⟩ ⟨6⟩ ∈ Step.handles (.beginWorkflow ⟨6⟩) History.start.store :=
    List.mem_singleton.mpr rfl
  have bounded :
      History.opened.epochs < (History.start.after (.beginWorkflow ⟨6⟩)).epochs + UInt64.size := by
    decide
  obtain ⟨loading, since, replaced⟩ : ∃ loading,
      ((History.start.after (.beginWorkflow ⟨6⟩)).after loading).Continues (fun _ _ => True) .opened ∧
        Replaces (History.start.after (.beginWorkflow ⟨6⟩)).store loading :=
    ⟨_, .step (.step (.step (.step .refl trivial) trivial) trivial) trivial, .applyWorkflow rfl⟩
  exact ⟨given, bounded,
    stale_after_replaced given .refl trivial replaced since bounded rfl (.ok {}) none⟩

end DagConsole.Store

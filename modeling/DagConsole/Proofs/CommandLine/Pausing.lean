import DagConsole.Platform.Canned
import DagConsole.Proofs.CommandLine.Mutation
import DagConsole.Proofs.CommandLine.Rescheduling
import DagConsole.Proofs.Session.Editing
import DagConsole.Proofs.Store.ShownVersion

/-! Edits that only pause or resume a workflow. What they send besides is the schedule of the version that is shown,
which is the one that the newest run executed. So a workflow that was deployed on another schedule since is put back on
the schedule of that run. -/
namespace DagConsole

/-- The newest run executed an older version than the newest one, and their schedules differ in more than being
paused. -/
def Snapshot.IsRescheduledBy (snapshot : Snapshot) (newest : Dag) : Prop :=
  ∃ run executed, snapshot.IsNewestRun run ∧ snapshot.dags.find? run.dag = some executed ∧ executed.Older newest ∧
    ∀ paused, { executed.metadata.schedule with paused } ≠ { newest.metadata.schedule with paused }

/-- Schedules that differ when both are paused alike differ however both are paused. -/
theorem Schedule.ne_paused {one other : Schedule} {paused : Bool}
    (apart : { one with paused } ≠ { other with paused }) (again : Bool) :
    { one with paused := again } ≠ { other with paused := again } := by
  simpa only [ne_eq, Schedule.mk.injEq, and_true, true_and] using apart

/-- What is shown and what is newest come to the same schedule unless the newest version brought another one. -/
theorem Snapshot.Shows.paused_eq_iff {snapshot : Snapshot} {dag newest : Dag} (shown : snapshot.Shows dag)
    (isNewest : snapshot.IsNewest newest) (paused : Bool) :
    { dag.metadata.schedule with paused } = { newest.metadata.schedule with paused } ↔
      ¬snapshot.IsRescheduledBy newest := by
  constructor
  · rintro same ⟨run, executed, last, stored, _, apart⟩
    cases shown.unique (.executed last stored)
    exact apart paused same
  · intro kept
    by_contra apart
    have outdated : dag ≠ newest := by
      rintro rfl
      exact apart rfl
    obtain ⟨run, last, stored, older⟩ := shown.older_of_ne isNewest outdated
    exact kept ⟨run, dag, last, stored, older, Schedule.ne_paused apart⟩

namespace CommandLine

open Operation
open Session (Reading)

/-- The schedule that is sent to pause or resume the runs of a workflow. -/
structure PausedAs (snapshot : Snapshot) (paused : Bool) (sent : Schedule) : Prop where
  versionless : snapshot.dags.values = [] → sent = { paused }
  shown : snapshot.dags.values ≠ [] → ∃ dag, snapshot.Shows dag ∧ sent = { dag.metadata.schedule with paused }
  /-- It is the one of the newest version, unless that is on another schedule than the one that ran last. -/
  newest : snapshot.dags.values ≠ [] → ∃ newest, snapshot.IsNewest newest ∧
    (sent = { newest.metadata.schedule with paused } ↔ ¬snapshot.IsRescheduledBy newest)

variable {snapshot : Snapshot} {workflow : WorkflowId}

/-- An edit starts from the schedule of the version that is shown. -/
theorem currentSchedule_loaded (s : Store) (valid : snapshot.validate = .ok ())
    (keyed : snapshot.dags.KeyedBy Dag.id) (versions : snapshot.dags.values ≠ []) :
    ∃ dag, snapshot.Shows dag ∧ currentSchedule (s.loaded snapshot none) = dag.metadata.schedule := by
  obtain ⟨dag, shown, active⟩ := Store.activeDag_loaded s valid keyed versions
  refine ⟨dag, shown, ?_⟩
  rw [currentSchedule, active]
  rfl

theorem pausedAs_currentSchedule (s : Store) (valid : snapshot.validate = .ok ())
    (keyed : snapshot.dags.KeyedBy Dag.id) (paused : Bool) :
    PausedAs snapshot paused { currentSchedule (s.loaded snapshot none) with paused } := by
  refine ⟨fun versionless => ?_, fun versions => ?_, fun versions => ?_⟩
  · rw [currentSchedule, Store.activeDag_loaded_of_versionless s versionless]
    rfl
  · obtain ⟨dag, shown, current⟩ := currentSchedule_loaded s valid keyed versions
    exact ⟨dag, shown, by rw [current]⟩
  · obtain ⟨dag, shown, current⟩ := currentSchedule_loaded s valid keyed versions
    obtain ⟨newest, isNewest⟩ := Snapshot.exists_isNewest keyed versions
    rw [current]
    exact ⟨newest, isNewest, shown.paused_eq_iff isNewest paused⟩

/-- An edit of the schedule is sent, whatever the schedule is and whatever the answers after the first one are. -/
theorem sent_of_edit {settings : EditSettings} {update : WorkflowUpdate} {schedule : Schedule} {t : Store}
    {log : List Inquiry} {outcome : Except CommandError Json} (valid : snapshot.validate = .ok ())
    (described : settings.update (currentSchedule ((Store.empty.beginWorkflow workflow).2.loaded snapshot none)) =
      .ok update) (scheduled : update.schedule = some schedule)
    (ran : (executeEdit workflow settings).run.Runs .empty (⟨.getWorkflow workflow, .ok snapshot⟩ :: log) outcome t) :
    ∃ answer reads, log = ⟨.editWorkflow workflow update, answer⟩ :: reads ∧
      ∀ inquiry ∈ reads, Reading inquiry.request := by
  obtain ⟨answer, rest, same, ended⟩ := asked_of_runs ran
  cases same
  rcases ended with ⟨_, cause, invalid, _⟩ | ⟨_, same, _, goes⟩
  · cases invalid.symm.trans valid
  · cases same
    have edits := runs_looking.mp goes
    rw [described] at edits
    have sent : (taking .update (Session.editWorkflow update) >>= fun _ => pure _).run.Runs _ log outcome t := edits
    obtain ⟨value, changes, _⟩ := taken_of_runs sent
    exact Session.sent_of_runs (Session.checkUpdate_of_scheduled scheduled) rfl changes

theorem schedule_of_pausing (paused : Bool) (current : Schedule) :
    ({ paused := some paused } : EditSettings).schedule current = some { current with paused } := rfl

/-- To pause or resume a workflow, one change is sent, and that is to the schedule of the version that is shown. The
newest version keeps its schedule exactly if the newest run executed it, or one on the same schedule, or if there was no
run at all. -/
theorem pauses_shown_version {σ : Type} {platform : Platform σ} {x : σ} (paused : Bool)
    (valid : snapshot.validate = .ok ()) (keyed : snapshot.dags.KeyedBy Dag.id)
    (served : (platform.answer (.getWorkflow workflow) x).1 = .ok snapshot) :
    ∃ sent answer reads,
      (Command.edit workflow { paused := some paused }).execute.run.transcript platform .empty x =
        ⟨.getWorkflow workflow, .ok snapshot⟩ :: ⟨.editWorkflow workflow { schedule := some sent }, answer⟩ :: reads ∧
      (∀ inquiry ∈ reads, Reading inquiry.request) ∧ PausedAs snapshot paused sent := by
  have ran := runs_run platform (executeEdit workflow { paused := some paused }).run .empty x
  -- The workflow is opened before all else, so the answer to that is the one that is served.
  have first : ∃ log, (executeEdit workflow { paused := some paused }).run.transcript platform .empty x =
      ⟨.getWorkflow workflow, (platform.answer (.getWorkflow workflow) x).1⟩ :: log := ⟨_, rfl⟩
  obtain ⟨log, asked⟩ := first
  rw [served] at asked
  rw [asked] at ran
  obtain ⟨answer, reads, rfl, only⟩ :=
    sent_of_edit valid (EditSettings.update_of_schedule (schedule_of_pausing paused _)) rfl ran
  exact ⟨_, answer, reads, asked, only, pausedAs_currentSchedule _ valid keyed paused⟩

/-- A version that runs every hour. -/
def hourly : Dag where
  id := ⟨5⟩
  workflow := ⟨6⟩
  metadata := { name := "report", schedule := { trigger := .periodic, cron := "0 * * * *" }, created := some ⟨0⟩ }

/-- The version deployed after it, which runs every night. -/
def nightly : Dag where
  id := ⟨9⟩
  workflow := ⟨6⟩
  metadata :=
    { name := "report", schedule := { trigger := .periodic, cron := "30 2 * * *" }, created := some ⟨2000000000⟩ }

def redeployed (runs : List DagResult) : Snapshot := ⟨.ofList [(⟨5⟩, hourly), (⟨9⟩, nightly)], runs⟩

theorem isNewest_nightly (runs : List DagResult) : (redeployed runs).IsNewest nightly := by
  refine ⟨List.mem_cons_of_mem _ List.mem_cons_self, fun other member apart => ?_⟩
  rcases List.mem_pair.mp member with rfl | rfl
  · exact .inl (by decide)
  · exact absurd rfl apart

/-- Both versions ran at one time, and the run with the greater identifier counts as the newest. -/
theorem pauses_shown_version_tied :
    let snapshot := redeployed [{ id := ⟨7⟩, dag := ⟨5⟩, created := ⟨3000000000⟩ },
      { id := ⟨8⟩, dag := ⟨9⟩, created := ⟨3000000000⟩ }]
    let platform : CannedPlatform := { workflows := .ofList [(⟨6⟩, snapshot)] }
    let sent : Schedule := { trigger := .periodic, cron := "30 2 * * *", paused := true }
    snapshot.validate = .ok () ∧ snapshot.dags.KeyedBy Dag.id ∧
      (CannedPlatform.platform.answer (.getWorkflow ⟨6⟩) platform).1 = .ok snapshot ∧ ∃ answer reads,
        (Command.edit ⟨6⟩ { paused := some true }).execute.run.transcript CannedPlatform.platform .empty platform =
          ⟨.getWorkflow ⟨6⟩, .ok snapshot⟩ :: ⟨.editWorkflow ⟨6⟩ { schedule := some sent }, answer⟩ :: reads := by
  intro snapshot platform sent
  have valid : snapshot.validate = .ok () := rfl
  have keyed : snapshot.dags.KeyedBy Dag.id := by decide
  have served : (CannedPlatform.platform.answer (.getWorkflow ⟨6⟩) platform).1 = .ok snapshot := rfl
  obtain ⟨schedule, answer, reads, asked, _, pausedAs⟩ := pauses_shown_version true valid keyed served
  obtain ⟨dag, shown, rfl⟩ := pausedAs.shown (List.cons_ne_nil _ _)
  have newest : snapshot.IsNewestRun { id := ⟨8⟩, dag := ⟨9⟩, created := ⟨3000000000⟩ } :=
    ⟨[_], [], rfl, by decide, by decide⟩
  cases shown.unique (.executed newest rfl)
  exact ⟨valid, keyed, served, answer, reads, asked⟩

/-- The nightly version is deployed after the only run, and to pause the workflow puts it back on the hourly schedule. -/
theorem pausing_reverts_deployment :
    let snapshot := redeployed [{ id := ⟨7⟩, dag := ⟨5⟩, created := ⟨1000000000⟩ }]
    let platform : CannedPlatform := { workflows := .ofList [(⟨6⟩, snapshot)] }
    let sent : Schedule := { trigger := .periodic, cron := "0 * * * *", paused := true }
    snapshot.validate = .ok () ∧ snapshot.dags.KeyedBy Dag.id ∧ snapshot.IsNewest nightly ∧
      sent ≠ { nightly.metadata.schedule with paused := true } ∧
      (Command.edit ⟨6⟩ { paused := some true }).execute.run.transcript CannedPlatform.platform .empty platform =
        [⟨.getWorkflow ⟨6⟩, .ok snapshot⟩, ⟨.editWorkflow ⟨6⟩ { schedule := some sent }, .ok ()⟩,
          ⟨.getWorkflow ⟨6⟩, .ok snapshot⟩] :=
  ⟨rfl, by decide, isNewest_nightly _, by decide, rfl⟩

end CommandLine

end DagConsole

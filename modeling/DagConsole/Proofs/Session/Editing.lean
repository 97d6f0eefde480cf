import DagConsole.Platform.Canned
import DagConsole.Proofs.Schedule.Cron
import DagConsole.Proofs.Session.Requests

/-! Changes to the settings of a workflow. The check that comes before them looks at the period that a schedule's
expression encodes, and an expression encodes no period that the check would refuse. -/
namespace DagConsole.Session

open Operation

variable {s t : Store} {log : List Inquiry} {id : WorkflowId} {update : WorkflowUpdate} {p : Period}

/-- An update is refused only if it changes nothing, whatever its schedule is. -/
theorem checkUpdate_eq (update : WorkflowUpdate) :
    checkUpdate update = if update.isEmpty then .error emptyUpdate else .ok () := by
  unfold checkUpdate
  split_ifs
  · rfl
  · split
    · rename_i period encoded
      obtain ⟨schedule, _, read⟩ := Option.bind_eq_some_iff.mp encoded
      exact Schedule.validate_of_period? read
    · rfl

theorem checkUpdate_of_scheduled {schedule : Schedule} (scheduled : update.schedule = some schedule) :
    checkUpdate update = .ok () := by
  rw [checkUpdate_eq, if_neg]
  simp [WorkflowUpdate.isEmpty, scheduled]

/-- With a workflow open, the schedule of every period is sent, in range or not. One that is not in range encodes no
period any more, so that the check before has nothing to look at. -/
theorem sends_every_period (scheduled : update.schedule = some (.ofPeriod p)) :
    checkUpdate update = .ok () ∧
    (∀ q, update.schedule.bind Schedule.period? = some q ↔ p.validate = .ok () ∧ q = p.normalize) ∧
    ∀ s t log value id, s.workflow = some id → (editWorkflow update).run.Runs s log value t →
      ∃ answer reads, log = ⟨.editWorkflow id update, answer⟩ :: reads ∧ ∀ inquiry ∈ reads, Reading inquiry.request := by
  have passes := checkUpdate_of_scheduled scheduled
  refine ⟨passes, fun q => ?_, fun s t log value id found ran => sent_of_runs passes found ran⟩
  rw [scheduled, Option.bind_some, Schedule.period?_ofPeriod_eq_some_iff]

/-- A monthly schedule on day 0 encodes no period, and is sent together with a new name. -/
theorem sends_every_period_dayless :
    let p : Period := { unit := .monthly, hour := 7, day := 0 }
    let update : WorkflowUpdate := { name := some "nightly", schedule := some (.ofPeriod p) }
    let platform : CannedPlatform := { workflows := .ofList [(⟨6⟩, {})] }
    let opened := ((openWorkflow ⟨6⟩ none).run.run CannedPlatform.platform .empty platform).2
    p.validate ≠ .ok () ∧ update.schedule.bind Schedule.period? = none ∧ opened.1.workflow = some ⟨6⟩ ∧
      ∃ answer reads, (editWorkflow update).run.transcript CannedPlatform.platform opened.1 opened.2 =
        ⟨.editWorkflow ⟨6⟩ update, answer⟩ :: reads := by
  intro p update platform opened
  have scheduled : update.schedule = some (.ofPeriod p) := rfl
  obtain ⟨_, encoded, sent⟩ := sends_every_period scheduled
  have late : p.validate ≠ .ok () := nofun
  have none : update.schedule.bind Schedule.period? = none :=
    Option.eq_none_iff_forall_ne_some.mpr fun q same => late ((encoded q).mp same).1
  have ran := runs_run CannedPlatform.platform (editWorkflow update).run opened.1 opened.2
  obtain ⟨answer, reads, asked, _⟩ := sent _ _ _ _ ⟨6⟩ rfl ran
  exact ⟨late, none, rfl, answer, reads, asked⟩

/-- An hourly schedule at minute 60 is refused by the check on periods, and sent all the same. -/
theorem late_minute_sent :
    let p : Period := { unit := .hourly, minute := 60 }
    let update : WorkflowUpdate := { schedule := some (.ofPeriod p) }
    let platform : CannedPlatform := { workflows := .ofList [(⟨6⟩, {})] }
    let opened := ((openWorkflow ⟨6⟩ none).run.run CannedPlatform.platform .empty platform).2
    p.validate = .error (.invalidInput "minute 60 is out of range 0-59") ∧ opened.1.workflow = some ⟨6⟩ ∧
      ((editWorkflow update).run.run CannedPlatform.platform opened.1 opened.2).1 = .ok () ∧
      (editWorkflow update).run.transcript CannedPlatform.platform opened.1 opened.2 =
        [⟨.editWorkflow ⟨6⟩ update, .ok ()⟩, ⟨.getWorkflow ⟨6⟩, .ok {}⟩] :=
  ⟨rfl, rfl, rfl, rfl⟩

end DagConsole.Session

import DagConsole.CommandLine.Command
import DagConsole.Proofs.Schedule.Cron

/-! Edits of a schedule. What an edit does not mention stays as it was, the same edit changes nothing when it is made
again, and pausing may as well be left to a second edit. -/
namespace DagConsole.CommandLine.EditSettings

variable {e : EditSettings} {c s named : Schedule} {update : WorkflowUpdate}

/-! ### What an edit says -/

/-- A schedule on the period of an expression, or on the expression itself if it encodes none. -/
structure RunsOn (expression : String) (s : Schedule) : Prop where
  trigger : s.trigger = .periodic
  source : s.source = none
  period : ∀ p, s.period? = some p ↔ Period.ofCron expression = .ok p
  /-- A period is written the one way that all its expressions come to. -/
  canonical : ∀ p, Period.ofCron expression = .ok p → s.cron = p.cron
  custom : ∀ error, Period.ofCron expression = .error error → s.cron = Text.trim expression

/-- What an edit makes of the current schedule `c`. -/
structure Edits (e : EditSettings) (c s : Schedule) : Prop where
  refusals : s.disableManualTrigger = c.disableManualTrigger
  /-- What is said of pausing counts. Else only another kind of trigger ends a pause. -/
  paused : s.paused = e.paused.getD (if s.trigger = c.trigger then c.paused else false)
  pausedOnly : ∀ paused, e.manual = false → e.cron = none → e.paused = some paused → s = { c with paused }
  manual : e.manual → s.trigger = .manual ∧ s.cron = "" ∧ s.source = none
  periodic : ∀ expression, e.cron = some expression → RunsOn expression s

theorem namedSchedule_eq_none_iff : e.namedSchedule c = none ↔ ¬(e.cron.isSome ∨ e.manual ∨ e.paused.isSome) := by
  unfold namedSchedule
  by_cases manual : e.manual
  · simp [manual]
  · cases given : e.cron with
    | none => simp [manual]
    | some expression => cases read : Period.ofCron expression <;> simp [manual, read]

/-- The settings name a schedule of their own, the same whatever the current one is, or else the current one. -/
theorem namedSchedule_cases (found : e.namedSchedule c = some named) :
    ((e.manual ∨ e.cron.isSome) ∧ named.paused = false ∧ ∀ paused d, { e with paused }.namedSchedule d = some named) ∨
      (e.manual = false ∧ e.cron = none ∧ named = c ∧ ∃ paused, e.paused = some paused) := by
  unfold namedSchedule at found
  by_cases manual : e.manual
  · rw [if_pos manual] at found
    cases found
    refine .inl ⟨.inl manual, rfl, fun paused d => ?_⟩
    simp [namedSchedule, manual]
  · rw [if_neg manual] at found
    cases given : e.cron with
    | none =>
      rw [given, Option.ite_none_right_eq_some] at found
      obtain ⟨said, same⟩ := found
      cases same
      exact .inr ⟨Bool.eq_false_iff.mpr manual, rfl, rfl, Option.isSome_iff_exists.mp said⟩
    | some expression =>
      rw [given] at found
      refine .inl ⟨.inr rfl, ?_, fun paused d => ?_⟩
      · cases read : Period.ofCron expression <;> simp only [read] at found <;> cases found <;> rfl
      · simpa [namedSchedule, manual, given] using found

/-- An expression is read again from what is kept of it, without the blanks around it or in the spelling of its
period. -/
theorem runsOn_of_named {expression : String} (found : e.namedSchedule c = some named) (manual : e.manual = false)
    (given : e.cron = some expression) : RunsOn expression named := by
  simp only [namedSchedule, manual, given, Bool.false_eq_true, if_false] at found
  cases read : Period.ofCron expression with
  | ok period =>
    simp only [read] at found
    cases found
    refine ⟨rfl, rfl, fun p => ?_, fun p same => ?_, fun error refused => ?_⟩
    · rw [Schedule.period?_eq_some_iff, read, Except.ok.injEq]
      exact (and_iff_right rfl).trans (Period.ofCron_cron_of_read read)
    · cases read.symm.trans same
      rfl
    · cases read.symm.trans refused
  | error unsupported =>
    simp only [read] at found
    cases found
    refine ⟨rfl, rfl, fun p => ?_, fun p same => ?_, fun error _ => rfl⟩
    · rw [Schedule.period?_eq_some_iff, Period.ofCron_trim]
      exact and_iff_right rfl
    · cases read.symm.trans same

/-! ### What becomes of the schedule -/

theorem schedule_of_named (found : e.namedSchedule c = some named) : e.schedule c = some { named with
    paused := e.paused.getD (if named.trigger = c.trigger then c.paused else named.paused)
    disableManualTrigger := c.disableManualTrigger } := by
  rw [schedule, found, Option.map_some]

theorem isSome_schedule_iff : (e.schedule c).isSome ↔ e.cron.isSome ∨ e.manual ∨ e.paused.isSome := by
  rw [schedule, Option.isSome_map, ← not_iff_not, Option.not_isSome_iff_eq_none, namedSchedule_eq_none_iff]

theorem edits_of_schedule (apart : ¬(e.cron.isSome ∧ e.manual)) (edited : e.schedule c = some s) : e.Edits c s := by
  obtain ⟨named, found, rfl⟩ := Option.map_eq_some_iff.mp edited
  rcases namedSchedule_cases found with ⟨own, resumed, _⟩ | ⟨manual, absent, rfl, paused, said⟩
  · refine ⟨rfl, by rw [resumed], fun paused manual absent => ?_, fun manual => ?_, fun expression given => ?_⟩
    · simp [manual, absent] at own
    · simp only [namedSchedule, manual, if_true] at found
      cases found
      exact ⟨rfl, rfl, rfl⟩
    · have manual : e.manual = false := by simpa [given] using apart
      obtain ⟨trigger, source, period, canonical, custom⟩ := runsOn_of_named found manual given
      exact ⟨trigger, source, period, canonical, custom⟩
  · refine ⟨rfl, by simp [said], fun other _ _ same => ?_, fun given => ?_, fun expression given => ?_⟩
    · cases said.symm.trans same
      simp [said]
    · rw [manual] at given
      cases given
    · rw [absent] at given
      cases given

/-- Made again, an edit finds the schedule that it asks for. -/
theorem schedule_idempotent (edited : e.schedule c = some s) : e.schedule s = some s := by
  obtain ⟨named, found, rfl⟩ := Option.map_eq_some_iff.mp edited
  rcases namedSchedule_cases found with ⟨_, _, own⟩ | ⟨manual, absent, rfl, paused, said⟩
  · rw [schedule_of_named (own e.paused _)]
    cases e.paused <;> simp
  · simp [schedule, namedSchedule, manual, absent, said]

/-- A schedule that is changed and then paused or resumed is what it becomes by doing both at once. -/
theorem schedule_in_turn {paused : Bool} (own : e.manual ∨ e.cron.isSome) (said : e.paused = some paused)
    (edited : e.schedule c = some s) : ∃ between, { e with paused := none }.schedule c = some between ∧
      ∀ later : EditSettings, later.manual = false → later.cron = none → later.paused = some paused →
        later.schedule between = some s := by
  obtain ⟨named, found, rfl⟩ := Option.map_eq_some_iff.mp edited
  rcases namedSchedule_cases found with ⟨_, _, unpaused⟩ | ⟨idle, unnamed, _⟩
  · refine ⟨_, schedule_of_named (unpaused none c), fun later manual absent again => ?_⟩
    simp [schedule, namedSchedule, manual, absent, again, said]
  · simp [idle, unnamed] at own

/-! ### What becomes of the update -/

theorem eq_empty_iff : e = {} ↔ e.name = none ∧ e.description = none ∧ e.schedule c = none ∧ e.keepRuns = none := by
  rw [← Option.not_isSome_iff_eq_none (o := e.schedule c), isSome_schedule_iff]
  rcases e with ⟨name, description, cron, manual, paused, keepRuns⟩
  simp only [EditSettings.mk.injEq, Option.isSome_iff_ne_none, Bool.eq_false_iff]
  tauto

/-- An edit that gives no setting is refused; every other one is carried out. -/
theorem update_eq (e : EditSettings) (c : Schedule) : e.update c = if e = {} then .error .nothingToChange else
    .ok ⟨e.name, e.description, e.schedule c, e.keepRuns.map RetentionPolicy.mk⟩ := by
  have empty : WorkflowUpdate.isEmpty ⟨e.name, e.description, e.schedule c, e.keepRuns.map RetentionPolicy.mk⟩ ↔
      e = {} := by
    rw [eq_empty_iff (c := c)]
    simp [WorkflowUpdate.isEmpty, and_assoc]
  simp only [update, empty]

theorem schedule_of_update (updated : e.update c = .ok update) : update.schedule = e.schedule c := by
  rw [update_eq] at updated
  split_ifs at updated
  cases updated
  rfl

theorem update_of_schedule (edited : e.schedule c = some s) :
    e.update c = .ok ⟨e.name, e.description, some s, e.keepRuns.map RetentionPolicy.mk⟩ := by
  rw [update_eq, if_neg, edited]
  intro empty
  rw [(eq_empty_iff.mp empty).2.2.1] at edited
  cases edited

/-- An edit is refused exactly if it gives no setting, and touches the schedule exactly if one of its settings is about
that. The schedule then keeps what the edit does not mention, stays as it is when the edit is made again, and may as
well be paused or resumed by a second edit. -/
theorem reschedules_as_asked (e : EditSettings) (apart : ¬(e.cron.isSome ∧ e.manual)) (c : Schedule) :
    (∀ error, e.update c = .error error ↔ e = {} ∧ error = .nothingToChange) ∧
    (∀ update, e.update c = .ok update → (update.schedule.isSome ↔ e.cron.isSome ∨ e.manual ∨ e.paused.isSome)) ∧
    ∀ update s, e.update c = .ok update → update.schedule = some s →
      e.Edits c s ∧ e.update s = .ok update ∧
      ∀ paused, (e.manual ∨ e.cron.isSome) → e.paused = some paused →
        ∃ first between, { e with paused := none }.update c = .ok first ∧ first.schedule = some between ∧
          ∀ later : EditSettings, later.manual = false → later.cron = none → later.paused = some paused →
            ∃ second, later.update between = .ok second ∧ second.schedule = some s := by
  refine ⟨fun error => ?_, fun update updated => ?_, fun update s updated edited => ?_⟩
  · rw [update_eq]
    split_ifs with empty
    · simp [empty, eq_comm]
    · simp [empty]
  · rw [schedule_of_update updated, isSome_schedule_iff]
  · rw [schedule_of_update updated] at edited
    refine ⟨edits_of_schedule apart edited, ?_, fun paused own said => ?_⟩
    · rw [update_of_schedule edited] at updated
      rw [update_of_schedule (schedule_idempotent edited), updated]
    · obtain ⟨between, changed, inTurn⟩ := schedule_in_turn own said edited
      refine ⟨_, between, update_of_schedule changed, rfl, fun later manual absent again => ?_⟩
      exact ⟨_, update_of_schedule (inTurn later manual absent again), rfl⟩

/-- A cascade that refuses runs on request is put on a period and paused. -/
theorem reschedules_as_asked_weekly :
    let e : EditSettings := { cron := some "\t05 4 * * +1", paused := some true }
    let c : Schedule := { trigger := .cascade, disableManualTrigger := true, source := some ⟨6⟩ }
    let s : Schedule := { trigger := .periodic, cron := "5 4 * * 1", disableManualTrigger := true, paused := true }
    ¬(e.cron.isSome ∧ e.manual) ∧ e.update c = .ok { schedule := some s } ∧ e.Edits c s ∧
      e.update s = .ok { schedule := some s } ∧
      ∃ first between, { e with paused := none }.update c = .ok first ∧ first.schedule = some between ∧
        ∃ second, { paused := some true : EditSettings }.update between = .ok second ∧ second.schedule = some s := by
  intro e c s
  have apart : ¬(e.cron.isSome ∧ e.manual) := by simp [e]
  have updated : e.update c = .ok { schedule := some s } := rfl
  obtain ⟨_, _, settled⟩ := reschedules_as_asked e apart c
  obtain ⟨edits, again, inTurn⟩ := settled _ s updated rfl
  obtain ⟨first, between, changed, reached, paused⟩ := inTurn true (.inr rfl) rfl
  exact ⟨apart, updated, edits, again, first, between, changed, reached, paused { paused := some true } rfl rfl rfl⟩

end DagConsole.CommandLine.EditSettings

import DagConsole.CommandLine.Command
import DagConsole.Platform.Canned
import DagConsole.Proofs.FinMap
import DagConsole.Proofs.Session.Requests

/-! What commands change on the platform: one thing at most, as the command says, and only on a workflow that was
loaded and found valid. -/
namespace DagConsole.CommandLine

open Operation
open Session (Reading)

/-! ### What commands ask for -/

/-- The workflow that a command is for. -/
def Command.workflow : Command → WorkflowId
  | .show workflow .. | .node workflow .. | .run workflow .. | .edit workflow .. | .delete workflow .. => workflow

/-- The commands whose last request is the change that they ask for; after an edit the workflow is loaded again. -/
def Command.endsWithChange : Command → Bool
  | .run .. | .delete .. => true
  | _ => false

/-- A value is the last one given for a parameter. -/
def IsLast (parameters : List (String × Json)) (name : String) (value : Json) : Prop :=
  ∃ earlier later, parameters = earlier ++ (name, value) :: later ∧ name ∉ later.map Prod.fst

/-- The changes that a command asks for, all of its own workflow: a run with the last value given for each parameter, a
change of the settings that are given, and a deletion that is confirmed. All else asks for none. -/
inductive Command.AsksFor : Command → Request → Prop where
  | run {workflow : WorkflowId} {parameters : List (String × Json)} {sent : RunParameters}
      (last : ∀ name value, sent.find? name = some value ↔ IsLast parameters name value) :
      AsksFor (.run workflow parameters) (.triggerRun workflow sent)
  | edit {workflow : WorkflowId} {settings : EditSettings} {update : WorkflowUpdate} (given : settings ≠ {})
      (described : ∃ current, settings.update current = .ok update) :
      AsksFor (.edit workflow settings) (.editWorkflow workflow update)
  | delete {workflow : WorkflowId} : AsksFor (.delete workflow true) (.deleteWorkflow workflow)

/-- What a command changed, by its transcript and its outcome. -/
structure Command.MutatesAsAsked (command : Command) (log : List Inquiry)
    (outcome : Except CommandError Json) : Prop where
  once : (log.filter fun inquiry => inquiry.request.isMutating).length ≤ 1
  asked : ∀ inquiry ∈ log, inquiry.request.isMutating → command.AsksFor inquiry.request
  /-- The workflow was loaded before, and is valid. -/
  loaded : ∀ earlier inquiry later, log = earlier ++ inquiry :: later → inquiry.request.isMutating →
    ∃ snapshot, ⟨.getWorkflow command.workflow, .ok snapshot⟩ ∈ earlier ∧ snapshot.validate = .ok ()
  unconfirmed : ∀ workflow, command = .delete workflow false → log = []
  settled : command.endsWithChange → ((∃ output, outcome = .ok output) ↔
    ∃ inquiry ∈ log, inquiry.request.isMutating ∧ ∃ response, inquiry.answer = .ok response)

theorem find?_ofList_iff_isLast {parameters : List (String × Json)} {name : String} {value : Json} :
    (FinMap.ofList parameters).find? name = some value ↔ IsLast parameters name value := by
  rw [FinMap.find?_ofList, FinMap.lookup, Option.map_eq_some_iff]
  constructor
  · rintro ⟨⟨stored, _⟩, found, rfl⟩
    obtain ⟨matched, later, earlier, reversed, others⟩ := List.find?_eq_some_iff_append.mp found
    cases Std.LawfulEqOrd.eq_of_compare (beq_iff_eq.mp matched)
    refine ⟨earlier.reverse, later.reverse, ?_, ?_⟩
    · simpa using congrArg List.reverse reversed
    · intro again
      obtain ⟨entry, member, same⟩ := List.mem_map.mp again
      have differs := others entry (List.mem_reverse.mp member)
      simp [same] at differs
  · rintro ⟨earlier, later, rfl, fresh⟩
    refine ⟨(name, value), List.find?_eq_some_iff_append.mpr ⟨by simp, later.reverse, earlier.reverse, by simp, ?_⟩, rfl⟩
    intro entry member
    have apart : name ≠ entry.1 := by
      rintro rfl
      exact fresh (List.mem_map_of_mem (List.mem_reverse.mp member))
    simpa using apart

/-- Settings describe no update exactly if none is given. -/
theorem EditSettings.ne_of_update {settings : EditSettings} {current : Schedule} {update : WorkflowUpdate}
    (described : settings.update current = .ok update) : settings ≠ {} := by
  rintro rfl
  cases described

/-! ### The transcripts of commands -/

section Shapes

variable {command : Command} {log : List Inquiry} {outcome : Except CommandError Json}

/-- Where nothing is changed, nothing has to be asked for. -/
theorem mutates_of_reading (reads : ∀ inquiry ∈ log, Reading inquiry.request)
    (unconfirmed : ∀ workflow, command = .delete workflow false → log = [])
    (failed : command.endsWithChange → ∃ e, outcome = .error e) : command.MutatesAsAsked log outcome := by
  have none (inquiry : Inquiry) (member : inquiry ∈ log) : ¬inquiry.request.isMutating := by
    simp [reads inquiry member]
  refine ⟨?_, fun inquiry member changes => absurd changes (none inquiry member), ?_, unconfirmed, ?_⟩
  · rw [List.filter_eq_nil_iff.mpr none]
    exact Nat.zero_le 1
  · rintro earlier inquiry later rfl changes
    exact absurd changes (none inquiry (by simp))
  · intro ends
    obtain ⟨e, rfl⟩ := failed ends
    constructor
    · rintro ⟨output, same⟩
      cases same
    · rintro ⟨inquiry, member, changes, _⟩
      exact absurd changes (none inquiry member)

/-- One change, right after the workflow was loaded. -/
theorem mutates_of_change {snapshot : Snapshot} {change : Inquiry} (valid : snapshot.validate = .ok ())
    (asked : command.AsksFor change.request) (reads : ∀ inquiry ∈ log, Reading inquiry.request)
    (settled : command.endsWithChange →
      ((∃ output, outcome = .ok output) ↔ ∃ response, change.answer = .ok response)) :
    command.MutatesAsAsked (⟨.getWorkflow command.workflow, .ok snapshot⟩ :: change :: log) outcome := by
  have changes : change.request.isMutating := by
    cases change
    cases asked <;> rfl
  -- Of the inquiries that change something, there is only this one.
  have only (inquiry : Inquiry) (member : inquiry ∈ (⟨.getWorkflow command.workflow, .ok snapshot⟩ :: change :: log))
      (mutates : inquiry.request.isMutating) : inquiry = change := by
    rcases List.mem_cons.mp member with rfl | member
    · cases mutates
    · rcases List.mem_cons.mp member with rfl | member
      · rfl
      · rw [reads inquiry member] at mutates
        cases mutates
  refine ⟨?_, fun inquiry member mutates => only inquiry member mutates ▸ asked, ?_, ?_, fun ends => ?_⟩
  · have rest : log.filter (fun inquiry => inquiry.request.isMutating) = [] :=
      List.filter_eq_nil_iff.mpr fun inquiry member => by simp [reads inquiry member]
    rw [List.filter_cons_of_neg Bool.false_ne_true, List.filter_cons_of_pos (a := change) changes, rest]
    exact Nat.le_refl 1
  · intro earlier inquiry later split mutates
    cases earlier with
    | nil =>
      cases (List.cons.inj split).1
      cases mutates
    | cons first earlier =>
      cases (List.cons.inj split).1
      exact ⟨snapshot, List.mem_cons_self, valid⟩
  · rintro workflow rfl
    cases asked
  · rw [settled ends]
    constructor
    · intro succeeded
      exact ⟨change, by simp, changes, succeeded⟩
    · rintro ⟨inquiry, member, mutates, succeeded⟩
      exact only inquiry member mutates ▸ succeeded

end Shapes

section Loading

variable {α : Type} {workflow : WorkflowId} {run : Option DagResultId} {next : Unit → Execution α} {s t : Store}
  {log : List Inquiry} {outcome : Except CommandError α}

/-- A command asks for its workflow first. It goes on with what was loaded if that is valid, and else ends there. -/
theorem asked_of_runs (ran : (taking .load (Session.openWorkflow workflow run) >>= next).run.Runs s log outcome t) :
    ∃ answer rest, log = ⟨.getWorkflow workflow, answer⟩ :: rest ∧
      ((∃ e cause, answer.bind Snapshot.validate = .error cause ∧ outcome = .error e ∧ rest = []) ∨
        ∃ snapshot, answer = .ok snapshot ∧ snapshot.validate = .ok () ∧
          (next ()).run.Runs ((s.beginWorkflow workflow).2.loaded snapshot run) rest outcome t) := by
  rcases runs_except_bind.mp ran with ⟨e, first, rfl⟩ | ⟨one, _, u, rest, first, second, rfl⟩
  · obtain ⟨opened, first, same⟩ := runs_adapt.mp first
    obtain ⟨answer, rfl, ended⟩ := Session.opened_of_runs first
    cases ended with
    | refused failed => exact ⟨answer, [], rfl, .inl ⟨e, _, failed, rfl, rfl⟩⟩
    | loaded _ => cases same
  · obtain ⟨opened, first, same⟩ := runs_adapt.mp first
    obtain ⟨answer, rfl, ended⟩ := Session.opened_of_runs first
    cases ended with
    | refused e => cases same
    | @loaded snapshot valid => exact ⟨.ok snapshot, rest, rfl, .inr ⟨snapshot, rfl, valid, second⟩⟩

/-- A command goes on with the workflow loaded and valid, or ends there. -/
theorem loaded_of_runs (ran : (taking .load (Session.openWorkflow workflow run) >>= next).run.Runs s log outcome t) :
    (∃ e answer, outcome = .error e ∧ log = [⟨.getWorkflow workflow, answer⟩]) ∨
      ∃ snapshot u rest, snapshot.validate = .ok () ∧ u.workflow = some workflow ∧
        log = ⟨.getWorkflow workflow, .ok snapshot⟩ :: rest ∧ (next ()).run.Runs u rest outcome t := by
  obtain ⟨answer, rest, rfl, ⟨e, _, _, rfl, rfl⟩ | ⟨snapshot, rfl, valid, goes⟩⟩ := asked_of_runs ran
  · exact .inl ⟨e, answer, rfl, rfl⟩
  · exact .inr ⟨snapshot, _, rest, valid, rfl, rfl, goes⟩

/-- To look at the store asks nothing. -/
theorem runs_looking {β : Type} {view : Store → β} {next : β → Execution α} :
    (looking view >>= next).run.Runs s log outcome t ↔ (next (view s)).run.Runs s log outcome t := by
  change (Operation.act (fun s => s) fun s => (next (view s)).run).Runs s log outcome t ↔ _
  exact runs_act

/-- A last step decides how the command ends. -/
theorem taken_of_runs {step : Step} {action : Action Unit} {output : α}
    (ran : (taking step action >>= fun _ => pure output).run.Runs s log outcome t) :
    ∃ value, action.run.Runs s log value t ∧ ((∃ output, outcome = .ok output) ↔ ∃ response, value = .ok response) := by
  rcases runs_except_bind.mp ran with ⟨e, first, rfl⟩ | ⟨one, _, u, rest, first, second, rfl⟩
  · obtain ⟨value, first, same⟩ := runs_adapt.mp first
    refine ⟨value, first, ?_⟩
    cases value with
    | error _ => simp
    | ok _ => cases same
  · obtain ⟨value, first, same⟩ := runs_adapt.mp first
    obtain ⟨rfl, rfl, rfl⟩ := runs_done.mp second
    refine ⟨value, by rwa [List.append_nil], ?_⟩
    cases value with
    | error _ => cases same
    | ok _ => simp

end Loading

/-! ### Commands that only read -/

theorem looking_asks {α : Type} (view : Store → α) : (looking view).run.Asks Reading := fun _ => trivial

theorem executeShow_asks (workflow : WorkflowId) (run : Option DagResultId) (index : Option Nat) :
    (executeShow workflow run index).run.Asks Reading := by
  unfold executeShow
  refine Asks.except_bind (Asks.adapt (Session.openWorkflow_asks _ _) _) fun _ => ?_
  have drawn : (do
      taking .layOut Session.resolveLayout
      discard (ExceptT.lift Session.fetchAnnotations.run)
      looking fun s => .ofFields [("workflow_id", workflow.toJson),
        ("results", .array ((Session.resultOptions s).map RunPicker.Entry.toJson)),
        ("canvas", (Session.canvas s).toJson)] : Execution Json).run.Asks Reading := by
    refine Asks.except_bind (Asks.adapt Session.resolveLayout_asks _) fun _ => ?_
    exact Asks.except_bind (Asks.discard (Asks.lift Session.fetchAnnotations_asks)) fun _ => looking_asks _
  cases index with
  | none => exact drawn
  | some index => exact Asks.except_bind (Asks.adapt (Session.attempt_asks _ _) _) fun _ => drawn

theorem executeNode_asks (workflow : WorkflowId) (node : NodeId) (run : Option DagResultId) :
    (executeNode workflow node run).run.Asks Reading := by
  refine Asks.except_bind (Asks.adapt (Session.openWorkflow_asks _ _) _) fun _ => ?_
  exact Asks.except_bind (Asks.discard (Asks.adapt (Session.clickNode_asks node) _)) fun _ => looking_asks _

/-! ### Commands that change something -/

variable {workflow : WorkflowId} {t : Store} {log : List Inquiry} {outcome : Except CommandError Json}

theorem executeRun_mutates {parameters : List (String × Json)}
    (ran : (executeRun workflow parameters).run.Runs .empty log outcome t) :
    (Command.run workflow parameters).MutatesAsAsked log outcome := by
  rcases loaded_of_runs ran with ⟨e, answer, rfl, rfl⟩ | ⟨snapshot, u, rest, valid, found, rfl, goes⟩
  · exact mutates_of_reading (List.forall_mem_singleton.mpr rfl) nofun fun _ => ⟨e, rfl⟩
  · obtain ⟨value, triggers, ends⟩ := taken_of_runs goes
    cases Session.triggered_of_runs found triggers
    exact mutates_of_change valid (.run fun _ _ => find?_ofList_iff_isLast) (List.forall_mem_nil _) fun _ => ends

theorem executeDelete_mutates {confirmed : Bool}
    (ran : (executeDelete workflow confirmed).run.Runs .empty log outcome t) :
    (Command.delete workflow confirmed).MutatesAsAsked log outcome := by
  cases confirmed with
  | false =>
    obtain ⟨rfl, rfl, rfl⟩ := runs_done.mp ran
    exact mutates_of_reading (List.forall_mem_nil _) (fun _ _ => rfl) fun _ => ⟨_, rfl⟩
  | true =>
    rcases loaded_of_runs ran with ⟨e, answer, rfl, rfl⟩ | ⟨snapshot, u, rest, valid, found, rfl, goes⟩
    · exact mutates_of_reading (List.forall_mem_singleton.mpr rfl) nofun fun _ => ⟨e, rfl⟩
    · obtain ⟨value, deletes, ends⟩ := taken_of_runs goes
      cases Session.deleted_of_runs found deletes
      exact mutates_of_change valid .delete (List.forall_mem_nil _) fun _ => ends

theorem executeEdit_mutates {settings : EditSettings}
    (ran : (executeEdit workflow settings).run.Runs .empty log outcome t) :
    (Command.edit workflow settings).MutatesAsAsked log outcome := by
  rcases loaded_of_runs ran with ⟨e, answer, rfl, rfl⟩ | ⟨snapshot, u, rest, valid, found, rfl, goes⟩
  · exact mutates_of_reading (List.forall_mem_singleton.mpr rfl) nofun nofun
  · have described := runs_looking.mp goes
    cases settled : settings.update (currentSchedule u) with
    | error e =>
      rw [settled] at described
      obtain ⟨rfl, _, _⟩ := runs_done.mp described
      exact mutates_of_reading (List.forall_mem_singleton.mpr rfl) nofun nofun
    | ok update =>
      rw [settled] at described
      have sent : (taking .update (Session.editWorkflow update) >>= fun _ => pure _).run.Runs u rest outcome t :=
        described
      obtain ⟨value, edits, _⟩ := taken_of_runs sent
      rcases Session.edited_of_runs found edits with rfl | ⟨answer, reads, rfl, only⟩
      · exact mutates_of_reading (List.forall_mem_singleton.mpr rfl) nofun nofun
      · exact mutates_of_change valid (.edit (EditSettings.ne_of_update settled) ⟨_, settled⟩) only nofun

/-- A command changes what it asks for, and nothing else. -/
theorem mutates_as_asked {command : Command} (ran : command.execute.run.Runs .empty log outcome t) :
    command.MutatesAsAsked log outcome := by
  match command, ran with
  | .show workflow run index, ran => exact mutates_of_reading (ran.asks (executeShow_asks workflow run index)) nofun nofun
  | .node workflow node run, ran => exact mutates_of_reading (ran.asks (executeNode_asks workflow node run)) nofun nofun
  | .run .., ran => exact executeRun_mutates ran
  | .edit .., ran => exact executeEdit_mutates ran
  | .delete .., ran => exact executeDelete_mutates ran

/-- A parameter is given twice, and the run is started with the later value. -/
theorem mutates_as_asked_given_twice :
    let command : Command := .run ⟨6⟩ [("mode", .string "dry"), ("depth", .string "all"), ("mode", .string "wet")]
    let log : List Inquiry := [⟨.getWorkflow ⟨6⟩, .ok {}⟩,
      ⟨.triggerRun ⟨6⟩ (.ofList [("depth", .string "all"), ("mode", .string "wet")]), .ok ()⟩]
    ∃ outcome t, command.execute.run.Runs .empty log outcome t ∧ command.MutatesAsAsked log outcome := by
  intro command log
  let platform : CannedPlatform := { workflows := .ofList [(⟨6⟩, {})] }
  have ran : command.execute.run.Runs .empty log _ _ :=
    runs_run CannedPlatform.platform command.execute.run .empty platform
  exact ⟨_, _, ran, mutates_as_asked ran⟩

end DagConsole.CommandLine

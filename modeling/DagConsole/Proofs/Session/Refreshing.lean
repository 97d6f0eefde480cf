import DagConsole.Proofs.Session.Sequential
import DagConsole.Proofs.Store.InitialRun

/-! Which run is shown after a workflow was loaded, and that it stays the same one when the workflow is loaded again. -/
namespace DagConsole.Session

open Operation Store

/-- Once the inquiries before it have gone as they should, an operation loads the workflow again, and ends with the run
selected if the platform still has it, wherever it now stands among the others. -/
structure KeepsRun (id : WorkflowId) (run : DagResultId) (s : Store) (before : List Inquiry)
    (op : Operation (Outcome Unit)) : Prop where
  asks : ∀ log value t, op.Runs s (before ++ log) value t → ∃ answer, log = [⟨.getWorkflow id, answer⟩]
  keeps : ∀ snapshot : Snapshot, snapshot.validate = .ok () → (∃ result ∈ snapshot.results, result.id = run) →
    ∃ after, after.selectedResult.map DagResult.id = some run ∧ ∀ value t,
      op.Runs s (before ++ [⟨.getWorkflow id, .ok snapshot⟩]) value t ↔ value = .ok () ∧ t = after

variable {s : Store} {id : WorkflowId} {run : DagResult} {snapshot : Snapshot} {calls : List Call} {log : List Inquiry}

/-- A preferred run that was loaded is selected. -/
theorem selected_of_loaded {preferred : DagResultId} (s : Store)
    (among : ∃ result ∈ snapshot.results, result.id = preferred) :
    (s.loaded snapshot (some preferred)).selectedResult.map DagResult.id = some preferred := by
  have complete : snapshot.newestFirst.Perm snapshot.results := Sorting.perm_sortBy _ _
  obtain ⟨result, member, same⟩ := among
  have inside : result ∈ snapshot.newestFirst := complete.mem_iff.mpr member
  rcases shown_of_loaded snapshot (some preferred) s with ⟨index, run, initial, found, chosen, _⟩ | ⟨blank, _, _⟩
  · obtain ⟨_, there, picks⟩ := RunPicker.picks_of_initialIndex initial
    cases found.symm.trans there
    have selected : (s.loaded snapshot (some preferred)).selectedResult = some run := by
      rw [selectedResult, chosen]
      exact found
    rw [selected, Option.map_some, picks.id_eq ⟨result, inside, same⟩]
  · rw [blank] at inside
    cases inside

theorem keepsRun_refresh (found : s.workflow = some id) (selected : s.selectedResult = some run) :
    KeepsRun id run.id s [] refresh.run := by
  refine ⟨fun log value t ran => ?_, fun snapshot valid among => ?_⟩
  · rcases refreshed_of_runs ran with ⟨closed, _⟩ | ⟨other, answer, same, asked, _⟩
    · cases found.symm.trans closed
    · cases found.symm.trans same
      exact ⟨answer, asked⟩
  · refine ⟨_, selected_of_loaded (s.beginWorkflow id).2 among, fun value t => ⟨fun ran => ?_, ?_⟩⟩
    · rcases refreshed_of_runs ran with ⟨closed, _⟩ | ⟨other, answer, same, asked, opened⟩
      · cases found.symm.trans closed
      · cases found.symm.trans same
        cases asked
        rw [selected] at opened
        cases opened with
        | loaded _ => exact ⟨rfl, rfl⟩
        | refused failed => cases valid.symm.trans failed
    · rintro ⟨rfl, rfl⟩
      rw [ExceptT.run, refresh_eq, runs_act, id_eq, found, selected]
      exact runs_of_opened (.loaded valid)

/-- A change that the platform accepts ends like a refresh. -/
theorem keepsRun_editWorkflow {update : WorkflowUpdate} {run : DagResultId} (passes : checkUpdate update = .ok ())
    (found : s.workflow = some id) (refreshes : KeepsRun id run s [] refresh.run) :
    KeepsRun id run s [⟨.editWorkflow id update, .ok ()⟩] (editWorkflow update).run := by
  have same (log : List Inquiry) (value : Outcome Unit) (t : Store) :
      (editWorkflow update).run.Runs s ([⟨.editWorkflow id update, .ok ()⟩] ++ log) value t ↔
        refresh.run.Runs s ([] ++ log) value t := by
    rw [ExceptT.run, editWorkflow_eq, runs_act, id_eq, passes, found]
    refine runs_ask.trans ⟨?_, fun ran => ⟨.ok (), log, rfl, ran⟩⟩
    rintro ⟨answer, rest, asked, ran⟩
    cases asked
    exact ran
  refine ⟨fun log value t ran => refreshes.asks log value t ((same log value t).mp ran), fun snapshot valid among => ?_⟩
  obtain ⟨after, kept, ends⟩ := refreshes.keeps snapshot valid among
  exact ⟨after, kept, fun value t => (same _ value t).trans (ends value t)⟩

/-- Loading a workflow selects its preferred run, or else the newest. A session that waits for each operation keeps that
run when it loads the workflow again, be it on its own or after a change of settings. -/
theorem loading_selects_and_keeps :
    (∀ (s : Store) (snapshot : Snapshot) (preferred : Option DagResultId),
      snapshot.validate = .ok () → snapshot.dags.KeyedBy Dag.id →
        ∃ t, s.loadWorkflow snapshot preferred = (.ok (), t) ∧ ShowsInitial snapshot preferred t) ∧
    ∀ (calls : List Call) (log : List Inquiry) (s : Store) (run : DagResult),
      (performEach calls).Runs .empty log () s → s.selectedResult = some run →
        ∃ id, s.workflow = some id ∧ KeepsRun id run.id s [] refresh.run ∧
          ∀ update, checkUpdate update = .ok () →
            KeepsRun id run.id s [⟨.editWorkflow id update, .ok ()⟩] (editWorkflow update).run := by
  refine ⟨fun s snapshot preferred valid keyed => ?_, fun calls log s run ran selected => ?_⟩
  · exact ⟨_, loadWorkflow_of_valid valid, showsInitial_loaded s preferred valid keyed⟩
  · have resting := resting_of_session ran
    cases found : s.workflow with
    | none =>
      obtain ⟨index, _, there⟩ := Option.bind_eq_some_iff.mp selected
      rw [resting.opened found] at there
      cases there
    | some id =>
      have refreshes := keepsRun_refresh found selected
      exact ⟨id, rfl, refreshes, fun update passes => keepsRun_editWorkflow passes found refreshes⟩

/-- A workflow that ran once is open, and by the time it is loaded again it has run once more. The earlier run is still
selected, at the index it has moved to. -/
theorem loading_selects_and_keeps_earlier :
    let ranAgain : Snapshot :=
      { World.runOnce ⟨6⟩ ⟨5⟩ ⟨7⟩ with
        results := [{ id := ⟨7⟩, dag := ⟨5⟩, created := ⟨0⟩ }, { id := ⟨8⟩, dag := ⟨5⟩, created := ⟨1⟩ }] }
    ∃ log s run t, ranAgain.validate = .ok () ∧ ranAgain.dags.KeyedBy Dag.id ∧
      (∃ t, Store.empty.loadWorkflow ranAgain none = (.ok (), t) ∧ ShowsInitial ranAgain none t) ∧
      (performEach [.openWorkflow ⟨6⟩ none]).Runs .empty log () s ∧ s.selectedResult = some run ∧
      s.selectedIndex = some 0 ∧ refresh.run.Runs s [⟨.getWorkflow ⟨6⟩, .ok ranAgain⟩] (.ok ()) t ∧
      t.selectedIndex = some 1 ∧ t.selectedResult.map DagResult.id = some run.id := by
  intro ranAgain
  let once : DagResult := { id := ⟨7⟩, dag := ⟨5⟩, created := ⟨0⟩ }
  let s := (Store.empty.beginWorkflow ⟨6⟩).2.loaded (World.runOnce ⟨6⟩ ⟨5⟩ ⟨7⟩) none
  have valid : ranAgain.validate = .ok () := rfl
  have keyed : ranAgain.dags.KeyedBy Dag.id := by decide
  have opens : (performEach [.openWorkflow ⟨6⟩ none]).Runs .empty _ () s :=
    (runs_bind _ _).mpr ⟨_, .ok (), s, [], runs_of_opened (.loaded rfl), .done, rfl⟩
  obtain ⟨loads, keeps⟩ := loading_selects_and_keeps
  obtain ⟨id, found, refreshes, _⟩ := keeps _ _ _ once opens rfl
  cases found
  obtain ⟨after, kept, ends⟩ := refreshes.keeps ranAgain valid ⟨once, .head _, rfl⟩
  have refreshed : refresh.run.Runs s [⟨.getWorkflow ⟨6⟩, .ok ranAgain⟩] (.ok ()) after := (ends _ _).mpr ⟨rfl, rfl⟩
  refine ⟨_, s, once, after, valid, keyed, loads .empty ranAgain none valid keyed, opens, rfl, rfl, refreshed, ?_, kept⟩
  rcases refreshed_of_runs refreshed with ⟨closed, _⟩ | ⟨_, _, same, asked, opened⟩
  · cases closed
  · cases same
    cases opened with
    | loaded _ =>
      cases asked
      rfl

end DagConsole.Session

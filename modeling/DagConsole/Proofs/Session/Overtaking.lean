import DagConsole.Proofs.Session.Interleaving
import DagConsole.Session.Race

/-! What an operation on the open workflow still does to the store after another workflow was opened, or the session
closed, while it was under way. -/
namespace DagConsole.Session

open Relation

/-! ### What is left to do -/

/-- A deletion that has read which workflow is open. -/
def deletion (id : WorkflowId) : Operation (Outcome Unit) :=
  .ask (.deleteWorkflow id) fun
    | .ok _ => close
    | .error e => .done (.error e)

/-- A change of settings that has read which workflow is open. -/
def edition (update : WorkflowUpdate) (id : WorkflowId) : Operation (Outcome Unit) :=
  .ask (.editWorkflow id update) fun
    | .ok _ => refresh
    | .error e => .done (.error e)

/-- A load whose answer is there. -/
def delivery (epoch : Epoch) (answer : Outcome Snapshot) (preferred : Option DagResultId) : Operation (Outcome Unit) :=
  .act (fun s => (s.applyWorkflow epoch answer preferred).2)
    fun s => .done (discard (s.applyWorkflow epoch answer preferred).1)

/-- A load that has begun. -/
def awaiting (epoch : Epoch) (id : WorkflowId) (preferred : Option DagResultId) : Operation (Outcome Unit) :=
  .ask (.getWorkflow id) fun answer => delivery epoch answer preferred

/-- A layout whose answer is there. -/
def placement (epoch : Epoch) (answer : Outcome Layout) : Operation (Outcome Unit) :=
  .act (fun s => (s.applyLayout epoch answer).2) fun s => .done (match answer with
    | .error e => if (s.applyLayout epoch answer).1 then .error (layoutFailure e) else .ok ()
    | .ok _ => .ok ())

/-- A layout that has been asked for. -/
def arranging (epoch : Epoch) (dag : Dag) : Operation (Outcome Unit) :=
  .ask (.getPositions (.ofDag dag)) fun answer => placement epoch answer

theorem resolveLayout_eq : resolveLayout = Operation.act (fun s => s.beginLayout.2) fun s =>
    match s.beginLayout.1 with
    | .ok (epoch, dag) => arranging epoch dag
    | .error e => .done (.error e) := by
  refine congrArg (Operation.act _) (funext fun s => ?_)
  change Operation.bind (.done s.beginLayout.1) _ = _
  cases s.beginLayout.1 with
  | error e => rfl
  | ok begun =>
    refine congrArg (Operation.ask (.getPositions (.ofDag begun.2))) (funext fun answer => ?_)
    refine congrArg (Operation.act _) (funext fun s => ?_)
    cases answer with
    | ok _ => rfl
    | error e =>
      change (if (s.applyLayout begun.1 (.error e)).1 then throw (layoutFailure e) else pure () : Action Unit) = _
      dsimp only
      split <;> rfl

theorem close_eq : (close : Operation (Outcome Unit)) = .act Store.teardown fun _ => .done (.ok ()) := rfl

theorem openWorkflow_eq (id : WorkflowId) (preferred : Option DagResultId) :
    openWorkflow id preferred =
      Operation.act (fun s => (s.beginWorkflow id).2) fun s => awaiting (s.beginWorkflow id).1 id preferred := by
  have delivered (epoch : Epoch) (answer : Outcome Snapshot) :
      (discard (Action.attempt fun s => s.applyWorkflow epoch answer preferred) : Action Unit) =
        delivery epoch answer preferred := by
    refine congrArg (Operation.act _) (funext fun s => ?_)
    change Operation.bind (.done (s.applyWorkflow epoch answer preferred).1) _ =
      .done (discard (s.applyWorkflow epoch answer preferred).1)
    cases (s.applyWorkflow epoch answer preferred).1 <;> rfl
  refine congrArg (Operation.act _) (funext fun s => ?_)
  exact congrArg (Operation.ask _) (funext (delivered _))

theorem refresh_eq : refresh = Operation.act id fun s =>
    match s.workflow with
    | some id => openWorkflow id (s.selectedResult.map DagResult.id)
    | none => .done (.error noWorkflow) := by
  refine congrArg (Operation.act _) (funext fun s => ?_)
  simp only [requireWorkflow]
  cases s.workflow <;> rfl

theorem deleteWorkflow_eq : deleteWorkflow = Operation.act id fun s =>
    match s.workflow with
    | some id => deletion id
    | none => .done (.error noWorkflow) := by
  have asked (id : WorkflowId) : (do Action.ask (.deleteWorkflow id); close : Action Unit) = deletion id :=
    congrArg (Operation.ask _) (funext fun answer => by cases answer <;> rfl)
  refine congrArg (Operation.act _) (funext fun s => ?_)
  simp only [requireWorkflow, ← asked]
  cases s.workflow <;> rfl

theorem editWorkflow_eq (update : WorkflowUpdate) : editWorkflow update = Operation.act id fun s =>
    match checkUpdate update, s.workflow with
    | .ok _, some id => edition update id
    | .ok _, none => .done (.error noWorkflow)
    | .error e, _ => .done (.error e) := by
  have asked (id : WorkflowId) : (do Action.ask (.editWorkflow id update); refresh : Action Unit) = edition update id :=
    congrArg (Operation.ask _) (funext fun answer => by cases answer <;> rfl)
  refine congrArg (Operation.act _) (funext fun s => ?_)
  simp only [requireWorkflow, ← asked]
  cases checkUpdate update <;> cases s.workflow <;> rfl

/-! ### The stages of an operation that has read which workflow is open -/

/-- The operations that start afresh, whatever is open. -/
def Call.isFresh : Call → Bool
  | .openWorkflow _ _ | .close => true
  | _ => false

/-- They start a new epoch at once. -/
theorem Call.body_of_isFresh (call : Call) (fresh : call.isFresh) :
    ∃ change next, call.body = Operation.act change next ∧ ∀ s, (change s).epoch = s.epoch.next := by
  cases call with
  | openWorkflow id preferred => exact ⟨_, _, openWorkflow_eq id preferred, fun _ => rfl⟩
  | close => exact ⟨_, _, close_eq, fun _ => rfl⟩
  | _ => cases fresh

/-- How far a refresh, a change of settings or a deletion has come since it read that a workflow is open, where the
loads that it began were begun in some epochs. -/
inductive Stage (id : WorkflowId) (begun : Epoch → Prop) : Thread → Prop where
  | finished {call : Call} (old : call.isFresh = false) (value : Outcome Unit) : Stage id begun ⟨call, .done value⟩
  | deleting (other : WorkflowId) : Stage id begun ⟨.deleteWorkflow, deletion other⟩
  | closing : Stage id begun ⟨.deleteWorkflow, close⟩
  | editing (update : WorkflowUpdate) (other : WorkflowId) :
      Stage id begun ⟨.editWorkflow update, edition update other⟩
  | edited (update : WorkflowUpdate) : Stage id begun ⟨.editWorkflow update, refresh⟩
  | reloading (update : WorkflowUpdate) (other : WorkflowId) (preferred : Option DagResultId) :
      Stage id begun ⟨.editWorkflow update, openWorkflow other preferred⟩
  | reopening (preferred : Option DagResultId) : Stage id begun ⟨.refresh, openWorkflow id preferred⟩
  | awaiting {call : Call} (old : call.isFresh = false) {epoch : Epoch} (since : begun epoch) (other : WorkflowId)
      (preferred : Option DagResultId) : Stage id begun ⟨call, awaiting epoch other preferred⟩
  | delivering {call : Call} (old : call.isFresh = false) {epoch : Epoch} (since : begun epoch)
      (answer : Outcome Snapshot) (preferred : Option DagResultId) :
      Stage id begun ⟨call, delivery epoch answer preferred⟩

/-- The steps that look neither at the epoch nor at which workflow is open: to close after a deletion, to reopen after
a refresh has read what to reopen, and to reload after a change of settings. -/
inductive Unguarded (id : WorkflowId) : Thread → Store → Store → Prop where
  | closes (s : Store) : Unguarded id ⟨.deleteWorkflow, close⟩ s s.teardown
  | reopens (preferred : Option DagResultId) (s : Store) :
      Unguarded id ⟨.refresh, openWorkflow id preferred⟩ s (s.beginWorkflow id).2
  | reloads (update : WorkflowUpdate) (other : WorkflowId) (preferred : Option DagResultId) (s : Store) :
      Unguarded id ⟨.editWorkflow update, openWorkflow other preferred⟩ s (s.beginWorkflow other).2

variable {id : WorkflowId} {begun later : Epoch → Prop} {thread : Thread} {call : Call}
  {rest left : Operation (Outcome Unit)} {s t : Store}

/-- Each of them starts a new epoch. -/
theorem Unguarded.epoch (unguarded : Unguarded id thread s t) : t.epoch = s.epoch.next := by
  cases unguarded <;> rfl

theorem Unguarded.ne (unguarded : Unguarded id thread s t) : t ≠ s := by
  intro same
  have moved := congrArg (fun epoch : Epoch => epoch.since s.epoch) unguarded.epoch
  simp [same] at moved

theorem Stage.mono (implied : ∀ epoch, begun epoch → later epoch) (stage : Stage id begun thread) :
    Stage id later thread := by
  cases stage with
  | finished old value => exact .finished old value
  | deleting other => exact .deleting other
  | closing => exact .closing
  | editing update other => exact .editing update other
  | edited update => exact .edited update
  | reloading update other preferred => exact .reloading update other preferred
  | reopening preferred => exact .reopening preferred
  | awaiting old since other preferred => exact .awaiting old (implied _ since) other preferred
  | delivering old since answer preferred => exact .delivering old (implied _ since) answer preferred

theorem Stage.old (stage : Stage id begun thread) : thread.call.isFresh = false := by
  cases stage with
  | finished old _ | awaiting old _ _ _ | delivering old _ _ _ => exact old
  | deleting _ | closing | editing _ _ | edited _ | reloading _ _ _ | reopening _ => rfl

/-- A step leaves the store alone, writes an answer while the epoch of its request lasts, or is unguarded. -/
theorem Stage.step (stage : Stage id begun ⟨call, rest⟩) (step : rest.Step s left t) :
    Stage id begun ⟨call, left⟩ ∧ (t = s ∨ begun s.epoch) ∨
      Unguarded id ⟨call, rest⟩ s t ∧ Stage id (fun epoch => begun epoch ∨ epoch = t.epoch) ⟨call, left⟩ := by
  cases stage with
  | finished _ _ => cases step
  | deleting other =>
    cases step with
    | answered _ answer =>
      left
      cases answer with
      | ok _ => exact ⟨.closing, .inl rfl⟩
      | error e => exact ⟨.finished rfl _, .inl rfl⟩
  | closing =>
    obtain ⟨rfl, rfl⟩ := (close_eq ▸ step).of_act
    exact .inr ⟨.closes s, .finished rfl _⟩
  | editing update other =>
    cases step with
    | answered _ answer =>
      left
      cases answer with
      | ok _ => exact ⟨.edited update, .inl rfl⟩
      | error e => exact ⟨.finished rfl _, .inl rfl⟩
  | edited update =>
    rw [refresh_eq] at step
    obtain ⟨rfl, rfl⟩ := step.of_act
    refine .inl ⟨?_, .inl rfl⟩
    split
    · exact .reloading update _ _
    · exact .finished rfl _
  | reloading update other preferred =>
    obtain ⟨rfl, rfl⟩ := (openWorkflow_eq other preferred ▸ step).of_act
    exact .inr ⟨.reloads update other preferred s, .awaiting rfl (.inr rfl) other preferred⟩
  | reopening preferred =>
    obtain ⟨rfl, rfl⟩ := (openWorkflow_eq id preferred ▸ step).of_act
    exact .inr ⟨.reopens preferred s, .awaiting rfl (.inr rfl) id preferred⟩
  | awaiting old since other preferred =>
    cases step with
    | answered _ answer => exact .inl ⟨.delivering old since answer preferred, .inl rfl⟩
  | @delivering _ old epoch since answer preferred =>
    obtain ⟨rfl, rfl⟩ := step.of_act
    refine .inl ⟨.finished old _, ?_⟩
    by_cases current : s.epoch = epoch
    · exact .inr (current ▸ since)
    · exact .inl (congrArg Prod.snd (Store.applyWorkflow_of_stale current))

/-! ### Being overtaken -/

namespace World

/-- The operations that look up which workflow is open in their next step. -/
inductive ReadsOpen : Thread → Prop where
  | refresh : ReadsOpen ⟨.refresh, Session.refresh⟩
  | editWorkflow (update : WorkflowUpdate) : ReadsOpen ⟨.editWorkflow update, Session.editWorkflow update⟩
  | edited (update : WorkflowUpdate) : ReadsOpen ⟨.editWorkflow update, Session.refresh⟩
  | deleteWorkflow : ReadsOpen ⟨.deleteWorkflow, Session.deleteWorkflow⟩

/-- The operation of some index finds that a workflow is open. -/
structure Reads (i : Nat) (id : WorkflowId) (w v : World) : Prop where
  thread : ∃ thread, w.threads[i]? = some thread ∧ ReadsOpen thread
  found : w.store.workflow = some id
  moves : Moves i w v

/-- Some workflow begins to be opened, or the session is closed. -/
def Overtakes (w v : World) : Prop :=
  ∃ (j : Nat) (call : Call), call.isFresh ∧ w.threads[j]? = some ⟨call, call.body⟩ ∧ Moves j w v

/-- Anything may happen, but the operation of some index does not change the store. -/
abbrev Quiet (i : Nat) : World → World → Prop :=
  ReflTransGen fun w v => Next w v ∧ ((∃ j, j ≠ i ∧ Moves j w v) ∨ v.store = w.store)

/-- The operation of some index is at some stage, with its loads begun in some epochs. -/
def At (i : Nat) (id : WorkflowId) (begun : Epoch → Prop) (w : World) : Prop :=
  ∃ thread, w.threads[i]? = some thread ∧ Stage id begun thread

variable {i : Nat} {id : WorkflowId} {begun : Epoch → Prop} {u v w : World}

theorem At.mono {later : Epoch → Prop} (here : At i id begun w) (implied : ∀ epoch, begun epoch → later epoch) :
    At i id later w := by
  obtain ⟨thread, running, stage⟩ := here
  exact ⟨thread, running, stage.mono implied⟩

theorem at_of_reads (reads : Reads i id w v) : At i id (fun _ => False) v := by
  obtain ⟨⟨⟨call, rest⟩, running, reader⟩, found, moves⟩ := reads
  obtain ⟨left, step, there⟩ := moves.step_of_running running
  refine ⟨_, there, ?_⟩
  cases reader with
  | refresh =>
    obtain ⟨_, rfl⟩ := (refresh_eq ▸ step).of_act
    rw [found]
    exact .reopening _
  | editWorkflow update =>
    obtain ⟨_, rfl⟩ := (editWorkflow_eq update ▸ step).of_act
    rw [found]
    cases checkUpdate update with
    | ok _ => exact .editing update id
    | error e => exact .finished rfl _
  | edited update =>
    obtain ⟨_, rfl⟩ := (refresh_eq ▸ step).of_act
    rw [found]
    exact .reloading update id _
  | deleteWorkflow =>
    obtain ⟨_, rfl⟩ := (deleteWorkflow_eq ▸ step).of_act
    rw [found]
    exact .deleting id

/-- The loads under way after any step were begun before it or with it. -/
theorem At.next (here : At i id begun w) (next : Next w v) :
    At i id (fun epoch => begun epoch ∨ epoch = v.store.epoch) v := by
  obtain ⟨⟨call, rest⟩, running, stage⟩ := here
  rcases next.thread running with kept | ⟨left, step, there⟩
  · exact ⟨_, kept, stage.mono fun _ => .inl⟩
  · refine ⟨_, there, ?_⟩
    rcases stage.step step with ⟨after, _⟩ | ⟨_, after⟩
    · exact after.mono fun _ => .inl
    · exact after

theorem At.of_other (here : At i id begun w) {j : Nat} (apart : j ≠ i) (moves : Moves j w v) : At i id begun v := by
  obtain ⟨thread, running, stage⟩ := here
  cases moves
  exact ⟨thread, by rwa [List.getElem?_set_ne apart], stage⟩

/-- While it does not change the store, an operation begins no loads. -/
theorem At.quiet (here : At i id begun w) (quiet : Quiet i w v) : At i id begun v := by
  induction quiet with
  | refl => exact here
  | tail _ next ih =>
    obtain ⟨next, ⟨j, apart, moves⟩ | same⟩ := next
    · exact ih.of_other apart moves
    · obtain ⟨⟨call, rest⟩, running, stage⟩ := ih
      rcases next.thread running with kept | ⟨left, step, there⟩
      · exact ⟨_, kept, stage⟩
      · refine ⟨_, there, ?_⟩
        rcases stage.step step with ⟨after, _⟩ | ⟨unguarded, _⟩
        · exact after
        · exact absurd same unguarded.ne

/-- The loads under way were begun in the epochs since the operation found that a workflow is open. -/
theorem at_of_runs (reads : Reads i id u w) (runs : Runs w v) :
    At i id (Epoch.Within (v.epochs - w.epochs) w.store.epoch) v := by
  induction runs with
  | refl => exact (at_of_reads reads).mono fun _ => False.elim
  | @tail before after runs next ih =>
    refine (ih.next next).mono ?_
    rintro epoch (earlier | rfl)
    · exact earlier.mono (Nat.sub_le_sub_right next.later.1 _)
    · exact ⟨_, Nat.le_refl _, (later_of_runs (runs.tail next)).2⟩

/-- To open or to close starts a new epoch. -/
theorem Overtakes.epochs (overtakes : Overtakes w v) : v.epochs = w.epochs + 1 := by
  obtain ⟨j, call, fresh, running, moves⟩ := overtakes
  obtain ⟨left, step, _⟩ := moves.step_of_running running
  obtain ⟨change, next, body, restarts⟩ := call.body_of_isFresh fresh
  obtain ⟨changed, _⟩ := (body ▸ step).of_act
  rw [moves.epochs, changed, restarts, Epoch.since_next]

/-- It is done by another operation. -/
theorem Overtakes.at (overtakes : Overtakes w v) (here : At i id begun w) : At i id begun v := by
  obtain ⟨j, call, fresh, there, moves⟩ := overtakes
  refine here.of_other ?_ moves
  rintro rfl
  obtain ⟨thread, running, stage⟩ := here
  cases running.symm.trans there
  cases fresh.symm.trans stage.old

theorem Overtakes.next (overtakes : Overtakes w v) : Next w v := by
  obtain ⟨_, _, _, _, moves⟩ := overtakes
  exact .moves moves

theorem Quiet.runs (quiet : Quiet i w v) : Runs w v := ReflTransGen.mono (fun _ _ next => next.1) _ _ quiet

section Progress

variable {call : Call} {preferred : Option DagResultId}

theorem begins (waiting : w.threads[i]? = some ⟨call, Session.openWorkflow id preferred⟩) :
    ∃ v, Moves i w v ∧ v.store = (w.store.beginWorkflow id).2 ∧
      v.threads[i]? = some ⟨call, awaiting v.store.epoch id preferred⟩ ∧
      ∀ j, i ≠ j → v.threads[j]? = w.threads[j]? := by
  have step : (Session.openWorkflow id preferred).Step w.store
      (awaiting (w.store.beginWorkflow id).1 id preferred) (w.store.beginWorkflow id).2 :=
    openWorkflow_eq id preferred ▸ .act
  obtain ⟨v, moves, begun, there, others⟩ := moves_of_step waiting step
  refine ⟨v, moves, begun, ?_, others⟩
  rw [there, begun]
  rfl

/-- A load that has begun can go on to its end, with any answer. -/
theorem delivers {epoch : Epoch} (running : w.threads[i]? = some ⟨call, awaiting epoch id preferred⟩)
    (answer : Outcome Snapshot) :
    ∃ v, ReflTransGen (Moves i) w v ∧ v.store = (w.store.applyWorkflow epoch answer preferred).2 ∧
      v.threads[i]? = some ⟨call, .done (discard (w.store.applyWorkflow epoch answer preferred).1)⟩ ∧
      v.epochs = w.epochs + v.store.epoch.since w.store.epoch ∧ ∀ j, i ≠ j → v.threads[j]? = w.threads[j]? := by
  have received : (awaiting epoch id preferred).Step w.store (delivery epoch answer preferred) w.store :=
    .answered (.getWorkflow id) answer
  obtain ⟨u, asked, same, there, others⟩ := moves_of_step running received
  obtain ⟨v, moves, loaded, finished, rest⟩ := moves_of_step there .act
  have elsewhere (j : Nat) (apart : i ≠ j) : v.threads[j]? = w.threads[j]? :=
    (rest j apart).trans (others j apart)
  refine ⟨v, .tail (.single asked) moves, by rw [loaded, same], by rw [finished, same], ?_, elsewhere⟩
  rw [moves.epochs, asked.epochs, same, Epoch.since_self, Nat.add_zero]

theorem looks (running : w.threads[i]? = some ⟨.deleteWorkflow, Session.deleteWorkflow⟩)
    (found : w.store.workflow = some id) :
    ∃ v, Reads i id w v ∧ v.store = w.store ∧ v.threads[i]? = some ⟨.deleteWorkflow, deletion id⟩ ∧
      ∀ j, i ≠ j → v.threads[j]? = w.threads[j]? := by
  have step : Session.deleteWorkflow.Step w.store (deletion id) w.store := by
    have act : (Operation.act _ _).Step w.store _ w.store := deleteWorkflow_eq ▸ Operation.Step.act
    rwa [found] at act
  obtain ⟨v, moves, same, there, others⟩ := moves_of_step running step
  exact ⟨v, ⟨⟨_, running, .deleteWorkflow⟩, found, moves⟩, same, there, others⟩

/-- A deletion that succeeds closes what is open. -/
theorem deletes (running : w.threads[i]? = some ⟨.deleteWorkflow, deletion id⟩) :
    ∃ u v, Moves i w u ∧ u.store = w.store ∧ Moves i u v ∧ v.store = w.store.teardown := by
  have answered : (deletion id).Step w.store Session.close w.store := .answered (.deleteWorkflow id) (.ok ())
  obtain ⟨u, hears, same, there, _⟩ := moves_of_step running answered
  have closes : (Session.close : Operation (Outcome Unit)).Step u.store (.done (.ok ())) u.store.teardown := .act
  obtain ⟨v, moves, closed, _, _⟩ := moves_of_step there closes
  exact ⟨u, v, hears, same, moves, by rw [closed, same]⟩

/-- Opened with nothing else going on, a workflow is loaded with any answer. -/
theorem opens (w : World) (id : WorkflowId) (preferred : Option DagResultId) (answer : Outcome Snapshot) :
    ∃ v, Runs w v ∧ v.store =
      ((w.store.beginWorkflow id).2.applyWorkflow (w.store.beginWorkflow id).1 answer preferred).2 := by
  let opening : Thread := ⟨.openWorkflow id preferred, Session.openWorkflow id preferred⟩
  let w₀ : World := { w with threads := w.threads ++ [opening] }
  have waiting : w₀.threads[w.threads.length]? = some opening := by simp [w₀]
  obtain ⟨w₁, started, begun, awaits, _⟩ := begins waiting
  obtain ⟨v, delivered, loaded, _⟩ := delivers awaits answer
  have ended : Runs w₁ v := ReflTransGen.mono (fun _ _ => .moves) _ _ delivered
  refine ⟨v, .head (.starts (.openWorkflow id preferred)) (.head (.moves started) ended), ?_⟩
  rw [loaded, begun]
  rfl

/-- Whatever is opened while a deletion is under way, the deletion ends with closing it. -/
theorem deletion_closes (found : w.store.workflow = some id) (other : WorkflowId) (preferred : Option DagResultId)
    (answer : Outcome Snapshot) : ∃ i w₀ w₁ w₂ w₃ w₄, Runs w w₀ ∧ Reads i id w₀ w₁ ∧ Overtakes w₁ w₂ ∧
      w₂.store = (w.store.beginWorkflow other).2 ∧ Quiet i w₂ w₃ ∧
      w₃.store = (w₂.store.applyWorkflow w₂.store.epoch answer preferred).2 ∧
      w₃.epochs = w₁.epochs + 1 + w₃.store.epoch.since w₂.store.epoch ∧
      Moves i w₃ w₄ ∧ w₄.store = w₃.store.teardown := by
  let i := w.threads.length
  let opening : Thread := ⟨.openWorkflow other preferred, Session.openWorkflow other preferred⟩
  let w₀ : World := { w with threads := w.threads ++ [⟨.deleteWorkflow, Session.deleteWorkflow⟩] ++ [opening] }
  have started : Runs w w₀ := .tail (.single (.starts .deleteWorkflow)) (.starts (.openWorkflow other preferred))
  have running : w₀.threads[i]? = some ⟨.deleteWorkflow, Session.deleteWorkflow⟩ := by simp [w₀, i]
  have waiting : w₀.threads[i + 1]? = some opening := by simp [w₀, i]
  have apart : i + 1 ≠ i := Nat.succ_ne_self i
  -- The deletion reads, the other workflow is loaded, and only then the deletion hears from the platform.
  obtain ⟨w₁, reads, same, asking, others₁⟩ := looks running found
  have still := (others₁ (i + 1) apart.symm).trans waiting
  obtain ⟨w₂, starts, begun, awaits, others₂⟩ := begins still
  obtain ⟨u, delivered, loaded, _, epochs, others₃⟩ := delivers awaits answer
  obtain ⟨w₃, w₄, hears, kept, closes, closed⟩ :=
    deletes ((others₃ i apart).trans ((others₂ i apart).trans asking))
  have overtakes : Overtakes w₁ w₂ := ⟨i + 1, .openWorkflow other preferred, rfl, still, starts⟩
  have quiet : Quiet i w₂ u :=
    ReflTransGen.mono (fun _ _ moves => ⟨.moves moves, .inl ⟨i + 1, apart, moves⟩⟩) _ _ delivered
  refine ⟨i, w₀, w₁, w₂, w₃, w₄, started, reads, overtakes, ?_, ?_, ?_, ?_, closes, ?_⟩
  · rw [begun, same]
  · exact quiet.tail ⟨.moves hears, .inr kept⟩
  · rw [kept, loaded]
  · rw [hears.epochs, kept, Epoch.since_self, Nat.add_zero, epochs, overtakes.epochs]
  · rw [closed, kept]

end Progress

/-- A workflow with one version, which has run once. -/
def runOnce (id : WorkflowId) (version : DagId) (run : DagResultId) : Snapshot where
  dags := .ofList [(version, { id := version, workflow := id })]
  results := [{ id := run, dag := version, created := ⟨0⟩ }]

/-- Once a refresh, a change of settings or a deletion that has found a workflow open was overtaken by the opening of
another one or by a close, the first of its steps that changes the store is one that looks at nothing before it does.
The answer to a load that it has begun is dropped. -/
theorem disturbs_iff_unguarded {w₀ w₁ w₂ w₃ w₄ w₅ : World} (reads : Reads i id w₀ w₁) (before : Runs w₁ w₂)
    (overtakes : Overtakes w₂ w₃) (quiet : Quiet i w₃ w₄) (moves : Moves i w₄ w₅)
    (bounded : w₄.epochs < w₁.epochs + UInt64.size) :
    w₅.store ≠ w₄.store ↔ ∃ thread, w₄.threads[i]? = some thread ∧ Unguarded id thread w₄.store w₅.store := by
  have since : Runs w₁ w₄ := (before.tail overtakes.next).trans quiet.runs
  obtain ⟨⟨call, rest⟩, running, stage⟩ := (overtakes.at (at_of_runs reads before)).quiet quiet
  obtain ⟨_, current⟩ := later_of_runs since
  have past : ¬ Epoch.Within (w₂.epochs - w₁.epochs) w₁.store.epoch w₄.store.epoch := by
    intro within
    have started := overtakes.epochs
    have first := (later_of_runs before).1
    have last := (later_of_runs quiet.runs).1
    exact within.not_later (by omega) (by omega) current
  obtain ⟨left, step, _⟩ := moves.step_of_running running
  constructor
  · intro changed
    rcases stage.step step with ⟨_, same | stale⟩ | ⟨unguarded, _⟩
    · exact absurd same changed
    · exact absurd stale past
    · exact ⟨_, running, unguarded⟩
  · rintro ⟨_, _, unguarded⟩
    exact unguarded.ne

/-- A deletion is overtaken by the opening of another workflow, and its last step is one of those. -/
theorem disturbs_deleting : ∃ i w₀ w₁ w₂ w₃ w₄, Reads i ⟨6⟩ w₀ w₁ ∧ Overtakes w₁ w₂ ∧ Quiet i w₂ w₃ ∧
    Moves i w₃ w₄ ∧ w₃.epochs < w₁.epochs + UInt64.size ∧
    ∃ thread, w₃.threads[i]? = some thread ∧ Unguarded ⟨6⟩ thread w₃.store w₄.store := by
  obtain ⟨w, _, loaded⟩ := opens {} ⟨6⟩ none (.ok (runOnce ⟨6⟩ ⟨5⟩ ⟨7⟩))
  have found : w.store.workflow = some ⟨6⟩ := by rw [loaded]; rfl
  obtain ⟨i, w₀, w₁, w₂, w₃, w₄, _, reads, overtakes, begun, quiet, delivered, epochs, closes, closed⟩ :=
    deletion_closes found ⟨8⟩ none (.ok (runOnce ⟨8⟩ ⟨9⟩ ⟨10⟩))
  rw [begun, loaded] at delivered
  have bounded : w₃.epochs < w₁.epochs + UInt64.size := by
    have passed : w₃.store.epoch.since w₂.store.epoch = 2 := by rw [delivered, begun, loaded]; rfl
    rw [epochs, passed, Nat.add_assoc]
    exact Nat.add_lt_add_left (by decide) _
  have changed : w₄.store ≠ w₃.store := by
    intro same
    have workflow := congrArg Store.workflow same
    rw [closed, delivered] at workflow
    cases workflow
  exact ⟨i, w₀, w₁, w₂, w₃, w₄, reads, overtakes, quiet, closes, bounded,
    (disturbs_iff_unguarded reads .refl overtakes quiet closes bounded).mp changed⟩

/-- While a workflow is being deleted another one is opened, and it is closed again when the deletion is done. -/
theorem deletion_closes_other : ∃ i w₀ w₁ w₂ w₃ w₄, Runs {} w₀ ∧ Reads i ⟨6⟩ w₀ w₁ ∧ Overtakes w₁ w₂ ∧
    w₂.store.workflow = some ⟨8⟩ ∧ Quiet i w₂ w₃ ∧ w₃.store.workflow = some ⟨8⟩ ∧
    w₃.store.selectedResult.map DagResult.id = some ⟨10⟩ ∧ Moves i w₃ w₄ ∧ w₄.store.workflow = none := by
  obtain ⟨w, opened, loaded⟩ := opens {} ⟨6⟩ none (.ok (runOnce ⟨6⟩ ⟨5⟩ ⟨7⟩))
  have found : w.store.workflow = some ⟨6⟩ := by rw [loaded]; rfl
  obtain ⟨i, w₀, w₁, w₂, w₃, w₄, started, reads, overtakes, begun, quiet, delivered, _, closes, closed⟩ :=
    deletion_closes found ⟨8⟩ none (.ok (runOnce ⟨8⟩ ⟨9⟩ ⟨10⟩))
  rw [begun, loaded] at delivered
  refine ⟨i, w₀, w₁, w₂, w₃, w₄, opened.trans started, reads, overtakes, ?_, quiet, ?_, ?_, closes, ?_⟩
  · rw [begun]; rfl
  · rw [delivered]; rfl
  · rw [delivered]; rfl
  · rw [closed]; rfl

/-- So it comes out on a clock too, where the platform takes 50 ms for every answer and the other workflow is opened
after 10 ms. -/
example :
    let platform : CannedPlatform :=
      { workflows := .ofList [(⟨6⟩, runOnce ⟨6⟩ ⟨5⟩ ⟨7⟩), (⟨8⟩, runOnce ⟨8⟩ ⟨9⟩ ⟨10⟩)], delay := some 50 }
    let opened := (Operation.run CannedPlatform.platform (Session.openWorkflow ⟨6⟩ none) .empty platform).2.1
    (Race.run (.operation Session.deleteWorkflow) (.operation (Session.openWorkflow ⟨8⟩ none)) 10
      ⟨opened, platform⟩).map (fun outcome => (outcome.1, outcome.2.store.workflow)) =
        some ((.ok (), .ok ()), none) := rfl

end World

end DagConsole.Session

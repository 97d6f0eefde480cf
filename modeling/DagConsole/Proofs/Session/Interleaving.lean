import DagConsole.Proofs.Store.Step
import DagConsole.Session.Basic
import Mathlib.Logic.Relation

/-! Operations of a session that are under way at once. Each step on the store is atomic, an answer may be anything and
may come at any time, and between two steps of one operation others may take theirs or be started. -/
namespace DagConsole

open Relation

/-- The fetch that a reply answers. -/
def Reply.fetch : Reply → NodeFetch
  | .artifact ticket id _ => .artifact ticket id
  | .operator ticket id _ => .operator ticket id

namespace Operation

variable {α : Type}

/-- One step of an operation, with the store before and after it. Answers to fetches made together are written one by
one, in the order in which they come. -/
inductive Step : Operation α → Store → Operation α → Store → Prop where
  | act {change : Store → Store} {next : Store → Operation α} {s : Store} :
      Step (.act change next) s (next s) (change s)
  | answered (request : Request) (answer : request.Answer) {next : request.Answer → Operation α} {s : Store} :
      Step (.ask request next) s (next answer) s
  | written {fetches others : List NodeFetch} {next : Nat → Operation α} {s : Store} (reply : Reply)
      (awaited : fetches.Perm (reply.fetch :: others)) :
      Step (.fetchAll fetches next) s
        (.fetchAll others fun count => next (count + (s.applyReply reply).1.toNat)) (s.applyReply reply).2
  | collected {next : Nat → Operation α} {s : Store} : Step (.fetchAll [] next) s (next 0) s

theorem Step.of_act {change : Store → Store} {next : Store → Operation α} {s t : Store} {left : Operation α}
    (step : (Operation.act change next).Step s left t) : t = change s ∧ left = next s := by
  cases step
  exact ⟨rfl, rfl⟩

/-- Steps of an operation without any of others between them. -/
abbrev Steps (op : Operation α) (s : Store) (rest : Operation α) (t : Store) : Prop :=
  ReflTransGen (fun before after : Operation α × Store => Step before.1 before.2 after.1 after.2) (op, s) (rest, t)

theorem steps_fetchAll {σ : Type} (p : Platform σ) (fetches : List NodeFetch) (next : Nat → Operation α)
    (s : Store) (x : σ) :
    Steps (.fetchAll fetches next) s (next (s.applyReplies (p.replies x fetches).1).1)
      (s.applyReplies (p.replies x fetches).1).2 := by
  induction fetches generalizing next s x with
  | nil => exact .single .collected
  | cons fetch rest ih =>
    have own : (p.reply x fetch).1.fetch = fetch := by cases fetch <;> rfl
    have written : Step (.fetchAll (fetch :: rest) next) s _ _ :=
      .written (p.reply x fetch).1 (by rw [own])
    exact .head written
      (ih (fun count => next (count + (s.applyReply (p.reply x fetch).1).1.toNat))
        (s.applyReply (p.reply x fetch).1).2 (p.reply x fetch).2)

/-- Run alone against a platform, an operation takes steps of its own only. -/
theorem steps_run {σ : Type} (p : Platform σ) (op : Operation α) (s : Store) (x : σ) :
    Steps op s (.done (op.run p s x).1) (op.run p s x).2.1 := by
  induction op generalizing s x with
  | done value => exact .refl
  | act change next ih => exact .head .act (ih s (change s) x)
  | ask request next ih =>
    exact .head (.answered request (p.answer request x).1) (ih (p.answer request x).1 s (p.answer request x).2)
  | fetchAll fetches next ih =>
    exact (steps_fetchAll p fetches next s x).trans (ih _ _ (p.replies x fetches).2)

end Operation

namespace Session

/-- What can be asked of a session; results other than failures are not looked at here. -/
inductive Call where
  | openWorkflow (id : WorkflowId) (preferred : Option DagResultId)
  | refresh
  | selectResult (index : Nat)
  | resolveLayout
  | clickNode (id : NodeId)
  | clickPane
  | fetchNodeResults (ids : List NodeId)
  | fetchAnnotations
  | triggerRun (parameters : RunParameters)
  | editWorkflow (update : WorkflowUpdate)
  | deleteWorkflow
  | close

def Call.body : Call → Action Unit
  | .openWorkflow id preferred => Session.openWorkflow id preferred
  | .refresh => Session.refresh
  | .selectResult index => Session.selectResult index
  | .resolveLayout => Session.resolveLayout
  | .clickNode id => discard (Session.clickNode id)
  | .clickPane => Session.clickPane
  | .fetchNodeResults ids => discard (Session.fetchNodeResults ids)
  | .fetchAnnotations => discard Session.fetchAnnotations
  | .triggerRun parameters => Session.triggerRun parameters
  | .editWorkflow update => Session.editWorkflow update
  | .deleteWorkflow => Session.deleteWorkflow
  | .close => Session.close

/-- An operation under way: what was asked for, and what is left to do. -/
structure Thread where
  call : Call
  rest : Operation (Outcome Unit)

/-- A session with the operations under way, in the order in which they were started. -/
structure World where
  store : Store := .empty
  threads : List Thread := []
  /-- How many epochs have begun. -/
  epochs : Nat := 0

namespace World

/-- The operation of some index takes a step. -/
inductive Moves (i : Nat) (w : World) : World → Prop where
  | step {call : Call} {rest left : Operation (Outcome Unit)} {t : Store} (running : w.threads[i]? = some ⟨call, rest⟩)
      (step : rest.Step w.store left t) :
      Moves i w ⟨t, w.threads.set i ⟨call, left⟩, w.epochs + t.epoch.since w.store.epoch⟩

/-- An operation is started, or one of those under way takes a step. -/
inductive Next (w : World) : World → Prop where
  | starts (call : Call) : Next w { w with threads := w.threads ++ [⟨call, call.body⟩] }
  | moves {i : Nat} {v : World} (moves : Moves i w v) : Next w v

/-- What may happen, in whatever order. -/
abbrev Runs : World → World → Prop := ReflTransGen Next

variable {i : Nat} {v w : World} {call : Call} {rest : Operation (Outcome Unit)}

theorem Moves.step_of_running (moves : Moves i w v) (running : w.threads[i]? = some ⟨call, rest⟩) :
    ∃ left, rest.Step w.store left v.store ∧ v.threads[i]? = some ⟨call, left⟩ := by
  have inside : i < w.threads.length := (List.getElem?_eq_some_iff.mp running).1
  obtain ⟨there, step⟩ := moves
  cases running.symm.trans there
  exact ⟨_, step, List.getElem?_set_self inside⟩

/-- Others may take steps and be started, while the operation of some index stays where it is. -/
def Waits (i : Nat) (w v : World) : Prop := Runs w v ∧ v.threads[i]? = w.threads[i]?

theorem Waits.refl (i : Nat) (w : World) : Waits i w w := ⟨.refl, rfl⟩

theorem Next.waits_or_moves (next : Next w v) (running : w.threads[i]? = some ⟨call, rest⟩) :
    Waits i w v ∨ Moves i w v := by
  cases next with
  | starts other =>
    have inside : i < w.threads.length := (List.getElem?_eq_some_iff.mp running).1
    exact .inl ⟨.single (.starts other), List.getElem?_append_left inside⟩
  | @moves j v moves =>
    by_cases own : j = i
    · exact .inr (own ▸ moves)
    · refine .inl ⟨.single (.moves moves), ?_⟩
      cases moves
      exact List.getElem?_set_ne own

/-- What is left of an operation changes only by its own steps. -/
theorem Next.thread (next : Next w v) (running : w.threads[i]? = some ⟨call, rest⟩) :
    v.threads[i]? = some ⟨call, rest⟩ ∨
      ∃ left, rest.Step w.store left v.store ∧ v.threads[i]? = some ⟨call, left⟩ := by
  rcases next.waits_or_moves running with waits | moves
  · exact .inl (waits.2.trans running)
  · exact .inr (moves.step_of_running running)

/-- Whatever an operation can do next can happen, and the other operations stay where they are. -/
theorem moves_of_step {left : Operation (Outcome Unit)} {t : Store} (running : w.threads[i]? = some ⟨call, rest⟩)
    (step : rest.Step w.store left t) : ∃ v, Moves i w v ∧ v.store = t ∧ v.threads[i]? = some ⟨call, left⟩ ∧
      ∀ j, i ≠ j → v.threads[j]? = w.threads[j]? :=
  ⟨_, .step running step, rfl, List.getElem?_set_self (List.getElem?_eq_some_iff.mp running).1,
    fun _ apart => List.getElem?_set_ne apart⟩

theorem Moves.epochs (moves : Moves i w v) : v.epochs = w.epochs + v.store.epoch.since w.store.epoch := by
  cases moves
  rfl

theorem Next.later (next : Next w v) :
    w.epochs ≤ v.epochs ∧ Epoch.Later (v.epochs - w.epochs) w.store.epoch v.store.epoch := by
  cases next with
  | starts call => exact ⟨Nat.le_refl _, by rw [Nat.sub_self]; exact .refl _⟩
  | moves moves =>
    obtain ⟨_, _⟩ := moves
    exact ⟨Nat.le_add_right _ _, by rw [Nat.add_sub_cancel_left]; exact .since _ _⟩

theorem later_of_runs (runs : Runs w v) :
    w.epochs ≤ v.epochs ∧ Epoch.Later (v.epochs - w.epochs) w.store.epoch v.store.epoch := by
  induction runs with
  | refl => exact ⟨Nat.le_refl _, by rw [Nat.sub_self]; exact .refl _⟩
  | tail _ next ih =>
    obtain ⟨before, earlier⟩ := ih
    obtain ⟨after, later⟩ := next.later
    refine ⟨Nat.le_trans before after, ?_⟩
    have sum := earlier.trans later
    rwa [Nat.add_comm, Nat.sub_add_sub_cancel after before] at sum

variable {z : World} {value : Outcome Unit}

/-- In whatever happens, an operation takes no step of its own, or there is a first one. -/
theorem waits_or_moves (runs : Runs w z) (running : w.threads[i]? = some ⟨call, rest⟩) :
    Waits i w z ∨ ∃ v u, Waits i w v ∧ Moves i v u ∧ Runs u z := by
  -- From the front, so that of several steps of its own it is the first one that is met.
  induction runs using ReflTransGen.head_induction_on with
  | refl => exact .inl (.refl i z)
  | @head w y next others ih =>
    rcases next.waits_or_moves running with ⟨before, same⟩ | moves
    · rcases ih (same.trans running) with ⟨waits, still⟩ | ⟨v, u, ⟨waits, still⟩, moves, later⟩
      · exact .inl ⟨before.trans waits, still.trans same⟩
      · exact .inr ⟨v, u, ⟨before.trans waits, still.trans same⟩, moves, later⟩
    · exact .inr ⟨w, y, .refl i w, moves, others⟩

end World

end Session

end DagConsole

import DagConsole.Proofs.Dag.Validity
import DagConsole.Proofs.Store.Effect

/-! Histories of a store: the steps taken so far, in any order, with the handles given out on the way. As long
as epochs do not repeat, a handle of the current epoch was given out for what is shown now. -/
namespace DagConsole.Store

/-- A store with what has happened to it since it was created. -/
structure History where
  store : Store
  /-- The steps taken, latest first. -/
  steps : List Step
  /-- The handles given out. -/
  handles : List Handle
  /-- How many epochs have begun. -/
  epochs : Nat

namespace History

/-- A new store. -/
def start : History := ⟨.empty, [], [], 0⟩

/-- What there is after one more step. -/
def after (h : History) (step : Step) : History where
  store := step.next h.store
  steps := step :: h.steps
  handles := step.handles h.store ++ h.handles
  epochs := h.epochs + (step.next h.store).epoch.since h.store.epoch

@[simp] theorem store_after (h : History) (step : Step) : (h.after step).store = step.next h.store := rfl

theorem epochs_lt_of_after {h : History} {step : Step} {bound : Nat} (bounded : (h.after step).epochs < bound) :
    h.epochs < bound := Nat.lt_of_le_of_lt (Nat.le_add_right _ _) bounded

/-- The histories of permitted steps. -/
inductive Reachable (permitted : History → Step → Prop) : History → Prop where
  | start : Reachable permitted .start
  | step {h : History} {step : Step} (earlier : Reachable permitted h) (permits : permitted h step) :
      Reachable permitted (h.after step)

/-- The histories that permitted steps lead to from an earlier one. -/
inductive Continues (permitted : History → Step → Prop) (earlier : History) : History → Prop where
  | refl : Continues permitted earlier earlier
  | step {h : History} {step : Step} (before : Continues permitted earlier h) (permits : permitted h step) :
      Continues permitted earlier (h.after step)

/-- A step uses no handle but one that was given out. -/
def Held (h : History) (step : Step) : Prop := ∀ handle ∈ step.handle?, handle ∈ h.handles

theorem Held.of_unused {h : History} {step : Step} (unused : step.handle? = none) : h.Held step :=
  Step.forall_of_unused unused

theorem Held.deliver {h : History} {handle : Handle} {answer : handle.request.Answer}
    {preferred : Option DagResultId} (given : handle ∈ h.handles) :
    h.Held (.deliver handle answer preferred) := by
  intro used uses
  cases uses
  exact given

/-- The answer to a request that was made has been delivered, wanted or not. -/
structure Delivered (h : History) (handle : Handle) (answer : handle.request.Answer) : Prop where
  made : handle ∈ h.handles
  taken : ∃ preferred, .deliver handle answer preferred ∈ h.steps

theorem Delivered.after {h : History} {handle : Handle} {answer : handle.request.Answer} (step : Step)
    (earlier : h.Delivered handle answer) : (h.after step).Delivered handle answer := by
  obtain ⟨made, preferred, taken⟩ := earlier
  exact ⟨List.mem_append_right _ made, preferred, List.mem_cons_of_mem _ taken⟩

theorem Delivered.now {h : History} {handle : Handle} {answer : handle.request.Answer}
    (preferred : Option DagResultId) (held : handle ∈ h.handles) :
    (h.after (.deliver handle answer preferred)).Delivered handle answer :=
  ⟨List.mem_append_right _ held, preferred, List.mem_cons_self⟩

/-- What the platform has answered to requests, whatever handles they were made for. -/
inductive Answered (h : History) : (request : Request) → request.Answer → Prop where
  | delivered {handle : Handle} {answer : handle.request.Answer} (delivered : h.Delivered handle answer) :
      Answered h handle.request answer

theorem Answered.after {h : History} {request : Request} {answer : request.Answer} (step : Step)
    (earlier : h.Answered request answer) : (h.after step).Answered request answer := by
  cases earlier with
  | delivered delivered => exact .delivered (delivered.after step)

/-- The epochs tell handles of different pages apart, and a handle of the current epoch fits the page. -/
structure Timely (h : History) : Prop where
  count : h.store.epoch.count.toNat = h.epochs
  given : ∀ handle ∈ h.handles, handle.epoch.count.toNat ≤ h.epochs
  fits : ∀ handle ∈ h.handles, handle.epoch = h.store.epoch → handle.Fits h.store

variable {h : History} {step : Step}

theorem Timely.start : Timely .start :=
  ⟨rfl, (fun _ member => nomatch member), (fun _ member => nomatch member)⟩

theorem Timely.after (timely : h.Timely) (step : Step) (bounded : (h.after step).epochs < UInt64.size) :
    (h.after step).Timely := by
  have effect := effect step h.store
  have count : (h.after step).store.epoch.count.toNat = (h.after step).epochs := by
    have added : (step.next h.store).epoch.count.toNat = _ :=
      Epoch.count_eq_add_since (by rwa [timely.count])
    rwa [timely.count] at added
  refine ⟨count, ?_, ?_⟩
  · intro handle member
    rcases List.mem_append.mp member with given | earlier
    · rw [(fits_of_given given).1]
      exact Nat.le_of_eq count
    · exact Nat.le_trans (timely.given handle earlier) (Nat.le_add_right _ _)
  · intro handle member current
    rcases List.mem_append.mp member with given | earlier
    · exact (fits_of_given given).2
    · rcases effect.page with same | restart
      · exact same.fits (timely.fits handle earlier (current.trans same.epoch))
      · -- A handle given out before the new epoch cannot belong to it.
        have before := timely.given handle earlier
        have later : 0 < (step.next h.store).epoch.since h.store.epoch := by
          rcases restart.epoch with one | two
          · simp [one]
          · simp [two]
        rw [current, count] at before
        exact absurd before (Nat.not_le_of_lt (Nat.lt_add_of_pos_right later))

variable {permitted : History → Step → Prop}

theorem Reachable.timely (reached : h.Reachable permitted) (bounded : h.epochs < UInt64.size) :
    h.Timely := by
  induction reached with
  | start => exact .start
  | step _ _ ih => exact (ih (epochs_lt_of_after bounded)).after _ bounded

/-- What holds of a new store and is kept by every permitted step holds throughout, as long as epochs do not
repeat. -/
theorem Reachable.invariant (reached : h.Reachable permitted) (bounded : h.epochs < UInt64.size)
    (inv : History → Prop) (start : inv .start)
    (next : ∀ {h : History} {step : Step}, h.Timely → permitted h step → inv h → inv (h.after step)) :
    inv h := by
  induction reached with
  | start => exact start
  | step earlier permits ih =>
    have before := epochs_lt_of_after bounded
    exact next (earlier.timely before) permits (ih before)

section Continuations

variable {later : History}

theorem Reachable.continues (reached : h.Reachable permitted) (continued : h.Continues permitted later) :
    later.Reachable permitted := by
  induction continued with
  | refl => exact reached
  | step _ permits ih => exact ih.step permits

theorem Continues.trans {last : History} (first : h.Continues permitted later)
    (second : later.Continues permitted last) : h.Continues permitted last := by
  induction second with
  | refl => exact first
  | step _ permits ih => exact ih.step permits

theorem Continues.epochs_le (continued : h.Continues permitted later) : h.epochs ≤ later.epochs := by
  induction continued with
  | refl => exact Nat.le_refl _
  | step _ _ ih => exact Nat.le_trans ih (Nat.le_add_right _ _)

/-- The epoch has moved on by as many as have begun. -/
theorem Continues.epoch_later (continued : h.Continues permitted later) :
    Epoch.Later (later.epochs - h.epochs) h.store.epoch later.store.epoch := by
  induction continued with
  | refl =>
    rw [Nat.sub_self]
    exact .refl _
  | @step later step before _ ih =>
    have split : (later.after step).epochs - h.epochs =
        (later.epochs - h.epochs) + (step.next later.store).epoch.since later.store.epoch :=
      Nat.sub_add_comm before.epochs_le
    rw [split]
    exact ih.trans (.since _ _)

/-- Before the counter wraps around, an epoch that has passed does not come back. -/
theorem Continues.epoch_ne (continued : h.Continues permitted later) (passed : h.epochs < later.epochs)
    (bounded : later.epochs < h.epochs + UInt64.size) : h.store.epoch ≠ later.store.epoch := by
  intro same
  have moved := continued.epoch_later
  rw [← same] at moved
  have begun : 0 < later.epochs - h.epochs := Nat.sub_pos_of_lt passed
  have few : later.epochs - h.epochs < UInt64.size := Nat.sub_lt_left_of_lt_add (Nat.le_of_lt passed) bounded
  exact Epoch.Within.not_later ⟨0, Nat.le_refl _, .refl _⟩ begun few moved

end Continuations

/-- A workflow with one run is opened, and an output and the layout are fetched. -/
def opened : History :=
  let snapshot : Snapshot :=
    { dags := .ofList [(Dag.checkedTable.id, Dag.checkedTable)]
      results := [{ id := ⟨7⟩, dag := Dag.checkedTable.id, created := ⟨0⟩ }] }
  start
    |>.after (.beginWorkflow ⟨6⟩)
    |>.after (.deliver (.workflow ⟨1⟩ ⟨6⟩) (.ok snapshot) none)
    |>.after (.beginNodeFetch ⟨4⟩ false)
    |>.after (.deliver (.artifact ⟨⟨3⟩, ⟨7⟩⟩ ⟨4⟩) (.ok (.ofContent .bool .json "true")) none)
    |>.after .beginLayout
    |>.after (.deliver (.layout ⟨3⟩ Dag.checkedTable) (.ok {}) none)

theorem reachable_opened
    (permits : ∀ {h step}, step ∈ opened.steps → h.Held step → permitted h step) :
    opened.Reachable permitted := by
  refine .step (.step (.step (.step (.step (.step .start ?_) ?_) ?_) ?_) ?_) ?_
  all_goals refine permits (by simp [opened, after, start]) ?_
  · exact .of_unused rfl
  · exact .deliver List.mem_cons_self
  · exact .of_unused rfl
  · exact .deliver List.mem_cons_self
  · exact .of_unused rfl
  · exact .deliver List.mem_cons_self

end History

end DagConsole.Store

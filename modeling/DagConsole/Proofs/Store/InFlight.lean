import DagConsole.Proofs.Store.SlotChange
import Mathlib.Data.Multiset.AddSub

/-! Requests in flight: the handles that were given out and have not been used. Of those that were given out
without force, at most one in an epoch is for a node, and none unless the slot of the node is loading. -/
namespace DagConsole.Store

/-- A request of some epoch for some target. -/
def Handle.Requests (epoch : Epoch) (target : Target) (handle : Handle) : Prop :=
  handle.epoch = epoch ∧ handle.target = target

instance (epoch : Epoch) (target : Target) (handle : Handle) : Decidable (handle.Requests epoch target) :=
  inferInstanceAs (Decidable (_ ∧ _))

theorem wants_of_fits {s : Store} {handle : Handle} (current : handle.epoch = s.epoch)
    (fits : handle.Fits s) : s.wants handle := by
  cases handle with
  | workflow epoch id => exact beq_iff_eq.mpr current.symm
  | artifact ticket id => exact accepts_iff.mpr ⟨current, fits.1⟩
  | operator ticket id => exact accepts_iff.mpr ⟨current, fits.1⟩
  | layout epoch dag => exact beq_iff_eq.mpr current.symm

theorem ticket_of_accepts {s : Store} {ticket other : Ticket} (accepted : s.accepts ticket)
    (otherAccepted : s.accepts other) : ticket = other := by
  obtain ⟨epoch, run⟩ := accepts_iff.mp accepted
  obtain ⟨otherEpoch, otherRun⟩ := accepts_iff.mp otherAccepted
  have same : ticket.run = other.run := Option.some.inj (run.symm.trans otherRun)
  cases ticket
  cases other
  cases epoch
  cases otherEpoch
  cases same
  rfl

/-- The handle of a node is told by its target among those with which answers are written. -/
theorem eq_of_wants {s : Store} {handle other : Handle} (wanted : s.wants handle)
    (otherWanted : s.wants other) (same : handle.target = other.target) (node : handle.target.isNode) :
    handle = other := by
  cases handle with
  | workflow _ _ | layout _ _ => cases node
  | artifact ticket id =>
    cases other with
    | artifact otherTicket otherId =>
      cases same
      rw [ticket_of_accepts wanted otherWanted]
    | workflow _ _ | operator _ _ | layout _ _ => cases same
  | operator ticket id =>
    cases other with
    | operator otherTicket otherId =>
      cases same
      rw [ticket_of_accepts wanted otherWanted]
    | workflow _ _ | artifact _ _ | layout _ _ => cases same

theorem Replaces.target_of_given {s : Store} {step : Step} {handle : Handle} (replaces : Replaces s step)
    (given : handle ∈ step.handles s) : handle.target = .workflow := by
  cases replaces with
  | beginWorkflow id =>
    cases List.mem_singleton.mp given
    rfl
  | teardown | selectResult _ | loadWorkflow _ | applyWorkflow _ => cases given

theorem Step.handles_of_used {s : Store} {step : Step} {handle : Handle} (used : step.handle? = some handle) :
    step.handles s = [] := by
  cases step with
  | deliver _ _ _ => rfl
  | _ => cases used

theorem Restart.slot {s t : Store} {target : Target} (restart : Restart s t) (kind : target ≠ .workflow) :
    t.slot target = .initial := by
  cases target with
  | workflow => exact absurd rfl kind
  | artifact id => simp [Store.slot, restart.artifacts]
  | operator id => simp [Store.slot, restart.operators]
  | layout => exact restart.layout

namespace History

/-- The handles that have been used, latest first. -/
def used (h : History) : List Handle := h.steps.filterMap Step.handle?

open scoped Classical in
/-- Of some handles that were given out, those that have not been used. One that was given out several times alike
is there as often as it has not been used yet. -/
noncomputable def unused (h : History) (given : List Handle) : Multiset Handle :=
  (given : Multiset Handle) - (h.used : Multiset Handle)

/-- The handles of requests that have not been answered. -/
noncomputable def inFlight (h : History) : Multiset Handle := h.unused h.handles

/-- How many of some handles are for requests of the current epoch for a target. -/
def current (h : History) (target : Target) (handles : Multiset Handle) : Nat :=
  handles.countP (Handle.Requests h.store.epoch target)

variable {h : History} {step : Step} {given asked : List Handle} {handle other : Handle} {target : Target}

theorem used_after (h : History) (step : Step) : (h.after step).used = step.handle?.toList ++ h.used := by
  simp only [used, after, List.filterMap_cons]
  cases step.handle? <;> rfl

open scoped Classical in
theorem mem_unused : handle ∈ h.unused given ↔ h.used.count handle < given.count handle := by
  rw [unused, Multiset.mem_sub, Multiset.coe_count, Multiset.coe_count]

theorem unused_after_le (h : History) (step : Step) (asked given : List Handle) :
    (h.after step).unused (asked ++ given) ≤ (asked : Multiset Handle) + h.unused given := by
  classical
  apply Multiset.le_iff_count.mpr
  intro handle
  simp only [unused, used_after, Multiset.count_add, Multiset.count_sub, Multiset.coe_count,
    List.count_append]
  omega

/-- A handle that is used is used up. -/
theorem cons_unused_after_le (used : step.handle? = some handle) (there : handle ∈ h.unused given) :
    handle ::ₘ (h.after step).unused given ≤ h.unused given := by
  classical
  have more := mem_unused.mp there
  apply Multiset.le_iff_count.mpr
  intro other
  simp only [unused, used_after, used, Option.toList_some, List.singleton_append, Multiset.count_cons,
    Multiset.count_sub, Multiset.coe_count, List.count_cons]
  by_cases same : other = handle
  · subst same
    simp
    omega
  · simp [same, Ne.symm same]

theorem mem_unused_after (there : handle ∈ h.unused given) (unused : step.handle? ≠ some handle) :
    handle ∈ (h.after step).unused (asked ++ given) := by
  classical
  have more := mem_unused.mp there
  rw [mem_unused, used_after, List.count_append, List.count_append]
  have none : step.handle?.toList.count handle = 0 := by
    apply List.count_eq_zero.mpr
    rintro member
    exact unused (Option.mem_toList.mp member)
  omega

theorem mem_unused_of_asked (settled : (h.used : Multiset Handle) ≤ given) (unused : step.handle? = none)
    (new : handle ∈ asked) : handle ∈ (h.after step).unused (asked ++ given) := by
  classical
  have counted := Multiset.le_iff_count.mp settled handle
  have some := List.count_pos_iff.mpr new
  rw [Multiset.coe_count, Multiset.coe_count] at counted
  rw [mem_unused, used_after, unused, Option.toList_none, List.nil_append, List.count_append]
  omega

theorem le_inFlight_of_add_le {some : Multiset Handle} (given : some + (h.used : Multiset Handle) ≤ h.handles) :
    some ≤ h.inFlight := by
  classical
  apply Multiset.le_iff_count.mpr
  intro handle
  have counted := Multiset.le_iff_count.mp given handle
  rw [Multiset.count_add] at counted
  rw [inFlight, unused, Multiset.count_sub]
  omega

theorem mem_of_mem_unused (there : handle ∈ h.unused given) : handle ∈ given := by
  classical
  exact List.count_pos_iff.mp (Nat.zero_lt_of_lt (mem_unused.mp there))

theorem current_after (same : SamePage h.store (step.next h.store)) (target : Target)
    (handles : Multiset Handle) : (h.after step).current target handles = h.current target handles := by
  rw [current, current, store_after, same.epoch]

/-- Handles given out before a new epoch are not of it. -/
theorem Timely.stale_after (timely : h.Timely) (later : (h.after step).Timely)
    (restart : Restart h.store (step.next h.store)) (before : handle ∈ h.handles) :
    handle.epoch ≠ (h.after step).store.epoch := by
  intro same
  have given := timely.given handle before
  have begun : h.epochs < (h.after step).epochs := Nat.lt_add_of_pos_right restart.since_pos
  rw [same, later.count] at given
  exact absurd given (Nat.not_le_of_lt begun)

/-- A history, with the handles that it gave out for requests that were not forced. Others may have been. -/
inductive Unforced : History → List Handle → Prop where
  | start : Unforced .start []
  | step {h : History} {given : List Handle} (earlier : Unforced h given) (step : Step) :
      Unforced (h.after step) ((if step.isForced then [] else step.handles h.store) ++ given)

theorem Unforced.after (earlier : h.Unforced given) (unforced : step.isForced = false) :
    (h.after step).Unforced (step.handles h.store ++ given) := by
  have next := earlier.step step
  rwa [unforced, if_neg Bool.false_ne_true] at next

theorem Unforced.reachable (unforced : h.Unforced given) : h.Reachable fun _ _ => True := by
  induction unforced with
  | start => exact .start
  | step _ _ ih => exact ih.step trivial

theorem mem_of_unforced (among : handle ∈ if step.isForced then [] else step.handles h.store) :
    handle ∈ step.handles h.store := by
  split at among
  · cases among
  · exact among

theorem Unforced.subset (unforced : h.Unforced given) : given ⊆ h.handles := by
  induction unforced with
  | start => exact List.Subset.refl _
  | step _ _ ih =>
    intro handle member
    rcases List.mem_append.mp member with now | before
    · exact List.mem_append_left _ (mem_of_unforced now)
    · exact List.mem_append_right _ (ih before)

theorem current_eq_zero_iff {handles : Multiset Handle} : h.current target handles = 0 ↔
    ∀ handle ∈ handles, handle.epoch = h.store.epoch → handle.target ≠ target := by
  simp only [current, Multiset.countP_eq_zero, Handle.Requests, not_and, ne_eq]

theorem current_le_countP (h : History) (target : Target) (handles : List Handle) :
    h.current target handles ≤ handles.countP fun handle => handle.target = target := by
  rw [current, Multiset.coe_countP]
  refine List.countP_mono_left fun handle _ requested => ?_
  simpa using (of_decide_eq_true requested).2

/-- Handles for different targets are for each target at most one. -/
theorem current_le_one_of_targets {handles : List Handle} (different : (handles.map Handle.target).Nodup)
    (target : Target) : h.current target handles ≤ 1 := by
  refine Nat.le_trans (current_le_countP h target handles) ?_
  have once := List.nodup_iff_count_le_one.mp different target
  rw [List.count, List.countP_map] at once
  exact Nat.le_trans (List.countP_mono_left fun _ _ same => by simpa using same) once

theorem current_unused_after_le (same : SamePage h.store (step.next h.store)) (target : Target)
    (asked given : List Handle) : (h.after step).current target ((h.after step).unused (asked ++ given)) ≤
      h.current target asked + h.current target (h.unused given) := by
  rw [current_after same, current, current, current, ← Multiset.countP_add]
  exact Multiset.countP_le_of_le _ (unused_after_le h step asked given)

/-- Of some handles at most one is for a request of the current epoch for a target, and none if the target is
not loading. -/
structure Single (h : History) (target : Target) (handles : Multiset Handle) : Prop where
  once : h.current target handles ≤ 1
  idle : h.store.slot target ≠ .loading → h.current target handles = 0

theorem Single.of_none {handles : Multiset Handle} (none : h.current target handles = 0) :
    h.Single target handles := ⟨none ▸ Nat.zero_le 1, fun _ => none⟩

/-- The handle that fills the slot of a node is the one that was in flight for it, if there was one. -/
theorem Single.settled (single : h.Single target (h.unused given)) (timely : h.Timely)
    (subset : given ⊆ h.handles) (node : target.isNode) (same : SamePage h.store (step.next h.store))
    (used : step.handle? = some handle) (wanted : h.store.wants handle) (written : handle.target = target) :
    (h.after step).current target ((h.after step).unused given) = 0 := by
  rw [current_after same, current_eq_zero_iff]
  intro other left current requested
  have before : other ∈ h.unused given :=
    Multiset.mem_of_le (unused_after_le h step [] given) (by simpa using left)
  have fits := timely.fits other (subset (mem_of_mem_unused before)) current
  obtain rfl : handle = other :=
    eq_of_wants wanted (wants_of_fits current fits) (written.trans requested.symm) (written ▸ node)
  -- It was there once and is used up, so it cannot be left.
  have counted := Multiset.countP_le_of_le (Handle.Requests h.store.epoch target)
    (cons_unused_after_le used before)
  rw [Multiset.countP_cons_of_pos _ ⟨current, requested⟩] at counted
  have left := Multiset.countP_pos_of_mem (p := Handle.Requests h.store.epoch target) left
    ⟨current, requested⟩
  have once := single.once
  unfold History.current at once
  omega

/-- What is asked for without force in one step has not been asked for before, and what fills its slot is no
longer in flight. -/
theorem Single.after (single : h.Single target (h.unused given)) (timely : h.Timely)
    (later : (h.after step).Timely) (subset : given ⊆ h.handles) (node : target.isNode) :
    (h.after step).Single target
      ((h.after step).unused ((if step.isForced then [] else step.handles h.store) ++ given)) := by
  rcases replaces_or_keeps h.store step with replaces | keeps
  · apply Single.of_none
    rw [current_eq_zero_iff]
    intro handle there epoch requested
    rcases List.mem_append.mp (mem_of_mem_unused there) with now | before
    · rw [← requested, replaces.target_of_given (mem_of_unforced now)] at node
      cases node
    · exact timely.stale_after later replaces.restart (subset before) epoch
  · have split := current_unused_after_le keeps.page target
      (if step.isForced then [] else step.handles h.store) given
    cases keeps.slots target with
    | kept same unasked _ =>
      have none : h.current target (if step.isForced then [] else step.handles h.store : List Handle) = 0 := by
        rw [current_eq_zero_iff]
        intro handle member _
        exact unasked handle (mem_of_unforced member)
      rw [none, Nat.zero_add] at split
      refine ⟨Nat.le_trans split single.once, fun idle => ?_⟩
      have before : h.store.slot target ≠ .loading := fun loading => idle (same.trans loading)
      exact Nat.le_zero.mp (single.idle before ▸ split)
    | started loading once _ _ needed =>
      refine ⟨?_, fun idle => absurd loading idle⟩
      by_cases forced : step.isForced
      · rw [if_pos forced] at split ⊢
        refine Nat.le_trans split ?_
        simpa [current] using single.once
      · rw [if_neg forced] at split ⊢
        have before : h.store.slot target ≠ .loading := by
          intro loading
          have wanted := needed (Bool.eq_false_iff.mpr forced) node
          rw [loading] at wanted
          cases wanted
        rw [single.idle before, Nat.add_zero] at split
        exact Nat.le_trans split (once ▸ current_le_countP h target _)
    | settled used wanted written filled =>
      have unasked : step.handles h.store = [] := Step.handles_of_used used
      simp only [unasked, ite_self, List.nil_append]
      exact .of_none (single.settled timely subset node keeps.page used wanted written)

theorem Unforced.single (unforced : h.Unforced given) (bounded : h.epochs < UInt64.size)
    (node : target.isNode) : h.Single target (h.unused given) := by
  induction unforced with
  | start => exact .of_none rfl
  | step earlier step ih =>
    have before := epochs_lt_of_after bounded
    have timely := earlier.reachable.timely before
    exact (ih before).after timely (timely.after step bounded) earlier.subset node

open scoped Classical in
/-- The handles that were given out for forced requests, if some given ones are those for all others. -/
noncomputable def forced (h : History) (given : List Handle) : Multiset Handle :=
  (h.handles : Multiset Handle) - (given : Multiset Handle)

/-- Where no request was forced, what is in flight was asked for without force. -/
theorem current_inFlight_le (unforced : h.current target (h.forced given) = 0) :
    h.current target h.inFlight ≤ h.current target (h.unused given) := by
  have fewer : h.inFlight ≤ h.forced given + h.unused given := by
    classical
    apply Multiset.le_iff_count.mpr
    intro handle
    simp only [inFlight, unused, forced, Multiset.count_add, Multiset.count_sub]
    omega
  have counted := Multiset.countP_le_of_le (Handle.Requests h.store.epoch target) fewer
  rw [Multiset.countP_add] at counted
  rw [current] at unforced
  rwa [unforced, Nat.zero_add] at counted

/-- Of the requests in flight for a node, at most one is of the current epoch, unless a fetch of the node was forced
in this epoch or epochs may have repeated. -/
theorem Unforced.current_le_one {handles : Multiset Handle} (unforced : h.Unforced given)
    (pending : handles ≤ h.inFlight) (node : target.isNode)
    (once : 0 < h.current target (h.forced given) ∨ UInt64.size ≤ h.epochs → h.current target handles ≤ 1) :
    h.current target handles ≤ 1 := by
  by_cases shared : 0 < h.current target (h.forced given) ∨ UInt64.size ≤ h.epochs
  · exact once shared
  · obtain ⟨none, bounded⟩ := not_or.mp shared
    calc h.current target handles
      _ ≤ h.current target h.inFlight := Multiset.countP_le_of_le _ pending
      _ ≤ h.current target (h.unused given) := current_inFlight_le (Nat.eq_zero_of_not_pos none)
      _ ≤ 1 := (unforced.single (Nat.lt_of_not_le bounded) node).once

end History

end DagConsole.Store

import DagConsole.Proofs.Store.Slot

/-! What answers make of the slots that they are written to, one by one and several in a row. -/
namespace DagConsole

/-- A fetch is over: the value is there, or the fetch has failed. -/
def LoadingStatus.Arrived : LoadingStatus → Prop
  | .succeeded | .failed _ => True
  | .initial | .loading => False

namespace Loadable

variable {α : Type} {slot : Loadable α}

theorem ne_loading_of_arrived (arrived : slot.status.Arrived) : slot ≠ .loading := by
  rintro rfl
  exact arrived

/-- Of what is not on its way, all that needs no fetch has arrived. -/
theorem arrived_of_filled (idle : slot ≠ .loading) (filled : slot.needsFetch = false) : slot.status.Arrived := by
  cases slot with
  | loading => exact absurd rfl idle
  | succeeded _ => exact trivial
  | initial | failed _ => cases filled

end Loadable

namespace Store

/-- What an answer makes of the slot that it is written to. -/
def Handle.content : (handle : Handle) → handle.request.Answer → Loadable handle.target.Content
  | .workflow _ _, answer => .ofOutcome (answer.map fun _ => ())
  | .artifact _ _, answer => .ofOutcome answer
  | .operator _ _, answer => .ofOutcome answer
  | .layout _ _, answer => .ofOutcome answer

/-- An answer has arrived: it is the value that was asked for, or a failure. -/
theorem Handle.arrived_content (handle : Handle) (answer : handle.request.Answer) :
    (handle.content answer).status.Arrived := by
  cases handle with
  | workflow _ _ | artifact _ _ | operator _ _ | layout _ _ => cases answer <;> exact trivial

/-- A wanted answer for a node or a layout is written to its slot, and changes nothing else. -/
theorem deliver_eq_put {s : Store} {handle : Handle} {answer : handle.request.Answer}
    {preferred : Option DagResultId} (kind : handle.target ≠ .workflow) (wanted : s.wants handle) :
    handle.deliver preferred s answer = (.ok true, s.put handle.target (handle.content answer)) := by
  cases handle with
  | workflow epoch id => exact absurd rfl kind
  | artifact ticket id =>
    have accepted : s.accepts ticket := wanted
    simp only [Handle.deliver, applyArtifactResult, accepted, if_true]
    rfl
  | operator ticket id =>
    have accepted : s.accepts ticket := wanted
    simp only [Handle.deliver, applyOperatorResult, accepted, if_true]
    rfl
  | layout epoch dag =>
    obtain rfl : s.epoch = epoch := beq_iff_eq.mp wanted
    simp only [Handle.deliver, applyLayout, if_true]
    rfl

end Store

namespace Reply

/-- The handle that a reply is written with. -/
def handle : Reply → Store.Handle
  | .artifact ticket id _ => .artifact ticket id
  | .operator ticket id _ => .operator ticket id

def answer : (reply : Reply) → reply.handle.request.Answer
  | .artifact _ _ answer => answer
  | .operator _ _ answer => answer

/-- What a reply makes of the slot that it is written to. -/
def content (reply : Reply) : Loadable reply.handle.target.Content := reply.handle.content reply.answer

end Reply

namespace Store

section Replies

variable {s : Store} {target : Target} {reply : Reply} {replies : List Reply}

theorem applyReply_of_wanted (wanted : s.wants reply.handle) :
    s.applyReply reply = (true, s.put reply.handle.target reply.content) := by
  have kind : reply.handle.target ≠ .workflow := by cases reply <;> nofun
  have delivered : reply.handle.deliver none s reply.answer =
      (.ok (s.applyReply reply).1, (s.applyReply reply).2) := by cases reply <;> rfl
  rw [deliver_eq_put kind wanted] at delivered
  obtain ⟨accepted, written⟩ := Prod.mk.inj delivered
  exact Prod.ext (Except.ok.inj accepted).symm written.symm

theorem applyReplies_cons (wanted : s.wants reply.handle) : s.applyReplies (reply :: replies) =
    (((s.put reply.handle.target reply.content).applyReplies replies).1 + 1,
      ((s.put reply.handle.target reply.content).applyReplies replies).2) := by
  rw [applyReplies, applyReply_of_wanted wanted]
  rfl

/-- What is wanted after a reply is what was wanted before. -/
theorem wanted_after_put (wanted : ∀ other ∈ reply :: replies, s.wants other.handle) :
    ∀ other ∈ replies, (s.put reply.handle.target reply.content).wants other.handle := by
  intro other member
  rw [(page_put s _ _).wants]
  exact wanted other (List.mem_cons_of_mem _ member)

/-- Replies that are wanted are all counted. -/
theorem count_applyReplies (wanted : ∀ reply ∈ replies, s.wants reply.handle) :
    (s.applyReplies replies).1 = replies.length := by
  induction replies generalizing s with
  | nil => rfl
  | cons reply rest ih =>
    rw [applyReplies_cons (wanted reply List.mem_cons_self), ih (wanted_after_put wanted)]
    rfl

theorem page_applyReplies (wanted : ∀ reply ∈ replies, s.wants reply.handle) :
    SamePage s (s.applyReplies replies).2 := by
  induction replies generalizing s with
  | nil => exact .refl s
  | cons reply rest ih =>
    rw [applyReplies_cons (wanted reply List.mem_cons_self)]
    exact (page_put s _ _).trans (ih (wanted_after_put wanted))

theorem selection_applyReplies (wanted : ∀ reply ∈ replies, s.wants reply.handle) :
    (s.applyReplies replies).2.selection = s.selection := by
  induction replies generalizing s with
  | nil => rfl
  | cons reply rest ih =>
    rw [applyReplies_cons (wanted reply List.mem_cons_self)]
    exact (ih (wanted_after_put wanted)).trans (selection_put s _ _)

/-- Replies leave the slots of other targets as they are. -/
theorem slot_applyReplies_of_absent (wanted : ∀ reply ∈ replies, s.wants reply.handle)
    (absent : ∀ reply ∈ replies, reply.handle.target ≠ target) :
    (s.applyReplies replies).2.slot target = s.slot target := by
  induction replies generalizing s with
  | nil => rfl
  | cons reply rest ih =>
    rw [applyReplies_cons (wanted reply List.mem_cons_self)]
    refine (ih (wanted_after_put wanted) fun other member => absent other (List.mem_cons_of_mem _ member)).trans ?_
    exact slot_put_ne s _ (absent reply List.mem_cons_self).symm

/-- Of replies for different targets each fills its own slot. -/
theorem slot_applyReplies (wanted : ∀ reply ∈ replies, s.wants reply.handle)
    (distinct : (replies.map fun reply => reply.handle.target).Nodup) (member : reply ∈ replies) :
    (s.applyReplies replies).2.slot reply.handle.target = reply.content := by
  induction replies generalizing s with
  | nil => cases member
  | cons first rest ih =>
    obtain ⟨fresh, others⟩ := List.nodup_cons.mp distinct
    rw [applyReplies_cons (wanted first List.mem_cons_self)]
    rcases List.mem_cons.mp member with rfl | later
    · rw [slot_applyReplies_of_absent (wanted_after_put wanted), slot_put_self]
      intro other member same
      exact fresh (List.mem_map.mpr ⟨other, member, same⟩)
    · exact ih (wanted_after_put wanted) others later

end Replies

end Store

end DagConsole

import DagConsole.Proofs.Store.Staleness

/-! The slots of a store, one for each target that a request can be made for: what is read from one after
another was written, and that writes to two of them can be exchanged. -/
namespace DagConsole

namespace Loadable

variable {α : Type}

/-- A slot that holds no value of its own. -/
def ofStatus : LoadingStatus → Loadable Unit
  | .initial => .initial
  | .loading => .loading
  | .succeeded => .succeeded ()
  | .failed message => .failed message

@[simp] theorem status_ofStatus (status : LoadingStatus) : (ofStatus status).status = status := by
  cases status <;> rfl

@[simp] theorem ofStatus_status (slot : Loadable Unit) : ofStatus slot.status = slot := by
  cases slot <;> rfl

theorem ofOutcome_ne_loading (answer : Outcome α) : ofOutcome answer ≠ .loading := by
  cases answer <;> nofun

end Loadable

namespace Store

/-- What a request can be made for. -/
inductive Target where
  | workflow
  | artifact (id : ArtifactId)
  | operator (id : OperatorId)
  | layout
deriving DecidableEq

namespace Target

/-- What the slot of a target holds when it is filled. The slot of a workflow is its status. -/
abbrev Content : Target → Type
  | .workflow => Unit
  | .artifact _ => ArtifactResult
  | .operator _ => OperatorResult
  | .layout => Layout

def isNode : Target → Bool
  | .artifact _ | .operator _ => true
  | .workflow | .layout => false

end Target

/-- Where answers with a handle are written. -/
def Handle.target : Handle → Target
  | .workflow _ _ => .workflow
  | .artifact _ id => .artifact id
  | .operator _ id => .operator id
  | .layout _ _ => .layout

theorem Handle.isNode_ofFetch (fetch : NodeFetch) : (ofFetch fetch).target.isNode := by
  cases fetch <;> rfl

def slot (s : Store) : (target : Target) → Loadable target.Content
  | .workflow => .ofStatus s.status
  | .artifact id => (s.artifactResults.find? id).getD .initial
  | .operator id => (s.operatorResults.find? id).getD .initial
  | .layout => s.layout

/-- What the store holds for a target, if there is a slot for it at all. -/
def held (s : Store) : (target : Target) → Option (Loadable target.Content)
  | .workflow => some (.ofStatus s.status)
  | .artifact id => s.artifactResults.find? id
  | .operator id => s.operatorResults.find? id
  | .layout => some s.layout

/-- The store with something else in one slot. -/
def put (s : Store) : (target : Target) → Loadable target.Content → Store
  | .workflow, slot => { s with status := slot.status }
  | .artifact id, slot => { s with artifactResults := s.artifactResults.insert id slot }
  | .operator id, slot => { s with operatorResults := s.operatorResults.insert id slot }
  | .layout, slot => { s with layout := slot }

section Slots

variable {s t u : Store} {target other : Target}

theorem slot_eq (s : Store) (target : Target) : s.slot target = (s.held target).getD .initial := by
  cases target <;> rfl

theorem held_put_self (s : Store) (target : Target) (slot : Loadable target.Content) :
    (s.put target slot).held target = some slot := by
  cases target with
  | workflow => exact congrArg some (Loadable.ofStatus_status slot)
  | artifact id => exact FinMap.find?_insert_self _ _ _
  | operator id => exact FinMap.find?_insert_self _ _ _
  | layout => rfl

theorem held_put_ne (s : Store) (slot : Loadable target.Content) (apart : other ≠ target) :
    (s.put target slot).held other = s.held other := by
  cases target with
  | workflow => cases other <;> first | rfl | exact absurd rfl apart
  | artifact id =>
    cases other with
    | artifact otherId => exact FinMap.find?_insert_ne _ _ fun same => apart (congrArg Target.artifact same)
    | workflow | operator _ | layout => rfl
  | operator id =>
    cases other with
    | operator otherId => exact FinMap.find?_insert_ne _ _ fun same => apart (congrArg Target.operator same)
    | workflow | artifact _ | layout => rfl
  | layout => cases other <;> first | rfl | exact absurd rfl apart

theorem slot_put_self (s : Store) (target : Target) (slot : Loadable target.Content) :
    (s.put target slot).slot target = slot := by
  rw [slot_eq, held_put_self, Option.getD_some]

theorem slot_put_ne (s : Store) (slot : Loadable target.Content) (apart : other ≠ target) :
    (s.put target slot).slot other = s.slot other := by
  rw [slot_eq, held_put_ne s slot apart, ← slot_eq]

theorem page_put (s : Store) (target : Target) (slot : Loadable target.Content) :
    SamePage s (s.put target slot) := by
  cases target <;> exact ⟨rfl, rfl, rfl, rfl, rfl, rfl⟩

theorem selection_put (s : Store) (target : Target) (slot : Loadable target.Content) :
    (s.put target slot).selection = s.selection := by
  cases target <;> rfl

theorem put_comm (s : Store) (apart : target ≠ other) (slot : Loadable target.Content)
    (otherSlot : Loadable other.Content) :
    (s.put target slot).put other otherSlot = (s.put other otherSlot).put target slot := by
  cases target with
  | workflow | layout => cases other <;> first | rfl | exact absurd rfl apart
  | artifact id =>
    cases other with
    | artifact otherId =>
      have different : id ≠ otherId := fun same => apart (congrArg Target.artifact same)
      simp only [put, FinMap.insert_comm s.artifactResults different]
    | workflow | operator _ | layout => rfl
  | operator id =>
    cases other with
    | operator otherId =>
      have different : id ≠ otherId := fun same => apart (congrArg Target.operator same)
      simp only [put, FinMap.insert_comm s.operatorResults different]
    | workflow | artifact _ | layout => rfl

/-- An answer that is wanted fills the slot of its target, with the same whatever else the store holds. -/
theorem deliver_of_wanted {handle : Handle} (kind : handle.target ≠ .workflow) (answer : handle.request.Answer) :
    ∃ slot : Loadable handle.target.Content, slot ≠ .loading ∧ ∀ {s preferred}, s.wants handle →
      handle.deliver preferred s answer = (.ok true, s.put handle.target slot) := by
  cases handle with
  | workflow epoch id => exact absurd rfl kind
  | artifact ticket id =>
    refine ⟨.ofOutcome answer, Loadable.ofOutcome_ne_loading answer, ?_⟩
    intro s preferred wanted
    have accepted : s.accepts ticket := wanted
    simp only [Handle.deliver, applyArtifactResult, accepted, if_true]
    rfl
  | operator ticket id =>
    refine ⟨.ofOutcome answer, Loadable.ofOutcome_ne_loading answer, ?_⟩
    intro s preferred wanted
    have accepted : s.accepts ticket := wanted
    simp only [Handle.deliver, applyOperatorResult, accepted, if_true]
    rfl
  | layout epoch dag =>
    refine ⟨.ofOutcome answer, Loadable.ofOutcome_ne_loading answer, ?_⟩
    intro s preferred wanted
    obtain rfl : s.epoch = epoch := beq_iff_eq.mp wanted
    simp only [Handle.deliver, applyLayout, if_true]
    rfl

end Slots

end Store

end DagConsole

import DagConsole.Proofs.Store.Operations
import DagConsole.Session.Operation

/-! The steps that a store can take, in whatever order, and the handles that they give out and use. -/
namespace DagConsole

namespace Epoch

/-- How many epochs after an earlier one an epoch comes. -/
def since (later earlier : Epoch) : Nat := (later.count - earlier.count).toNat

@[simp] theorem since_self (e : Epoch) : e.since e = 0 := by
  simp [since]

@[simp] theorem since_next (e : Epoch) : e.next.since e = 1 := by
  simp [since, next, UInt64.add_comm e.count]

@[simp] theorem since_next_next (e : Epoch) : e.next.next.since e = 2 := by
  have two : e.count + 1 + 1 = 2 + e.count := by rw [UInt64.add_assoc, UInt64.add_comm]; rfl
  simp [since, next, two]

/-- Before the counter wraps around, epochs are counted without loss. -/
theorem count_eq_add_since {later earlier : Epoch}
    (bounded : earlier.count.toNat + later.since earlier < UInt64.size) :
    later.count.toNat = earlier.count.toNat + later.since earlier := by
  have split : later.count = earlier.count + (later.count - earlier.count) := by
    rw [UInt64.add_comm, UInt64.sub_add_cancel]
  have sum := congrArg UInt64.toNat split
  rw [UInt64.toNat_add] at sum
  exact sum.trans (Nat.mod_eq_of_lt bounded)

/-- An epoch comes some number of epochs after an earlier one, the counter wrapping around. -/
def Later (n : Nat) (earlier later : Epoch) : Prop := later.count = earlier.count + UInt64.ofNat n

theorem Later.refl (e : Epoch) : Later 0 e e := (UInt64.add_zero _).symm

theorem Later.since (earlier later : Epoch) : Later (later.since earlier) earlier later := by
  rw [Later, Epoch.since, UInt64.ofNat_toNat, UInt64.add_comm, UInt64.sub_add_cancel]

theorem Later.trans {m n : Nat} {earlier middle later : Epoch} (first : Later m earlier middle)
    (second : Later n middle later) : Later (m + n) earlier later := by
  rw [Later, UInt64.ofNat_add, ← UInt64.add_assoc, ← first]
  exact second

/-- Before the counter wraps around, epochs that come different numbers of epochs after another one differ. -/
theorem Later.unique {m n : Nat} {earlier later : Epoch} (one : Later m earlier later) (other : Later n earlier later)
    (first : m < UInt64.size) (second : n < UInt64.size) : m = n := by
  have same : UInt64.ofNat m = UInt64.ofNat n := by
    rw [← UInt64.add_right_inj earlier.count]
    exact one.symm.trans other
  rw [← UInt64.toNat_ofNat_of_lt' first, same, UInt64.toNat_ofNat_of_lt' second]

/-- An epoch comes at most some number of epochs after an earlier one. -/
def Within (n : Nat) (earlier later : Epoch) : Prop := ∃ m ≤ n, Later m earlier later

theorem Within.mono {m n : Nat} {earlier later : Epoch} (le : m ≤ n) (within : Within m earlier later) :
    Within n earlier later := by
  obtain ⟨count, most, moved⟩ := within
  exact ⟨count, Nat.le_trans most le, moved⟩

/-- Before the counter wraps around, no epoch comes back. -/
theorem Within.not_later {m n : Nat} {earlier later : Epoch} (within : Within m earlier later) (passed : m < n)
    (bounded : n < UInt64.size) : ¬ Later n earlier later := by
  intro moved
  obtain ⟨count, most, first⟩ := within
  have before : count < n := Nat.lt_of_le_of_lt most passed
  exact absurd (first.unique moved (Nat.lt_trans before bounded) bounded) (Nat.ne_of_lt before)

end Epoch

namespace Store

/-- What a step that starts a request hands out: the right to write its answer. -/
inductive Handle where
  | workflow (epoch : Epoch) (id : WorkflowId)
  | artifact (ticket : Ticket) (id : ArtifactId)
  | operator (ticket : Ticket) (id : OperatorId)
  | layout (epoch : Epoch) (dag : Dag)

namespace Handle

def ofFetch : NodeFetch → Handle
  | .artifact ticket id => .artifact ticket id
  | .operator ticket id => .operator ticket id

def epoch : Handle → Epoch
  | .workflow epoch _ | .layout epoch _ => epoch
  | .artifact ticket _ | .operator ticket _ => ticket.epoch

/-- The request that a handle was given out for. -/
abbrev request : Handle → Request
  | .workflow _ id => .getWorkflow id
  | .artifact ticket id => .getArtifactResult ticket.run id
  | .operator ticket id => .getOperatorResult ticket.run id
  | .layout _ dag => .getPositions (.ofDag dag)

/-- Writes an answer where the handle allows it, and tells whether it was still wanted. -/
def deliver (preferred : Option DagResultId) (s : Store) :
    (handle : Handle) → handle.request.Answer → Outcome Bool × Store
  | .workflow epoch _, answer => s.applyWorkflow epoch answer preferred
  | .artifact ticket id, answer =>
    let (accepted, s) := s.applyArtifactResult ticket id answer
    (.ok accepted, s)
  | .operator ticket id, answer =>
    let (accepted, s) := s.applyOperatorResult ticket id answer
    (.ok accepted, s)
  | .layout epoch _, answer =>
    let (accepted, s) := s.applyLayout epoch answer
    (.ok accepted, s)

/-- What a session writes for a fetch is the platform's answer to the request of its handle. -/
theorem deliver_ofFetch {σ : Type} (p : Platform σ) (x : σ) (fetch : NodeFetch)
    (preferred : Option DagResultId) (s : Store) :
    (ofFetch fetch).deliver preferred s (p.answer (ofFetch fetch).request x).1 =
      (s.applyReply (p.reply x fetch).1).map .ok id := by
  cases fetch with
  | artifact _ _ => rfl
  | operator _ _ => rfl

end Handle

/-- Anything that can be done to a store. -/
inductive Step where
  | beginWorkflow (id : WorkflowId)
  | beginNodeFetch (id : NodeId) (force : Bool)
  | beginNodeFetches (ids : List NodeId)
  | beginLayout
  | deliver (handle : Handle) (answer : handle.request.Answer) (preferred : Option DagResultId)
  | loadWorkflow (snapshot : Snapshot) (preferred : Option DagResultId)
  | selectResult (index : Nat)
  | clickNode (id : NodeId)
  | clickPane
  | teardown

namespace Step

/-- The store after a step. -/
def next : Step → Store → Store
  | .beginWorkflow id, s => (s.beginWorkflow id).2
  | .beginNodeFetch id force, s => (s.beginNodeFetch id force).2
  | .beginNodeFetches ids, s => (s.beginNodeFetches ids).2
  | .beginLayout, s => s.beginLayout.2
  | .deliver handle answer preferred, s => (handle.deliver preferred s answer).2
  | .loadWorkflow snapshot preferred, s => (s.loadWorkflow snapshot preferred).2
  | .selectResult index, s => (s.selectResult index).2
  | .clickNode id, s => (s.clickNode id).2
  | .clickPane, s => s.clickPane
  | .teardown, s => s.teardown

/-- The handles that a step gives out. -/
def handles : Step → Store → List Handle
  | .beginWorkflow id, s => [.workflow (s.beginWorkflow id).1 id]
  | .beginNodeFetch id force, s =>
    match (s.beginNodeFetch id force).1 with
    | .ok fetch => fetch.toList.map .ofFetch
    | .error _ => []
  | .beginNodeFetches ids, s =>
    match (s.beginNodeFetches ids).1 with
    | .ok fetches => fetches.map .ofFetch
    | .error _ => []
  | .beginLayout, s =>
    match s.beginLayout.1 with
    | .ok (epoch, dag) => [.layout epoch dag]
    | .error _ => []
  | _, _ => []

/-- The handle that a step uses. -/
def handle? : Step → Option Handle
  | .deliver handle _ _ => some handle
  | _ => none

theorem forall_of_unused {step : Step} {holds : Handle → Prop} (unused : step.handle? = none) :
    ∀ handle ∈ step.handle?, holds handle := by
  intro handle uses
  cases unused.symm.trans uses

/-- The snapshot that a step would load. -/
def snapshot? : Step → Option Snapshot
  | .deliver (.workflow _ _) (.ok snapshot) _ => some snapshot
  | .loadWorkflow snapshot _ => some snapshot
  | _ => none

/-- A step loads a snapshot that passes its checks, unless it brings it too late. -/
structure Loads (step : Step) (s : Store) (snapshot : Snapshot) : Prop where
  brings : step.snapshot? = some snapshot
  valid : snapshot.validate = .ok ()
  current : ∀ handle ∈ step.handle?, handle.epoch = s.epoch

end Step

end Store

end DagConsole

import DagConsole.Proofs.Store.Page

/-! Operations that fail leave a store as it was. Those of several parts check all they need before they change
anything, so that none of the parts can fail halfway. -/
namespace DagConsole.Store

variable {s t : Store} {e : Error} {id : NodeId} {ids : List NodeId}

/-- A run is selected, and all these nodes belong to the active version. -/
structure Fetchable (s : Store) (ids : List NodeId) : Prop where
  selected : s.selectedResult.isSome
  known : ∀ id ∈ ids, (s.nodeType? id).isSome

theorem SamePage.fetchable (same : SamePage s t) (fetchable : Fetchable s ids) : Fetchable t ids := by
  refine ⟨?_, ?_⟩
  · rw [same.selectedResult]
    exact fetchable.selected
  · intro id member
    rw [same.nodeType?]
    exact fetchable.known id member

theorem FetchStart.unchanged {force : Bool} (start : FetchStart s id force (.error e, t)) : t = s := by
  cases start with
  | unselected _ => rfl
  | foreign _ _ => rfl

theorem FetchStart.succeeds {force : Bool} {result : Outcome (Option NodeFetch) × Store}
    (start : FetchStart s id force result) (fetchable : Fetchable s (id :: ids)) :
    ∃ fetch t, result = (.ok fetch, t) := by
  cases start with
  | unselected missing =>
    have selected := fetchable.selected
    rw [missing] at selected
    cases selected
  | foreign _ unknown =>
    have known := fetchable.known id List.mem_cons_self
    rw [unknown] at known
    cases known
  | cached _ _ _ => exact ⟨_, _, rfl⟩
  | artifact _ _ _ _ => exact ⟨_, _, rfl⟩
  | operator _ _ _ _ => exact ⟨_, _, rfl⟩

/-- Starting a fetch changes neither the selected run nor the active version, so what was checked of the later
nodes still holds when it is their turn. -/
theorem beginEach_succeeds (fetchable : Fetchable s ids) :
    ∃ fetches t, s.beginEach ids = (.ok fetches, t) := by
  induction ids generalizing s with
  | nil => exact ⟨[], s, rfl⟩
  | cons id rest ih =>
    have start := beginNodeFetch_spec s id false
    obtain ⟨fetch, u, begun⟩ := start.succeeds fetchable
    rw [begun] at start
    have later : Fetchable u rest :=
      start.marking.same.fetchable ⟨fetchable.selected, (List.forall_mem_cons.mp fetchable.known).2⟩
    obtain ⟨fetches, t, others⟩ := ih later
    exact ⟨fetch.toList ++ fetches, t, by simp only [beginEach, begun, others]⟩

theorem beginNodeFetches_of_fetchable (fetchable : Fetchable s ids) :
    s.beginNodeFetches ids = s.beginEach ids := by
  have selected : s.selectedResult.isNone = false := Option.isNone_eq_false_iff.mpr fetchable.selected
  have known : (ids.find? fun id => (s.nodeType? id).isNone) = none := by
    apply List.find?_eq_none.mpr
    intro id member
    simpa [Option.isSome_iff_ne_none] using fetchable.known id member
  simp [beginNodeFetches, selected, known]

theorem beginNodeFetches_of_not_fetchable (unfetchable : ¬ Fetchable s ids) :
    ∃ e, s.beginNodeFetches ids = (.error e, s) := by
  unfold beginNodeFetches
  split
  · exact ⟨noSelectedResult, rfl⟩
  · rename_i selected
    split
    · exact ⟨_, rfl⟩
    · rename_i known
      refine absurd ⟨?_, ?_⟩ unfetchable
      · simpa [Option.isSome_iff_ne_none] using selected
      · intro id member
        simpa [Option.isSome_iff_ne_none] using List.find?_eq_none.mp known id member

theorem applyWorkflow_of_error {epoch : Epoch} {answer : Outcome Snapshot} {preferred : Option DagResultId}
    (failed : s.applyWorkflow epoch answer preferred = (.error e, t)) :
    t = { s with status := .failed e.text } := by
  by_cases current : s.epoch = epoch
  · subst epoch
    rw [applyWorkflow_of_current] at failed
    split at failed
    · cases failed
    · cases failed
      rfl
  · rw [applyWorkflow_of_stale current] at failed
    cases failed

theorem beginNodeFetch_of_error {force : Bool} (failed : s.beginNodeFetch id force = (.error e, t)) : t = s := by
  have start := beginNodeFetch_spec s id force
  rw [failed] at start
  exact start.unchanged

theorem beginNodeFetches_of_error (failed : s.beginNodeFetches ids = (.error e, t)) : t = s := by
  by_cases fetchable : Fetchable s ids
  · obtain ⟨fetches, u, begun⟩ := beginEach_succeeds fetchable
    rw [beginNodeFetches_of_fetchable fetchable, begun] at failed
    cases failed
  · obtain ⟨other, unchanged⟩ := beginNodeFetches_of_not_fetchable fetchable
    rw [unchanged] at failed
    cases failed
    rfl

theorem beginNodeFetches_ok_iff :
    (∃ fetches t, s.beginNodeFetches ids = (.ok fetches, t)) ↔ Fetchable s ids := by
  constructor
  · rintro ⟨fetches, t, begun⟩
    refine Classical.byContradiction fun unfetchable => ?_
    obtain ⟨e, failed⟩ := beginNodeFetches_of_not_fetchable unfetchable
    rw [failed] at begun
    cases begun
  · intro fetchable
    rw [beginNodeFetches_of_fetchable fetchable]
    exact beginEach_succeeds fetchable

section Loads

variable {snapshot : Snapshot} {preferred : Option DagResultId}

theorem loadWorkflow_of_error (failed : s.loadWorkflow snapshot preferred = (.error e, t)) : t = s := by
  cases checked : snapshot.validate with
  | error other =>
    rw [loadWorkflow_of_invalid checked] at failed
    cases failed
    rfl
  | ok _ =>
    rw [loadWorkflow_of_valid checked] at failed
    cases failed

theorem loadWorkflow_ok_iff :
    (∃ t, s.loadWorkflow snapshot preferred = (.ok (), t)) ↔ snapshot.validate = .ok () := by
  constructor
  · rintro ⟨t, loaded⟩
    cases checked : snapshot.validate with
    | error e =>
      rw [loadWorkflow_of_invalid checked] at loaded
      cases loaded
    | ok _ => rfl
  · exact fun valid => ⟨_, loadWorkflow_of_valid valid⟩

theorem selectResult_of_error {index : Nat} (failed : s.selectResult index = (.error e, t)) : t = s := by
  rcases selectResult_cases s index with ⟨other, unchanged⟩ | ⟨result, found, known⟩
  · rw [unchanged] at failed
    cases failed
    rfl
  · rw [selectResult_of_known found known] at failed
    cases failed

end Loads

theorem beginLayout_of_error (failed : s.beginLayout = (.error e, t)) : t = s := by
  unfold beginLayout at failed
  split at failed
  · cases failed
    rfl
  · cases failed

theorem clickNode_of_error (failed : s.clickNode id = (.error e, t)) : t = s := by
  unfold clickNode at failed
  split at failed
  · cases failed
    rfl
  · cases failed

/-- What operations that fail leave of a store, and where those of several parts cannot fail any more. -/
structure FailsAtomically (s : Store) : Prop where
  loadWorkflow : ∀ {snapshot preferred e t}, s.loadWorkflow snapshot preferred = (.error e, t) → t = s
  selectResult : ∀ {index e t}, s.selectResult index = (.error e, t) → t = s
  beginNodeFetch : ∀ {id force e t}, s.beginNodeFetch id force = (.error e, t) → t = s
  beginNodeFetches : ∀ {ids e t}, s.beginNodeFetches ids = (.error e, t) → t = s
  beginLayout : ∀ {e t}, s.beginLayout = (.error e, t) → t = s
  clickNode : ∀ {id e t}, s.clickNode id = (.error e, t) → t = s
  /-- The failure of a workflow request becomes the status, and nothing else changes. -/
  applyWorkflow : ∀ {epoch answer preferred e t},
    s.applyWorkflow epoch answer preferred = (.error e, t) → t = { s with status := .failed e.text }
  /-- A snapshot that has passed its checks is loaded, its initial run being selected. -/
  loads : ∀ {snapshot preferred},
    (∃ t, s.loadWorkflow snapshot preferred = (.ok (), t)) ↔ snapshot.validate = .ok ()
  /-- Fetches of nodes that have passed the check can all be started. -/
  fetches : ∀ {ids}, (∃ fetches t, s.beginNodeFetches ids = (.ok fetches, t)) ↔ Fetchable s ids

/-- Whatever a store holds, an operation that fails changes nothing but the status of the workflow, and that
only when the failure is that of a request. -/
theorem fails_atomically (s : Store) : FailsAtomically s where
  loadWorkflow := loadWorkflow_of_error
  selectResult := selectResult_of_error
  beginNodeFetch := beginNodeFetch_of_error
  beginNodeFetches := beginNodeFetches_of_error
  beginLayout := beginLayout_of_error
  clickNode := clickNode_of_error
  applyWorkflow := applyWorkflow_of_error
  loads := loadWorkflow_ok_iff
  fetches := beginNodeFetches_ok_iff

end DagConsole.Store

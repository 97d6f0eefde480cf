import DagConsole.Proofs.Store.Atomicity
import DagConsole.Proofs.Store.Slot

/-! What a step does to one slot. Unless it replaces what is shown, it leaves the slot as it is, starts one request
for it, or writes the answer to one. -/
namespace DagConsole.Store

section Starts

variable {s t u : Store} {id : NodeId} {force : Bool} {target : Target} {given others : List Handle}

/-- What starting fetches makes of a slot, in view of the handles given out for it. -/
inductive SlotStart (s t : Store) (given : List Handle) (force : Bool) (target : Target) : Prop where
  | kept (same : t.slot target = s.slot target) (unasked : ∀ handle ∈ given, handle.target ≠ target)
  | started (loading : t.slot target = .loading)
      (once : (given.countP fun handle => handle.target = target) = 1) (node : target.isNode)
      (needed : force = false → (s.slot target).needsFetch)

theorem SlotStart.trans (first : SlotStart s t given false target)
    (second : SlotStart t u others false target) : SlotStart s u (given ++ others) false target := by
  have count_zero {list : List Handle} (unasked : ∀ handle ∈ list, handle.target ≠ target) :
      (list.countP fun handle => handle.target = target) = 0 := by
    simpa [List.countP_eq_zero] using unasked
  cases first with
  | kept same unasked =>
    cases second with
    | kept same' unasked' =>
      exact .kept (same'.trans same) (List.forall_mem_append.mpr ⟨unasked, unasked'⟩)
    | started loading once node needed =>
      refine .started loading ?_ node (same ▸ needed)
      rw [List.countP_append, count_zero unasked, once]
  | started loading once node needed =>
    cases second with
    | kept same' unasked' =>
      refine .started (same'.trans loading) ?_ node needed
      rw [List.countP_append, once, count_zero unasked']
    | started _ _ _ needed' =>
      -- A slot that is loading needs no fetch, so it is not asked for twice.
      have again := needed' rfl
      rw [loading] at again
      cases again

theorem FetchStart.put {fetch : NodeFetch} (start : FetchStart s id force (.ok (some fetch), t)) :
    t = s.put (Handle.ofFetch fetch).target .loading ∧
      (force = false → (s.slot (Handle.ofFetch fetch).target).needsFetch) := by
  cases start with
  | artifact _ _ kind wanted =>
    refine ⟨rfl, fun unforced => ?_⟩
    rwa [unforced, Bool.false_or, Store.needsFetch, if_pos kind] at wanted
  | operator _ _ kind wanted =>
    refine ⟨rfl, fun unforced => ?_⟩
    rwa [unforced, Bool.false_or, Store.needsFetch, kind, if_neg Bool.false_ne_true] at wanted

theorem FetchStart.slotStart {fetch : Option NodeFetch} (start : FetchStart s id force (.ok fetch, t))
    (target : Target) : SlotStart s t (fetch.toList.map .ofFetch) force target := by
  cases fetch with
  | none =>
    cases start with
    | cached _ _ _ => exact .kept rfl (List.forall_mem_nil _)
  | some fetch =>
    obtain ⟨rfl, needed⟩ := start.put
    by_cases same : target = (Handle.ofFetch fetch).target
    · subst same
      exact .started (slot_put_self s _ _) (by simp) (Handle.isNode_ofFetch fetch) needed
    · exact .kept (slot_put_ne s _ same) (by simpa using Ne.symm same)

theorem beginEach_slotStart {ids : List NodeId} {fetches : List NodeFetch}
    (begun : s.beginEach ids = (.ok fetches, t)) (target : Target) :
    SlotStart s t (fetches.map .ofFetch) false target := by
  induction ids generalizing s fetches with
  | nil =>
    cases begun
    exact .kept rfl (List.forall_mem_nil _)
  | cons id rest ih =>
    have start := beginNodeFetch_spec s id false
    unfold beginEach at begun
    generalize s.beginNodeFetch id false = result at start begun
    rcases result with ⟨_ | fetch, u⟩
    · cases begun
    · dsimp only at begun
      rcases later : u.beginEach rest with ⟨_ | others, v⟩
      · rw [later] at begun
        cases begun
      · rw [later] at begun
        cases begun
        rw [List.map_append]
        exact (start.slotStart target).trans (ih later)

theorem beginNodeFetches_slotStart (s : Store) (ids : List NodeId) (target : Target) :
    SlotStart s (Step.next (.beginNodeFetches ids) s) (Step.handles (.beginNodeFetches ids) s) false target := by
  simp only [Step.next, Step.handles]
  by_cases fetchable : Fetchable s ids
  · obtain ⟨fetches, t, begun⟩ := beginEach_succeeds fetchable
    rw [beginNodeFetches_of_fetchable fetchable, begun]
    exact beginEach_slotStart begun target
  · obtain ⟨e, failed⟩ := beginNodeFetches_of_not_fetchable fetchable
    rw [failed]
    exact .kept rfl (List.forall_mem_nil _)

theorem beginNodeFetch_slotStart (s : Store) (id : NodeId) (force : Bool) (target : Target) :
    SlotStart s (Step.next (.beginNodeFetch id force) s) (Step.handles (.beginNodeFetch id force) s) force
      target := by
  have start := beginNodeFetch_spec s id force
  simp only [Step.next, Step.handles]
  generalize s.beginNodeFetch id force = result at start ⊢
  rcases result with ⟨_ | fetch, t⟩
  · rw [start.unchanged]
    exact .kept rfl (List.forall_mem_nil _)
  · exact start.slotStart target

end Starts

section Changes

variable {s : Store} {step : Step} {target : Target}

/-- Whether a step fetches even what is there or on its way. -/
def Step.isForced : Step → Bool
  | .beginNodeFetch _ force => force
  | _ => false

/-- What a step makes of a slot within an epoch, in view of the handles it gives out and uses. -/
inductive SlotChange (s : Store) (step : Step) (target : Target) : Prop where
  | kept (same : (step.next s).slot target = s.slot target)
      (unasked : ∀ handle ∈ step.handles s, handle.target ≠ target)
      (unused : ∀ handle ∈ step.handle?, s.wants handle → handle.target ≠ target)
  | started (loading : (step.next s).slot target = .loading)
      (once : ((step.handles s).countP fun handle => handle.target = target) = 1)
      (unused : step.handle? = none) (kind : target ≠ .workflow)
      (needed : step.isForced = false → target.isNode → (s.slot target).needsFetch)
  | settled {handle : Handle} (used : step.handle? = some handle) (wanted : s.wants handle)
      (written : handle.target = target) (filled : (step.next s).slot target ≠ .loading)

/-- What a step does that does not replace what is shown. -/
structure Keeps (s : Store) (step : Step) : Prop where
  page : SamePage s (step.next s)
  slots : ∀ target, SlotChange s step target

theorem SlotStart.change (start : SlotStart s (step.next s) (step.handles s) step.isForced target)
    (unused : step.handle? = none) : SlotChange s step target := by
  cases start with
  | kept same unasked => exact .kept same unasked (Step.forall_of_unused unused)
  | started loading once node needed =>
    refine .started loading once unused ?_ fun unforced _ => needed unforced
    rintro rfl
    cases node

theorem Keeps.of_same_slots (page : SamePage s (step.next s))
    (same : ∀ target, (step.next s).slot target = s.slot target) (unasked : step.handles s = [])
    (unwanted : ∀ handle ∈ step.handle?, s.wants handle = false) : Keeps s step := by
  refine ⟨page, fun target => .kept (same target) ?_ ?_⟩
  · rw [unasked]
    exact List.forall_mem_nil _
  · intro handle uses wanted
    rw [unwanted handle uses] at wanted
    cases wanted

theorem Keeps.of_unchanged (unchanged : step.next s = s) (unasked : step.handles s = [])
    (unwanted : ∀ handle ∈ step.handle?, s.wants handle = false) : Keeps s step := by
  refine .of_same_slots ?_ ?_ unasked unwanted
  · rw [unchanged]
    exact .refl s
  · intro target
    rw [unchanged]

theorem Keeps.of_written {handle : Handle} {answer : handle.request.Answer} {preferred : Option DagResultId}
    {slot : Loadable handle.target.Content} (wanted : s.wants handle) (filled : slot ≠ .loading)
    (written : (handle.deliver preferred s answer).2 = s.put handle.target slot) :
    Keeps s (.deliver handle answer preferred) := by
  have next : Step.next (.deliver handle answer preferred) s = s.put handle.target slot := written
  refine ⟨next ▸ page_put s _ _, fun target => ?_⟩
  by_cases same : target = handle.target
  · subst same
    refine .settled rfl wanted rfl ?_
    rwa [next, slot_put_self]
  · refine .kept ?_ (List.forall_mem_nil _) ?_
    · rw [next]
      exact slot_put_ne s slot same
    · intro used uses _
      cases uses
      exact Ne.symm same

theorem replaces_or_keeps_deliver (s : Store) (handle : Handle) (answer : handle.request.Answer)
    (preferred : Option DagResultId) : Replaces s (.deliver handle answer preferred) ∨
      Keeps s (.deliver handle answer preferred) := by
  cases wanted : s.wants handle with
  | false =>
    refine .inr (.of_unchanged ?_ rfl ?_)
    · simp only [Step.next, deliver_of_unwanted wanted]
    · intro used uses
      cases uses
      exact wanted
  | true =>
    by_cases kind : handle.target = .workflow
    · cases handle with
      | workflow epoch id =>
        obtain rfl : s.epoch = epoch := beq_iff_eq.mp wanted
        have outcome : s.applyWorkflow s.epoch answer preferred = _ := applyWorkflow_of_current
        split at outcome
        · exact .inl (.applyWorkflow (by rw [outcome]))
        · rename_i e _
          have failed : (.failed e.text : Loadable (Handle.workflow s.epoch id).target.Content) ≠ .loading :=
            Loadable.ofOutcome_ne_loading (.error e)
          refine .inr (.of_written wanted failed ?_)
          simp only [Handle.deliver, outcome]
          rfl
      | artifact _ _ | operator _ _ | layout _ _ => cases kind
    · obtain ⟨slot, filled, write⟩ := deliver_of_wanted kind answer
      exact .inr (.of_written wanted filled (by rw [write wanted]))

theorem keeps_beginLayout (s : Store) : Keeps s .beginLayout := by
  cases active : s.activeDag with
  | none =>
    have failed : s.beginLayout = (.error noActiveDag, s) := by simp only [beginLayout, active]
    refine .of_unchanged ?_ ?_ (Step.forall_of_unused rfl)
    · simp only [Step.next, failed]
    · simp only [Step.handles, failed]
  | some dag =>
    have begun : s.beginLayout = (.ok (s.epoch, dag), s.put .layout .loading) := by
      simp only [beginLayout, active]
      rfl
    have next : Step.next .beginLayout s = s.put .layout .loading := by simp only [Step.next, begun]
    have given : Step.handles .beginLayout s = [.layout s.epoch dag] := by simp only [Step.handles, begun]
    refine ⟨next ▸ page_put s _ _, fun target => ?_⟩
    by_cases same : target = .layout
    · subst same
      refine .started ?_ ?_ rfl (by decide) fun _ node => absurd node Bool.false_ne_true
      · rw [next, slot_put_self]
      · rw [given]
        rfl
    · refine .kept ?_ ?_ (Step.forall_of_unused rfl)
      · rw [next]
        exact slot_put_ne s _ same
      · rw [given]
        intro handle member
        cases List.mem_singleton.mp member
        exact Ne.symm same

/-- A step replaces what is shown, or each slot changes as it can within an epoch. -/
theorem replaces_or_keeps (s : Store) (step : Step) : Replaces s step ∨ Keeps s step := by
  cases step with
  | beginWorkflow id => exact .inl (.beginWorkflow id)
  | teardown => exact .inl .teardown
  | beginNodeFetch id force =>
    refine .inr ⟨(beginNodeFetch_spec s id force).marking.same, fun target => ?_⟩
    exact SlotStart.change (beginNodeFetch_slotStart s id force target) rfl
  | beginNodeFetches ids =>
    refine .inr ⟨(beginNodeFetches_marking ids s).same, fun target => ?_⟩
    exact SlotStart.change (beginNodeFetches_slotStart s ids target) rfl
  | beginLayout => exact .inr (keeps_beginLayout s)
  | deliver handle answer preferred => exact replaces_or_keeps_deliver s handle answer preferred
  | loadWorkflow snapshot preferred =>
    cases checked : snapshot.validate with
    | error e =>
      refine .inr (.of_unchanged ?_ rfl (Step.forall_of_unused rfl))
      simp only [Step.next, loadWorkflow_of_invalid checked]
    | ok _ => exact .inl (.loadWorkflow (by rw [loadWorkflow_of_valid checked]))
  | selectResult index =>
    rcases selectResult_cases s index with ⟨e, failed⟩ | ⟨result, found, known⟩
    · refine .inr (.of_unchanged ?_ rfl (Step.forall_of_unused rfl))
      simp only [Step.next, failed]
    · exact .inl (.selectResult (by rw [selectResult_of_known found known]))
  | clickNode id =>
    cases known : s.nodeType? id with
    | none =>
      refine .inr (.of_unchanged ?_ rfl (Step.forall_of_unused rfl))
      simp only [Step.next, clickNode, known]
    | some type =>
      have next : Step.next (.clickNode id) s = { s with selection := .ofNode id type } := by
        simp only [Step.next, clickNode, known]
      refine .inr (.of_same_slots ?_ ?_ rfl (Step.forall_of_unused rfl))
      · rw [next]
        exact ⟨rfl, rfl, rfl, rfl, rfl, rfl⟩
      · intro target
        rw [next]
        cases target <;> rfl
  | clickPane =>
    refine .inr (.of_same_slots ⟨rfl, rfl, rfl, rfl, rfl, rfl⟩ ?_ rfl (Step.forall_of_unused rfl))
    intro target
    cases target <;> rfl

end Changes

end DagConsole.Store

import DagConsole.Proofs.Store.InFlight

/-! Loading means in flight. Where no fetch is forced and no handle is used twice, a slot is loading just while
an answer to a request of the current epoch is awaited, and for a node there is then one such request only. -/
namespace DagConsole.Store

/-- The status is loading only since a workflow is being opened, and until runs of it are shown. -/
theorem Effect.loading {s t : Store} {step : Step} (effect : Effect s step t) (loading : t.status = .loading) :
    (∃ id, step = .beginWorkflow id) ∨ (s.status = .loading ∧ (SamePage s t ∨ s.results ≠ [])) := by
  cases effect with
  | beginWorkflow id => exact .inl ⟨id, rfl⟩
  | teardown | refuse _ | load _ _ => cases loading
  | selectResult found _ =>
    refine .inr ⟨loading, .inr ?_⟩
    intro none
    rw [none] at found
    cases found
  | stay => exact .inr ⟨loading, .inl (.refl s)⟩
  | mark marking => exact .inr ⟨marking.status.symm.trans loading, .inl marking.same⟩
  | waitForLayout _ | artifact _ | operator _ | layout | clickNode _ | clickPane =>
    exact .inr ⟨loading, .inl ⟨rfl, rfl, rfl, rfl, rfl, rfl⟩⟩

namespace History

variable {h later : History} {step : Step} {target : Target}

/-- No fetch is forced, and a handle is used only while its request is in flight. -/
structure Disciplined (h : History) (step : Step) : Prop where
  unforced : step.isForced = false
  inFlight : ∀ handle ∈ step.handle?, handle ∈ h.inFlight

theorem unforced_of_disciplined (reached : h.Reachable Disciplined) : h.Unforced h.handles := by
  induction reached with
  | start => exact .start
  | step _ permits ih => exact ih.after permits.unforced

theorem used_le (reached : h.Reachable Disciplined) : (h.used : Multiset Handle) ≤ h.handles := by
  classical
  induction reached with
  | start => exact le_refl _
  | @step h step _ permits ih =>
    apply Multiset.le_iff_count.mpr
    intro handle
    have before := Multiset.le_iff_count.mp ih handle
    have given : (h.after step).handles = step.handles h.store ++ h.handles := rfl
    simp only [Multiset.coe_count, used_after, given, List.count_append] at before ⊢
    cases used : step.handle? with
    | none =>
      rw [Option.toList_none, List.count_nil]
      omega
    | some other =>
      have there := mem_unused.mp (permits.inFlight other used)
      rw [Option.toList_some, List.count_singleton]
      split
      · rename_i same
        rw [beq_iff_eq.mp same] at there
        omega
      · omega

/-- What is loading was requested and has not been answered. -/
theorem inFlight_of_loading (reached : h.Reachable Disciplined) (bounded : h.epochs < UInt64.size)
    (kind : target ≠ .workflow) (loading : h.store.slot target = .loading) :
    ∃ handle ∈ h.inFlight, handle.Requests h.store.epoch target := by
  induction reached with
  | start =>
    cases target with
    | workflow => exact absurd rfl kind
    | artifact _ | operator _ | layout => cases loading
  | @step h step earlier permits ih =>
    have before := epochs_lt_of_after bounded
    rcases replaces_or_keeps h.store step with replaces | keeps
    · rw [store_after, replaces.restart.slot kind] at loading
      cases loading
    · rw [store_after, keeps.page.epoch]
      cases keeps.slots target with
      | kept same _ unused =>
        obtain ⟨handle, there, current, requested⟩ := ih before (same.symm.trans loading)
        have fits := (earlier.timely before).fits handle (mem_of_mem_unused there) current
        refine ⟨handle, mem_unused_after there ?_, current, requested⟩
        intro used
        exact unused handle used (wants_of_fits current fits) requested
      | started _ once unused _ _ =>
        have some : 0 < (step.handles h.store).countP fun handle => handle.target = target := once ▸ Nat.one_pos
        obtain ⟨handle, asked, requested⟩ := List.countP_pos_iff.mp some
        refine ⟨handle, mem_unused_of_asked (used_le earlier) unused asked, ?_, of_decide_eq_true requested⟩
        exact (fits_of_given asked).1.trans keeps.page.epoch
      | settled _ _ _ filled => exact absurd loading filled

/-- Nothing is shown yet, and no answer to the request for the workflow has been used. -/
structure Opening (h : History) : Prop where
  blank : h.store.results = []
  asked : ∃ id, h.store.workflow = some id ∧ .workflow h.store.epoch id ∈ h.handles
  unanswered : ∀ handle ∈ h.used, ¬ handle.Requests h.store.epoch .workflow

theorem Opening.after (opening : h.Opening) (same : SamePage h.store (step.next h.store))
    (unused : ∀ handle ∈ step.handle?, h.store.wants handle → handle.target ≠ .workflow) :
    (h.after step).Opening where
  blank := same.results.trans opening.blank
  asked := by
    obtain ⟨id, shown, given⟩ := opening.asked
    refine ⟨id, same.workflow.trans shown, ?_⟩
    rw [store_after, same.epoch]
    exact List.mem_append_right _ given
  unanswered := by
    intro handle member requests
    rw [store_after, same.epoch] at requests
    rw [used_after] at member
    rcases List.mem_append.mp member with now | before
    · -- A request for a workflow is answered once it is of this epoch.
      have wanted : h.store.wants handle := by
        obtain ⟨current, kind⟩ := requests
        cases handle with
        | workflow epoch id => exact beq_iff_eq.mpr current.symm
        | artifact _ _ | operator _ _ | layout _ _ => cases kind
      exact unused handle (Option.mem_toList.mp now) wanted requests.2
    · exact opening.unanswered handle before requests

theorem opening_of_loading (reached : h.Reachable Disciplined) (bounded : h.epochs < UInt64.size)
    (loading : h.store.status = .loading) : h.Opening := by
  induction reached with
  | start => cases loading
  | @step h step earlier permits ih =>
    have before := epochs_lt_of_after bounded
    have timely := earlier.timely before
    rcases (effect step h.store).loading loading with ⟨id, rfl⟩ | ⟨already, same | shown⟩
    · refine ⟨rfl, ⟨id, rfl, List.mem_cons_self⟩, ?_⟩
      intro handle member requests
      have given := (Multiset.coe_subset.mp (Multiset.subset_of_le (used_le earlier))) member
      exact timely.stale_after (timely.after _ bounded) (Replaces.beginWorkflow id).restart given requests.1
    · rcases replaces_or_keeps h.store step with replaces | keeps
      · have moved := replaces.restart.since_pos
        rw [same.epoch, Epoch.since_self] at moved
        exact absurd moved (Nat.lt_irrefl 0)
      · cases keeps.slots .workflow with
        | kept _ _ unused => exact (ih before already).after same unused
        | started _ _ _ kind _ => exact absurd rfl kind
        | settled _ _ _ filled => exact absurd (congrArg Loadable.ofStatus loading) filled
    · exact absurd (ih before already).blank shown

theorem Opening.inFlight (opening : h.Opening) : ∃ id, h.store.workflow = some id ∧
    .workflow h.store.epoch id ∈ h.inFlight := by
  classical
  obtain ⟨id, shown, given⟩ := opening.asked
  refine ⟨id, shown, mem_unused.mpr ?_⟩
  rw [List.count_eq_zero.mpr fun used => opening.unanswered _ used ⟨rfl, rfl⟩]
  exact List.count_pos_iff.mpr given

/-- A result that is there stays, and is not asked for again, as long as the epoch lasts. -/
theorem succeeded_kept {value : target.Content} (reached : h.Reachable Disciplined)
    (bounded : h.epochs < UInt64.size) (node : target.isNode) (there : h.store.slot target = .succeeded value)
    (continued : h.Continues Disciplined later) (same : later.epochs = h.epochs) :
    later.store.slot target = .succeeded value ∧
      ∃ given, later.handles = given ++ h.handles ∧ ∀ handle ∈ given, handle.target ≠ target := by
  induction continued with
  | refl => exact ⟨there, [], rfl, List.forall_mem_nil _⟩
  | @step later step before permits ih =>
    have stays : later.epochs = h.epochs :=
      Nat.le_antisymm (same ▸ Nat.le_add_right _ _) before.epochs_le
    obtain ⟨kept, given, handles, apart⟩ := ih stays
    rcases replaces_or_keeps later.store step with replaces | keeps
    · have moved : later.epochs < (later.after step).epochs :=
        Nat.lt_add_of_pos_right replaces.restart.since_pos
      exact absurd (same.trans stays.symm) (Nat.ne_of_gt moved)
    · cases keeps.slots target with
      | kept unchanged unasked _ =>
        refine ⟨unchanged.trans kept, step.handles later.store ++ given, ?_, ?_⟩
        · rw [List.append_assoc, ← handles]
          rfl
        · exact List.forall_mem_append.mpr ⟨unasked, apart⟩
      | started _ _ _ _ needed =>
        have wanted := needed permits.unforced node
        rw [kept] at wanted
        cases wanted
      | settled used wanted written _ =>
        -- The handle that would be written with is still in flight, but the slot is not loading.
        have single := (unforced_of_disciplined (reached.continues before)).single (stays ▸ bounded) node
        have filled : later.store.slot target ≠ .loading := by
          intro loading
          rw [kept] at loading
          cases loading
        have none := current_eq_zero_iff.mp (single.idle filled)
        exact absurd written (none _ (permits.inFlight _ used) (epoch_of_wants wanted))

/-- What the slots of a store say about the requests of its epoch that are in flight. -/
structure LoadingInFlight (h : History) : Prop where
  /-- The slot of a node is loading just when one fetch of it is in flight, and else none is. -/
  node : ∀ {target}, target.isNode →
    (h.store.slot target = .loading ↔ h.current target h.inFlight = 1)
  idle : ∀ {target}, target.isNode → h.store.slot target ≠ .loading → h.current target h.inFlight = 0
  /-- A result stays, and is not fetched again, until the next epoch begins. -/
  kept : ∀ {target value later}, target.isNode → h.store.slot target = .succeeded value →
    h.Continues Disciplined later → later.epochs = h.epochs → later.store.slot target = .succeeded value ∧
      ∃ given, later.handles = given ++ h.handles ∧ ∀ handle ∈ given, handle.target ≠ target
  layout : h.store.layout = .loading → ∃ dag, .layout h.store.epoch dag ∈ h.inFlight
  workflow : h.store.status = .loading → (∃ id, .workflow h.store.epoch id ∈ h.inFlight) ∧
    ∀ handle ∈ h.used, ¬ handle.Requests h.store.epoch .workflow
  /-- When nothing is in flight, nothing is loading. -/
  quiet : (∀ handle ∈ h.inFlight, handle.epoch ≠ h.store.epoch) →
    ∀ target, h.store.slot target ≠ .loading

/-- Loading means in flight, and nothing is fetched twice. -/
theorem loading_in_flight_of_reachable (reached : h.Reachable Disciplined) (bounded : h.epochs < UInt64.size) :
    LoadingInFlight h where
  node {target} node := by
    have single := (unforced_of_disciplined reached).single bounded node
    constructor
    · intro loading
      have kind : target ≠ .workflow := by
        rintro rfl
        cases node
      obtain ⟨handle, there, requests⟩ := inFlight_of_loading reached bounded kind loading
      exact Nat.le_antisymm single.once (Multiset.countP_pos_of_mem there requests)
    · intro one
      refine Classical.byContradiction fun idle => ?_
      exact absurd ((single.idle idle).symm.trans one) Nat.zero_ne_one
  idle node := ((unforced_of_disciplined reached).single bounded node).idle
  kept node there := succeeded_kept reached bounded node there
  layout loading := by
    have kind : Target.layout ≠ .workflow := by decide
    obtain ⟨handle, there, epoch, requested⟩ := inFlight_of_loading reached bounded kind loading
    cases handle with
    | layout other dag =>
      cases epoch
      exact ⟨dag, there⟩
    | workflow _ _ | artifact _ _ | operator _ _ => cases requested
  workflow loading := by
    have opening := opening_of_loading reached bounded loading
    obtain ⟨id, _, there⟩ := opening.inFlight
    exact ⟨⟨id, there⟩, opening.unanswered⟩
  quiet none target loading := by
    by_cases kind : target = .workflow
    · subst kind
      have status : h.store.status = .loading := by
        have same := congrArg Loadable.status loading
        rwa [Store.slot, Loadable.status_ofStatus] at same
      obtain ⟨id, _, there⟩ := (opening_of_loading reached bounded status).inFlight
      exact none _ there rfl
    · obtain ⟨handle, there, requests⟩ := inFlight_of_loading reached bounded kind loading
      exact none handle there requests.1

/-- What is asked for can be answered at once. -/
theorem reachable_answered {handle : Handle} (reached : h.Reachable Disciplined) (unforced : step.isForced = false)
    (unused : step.handle? = none) (given : handle ∈ step.handles h.store) (answer : handle.request.Answer)
    (preferred : Option DagResultId) :
    ((h.after step).after (.deliver handle answer preferred)).Reachable Disciplined := by
  have asked : (h.after step).Reachable Disciplined :=
    reached.step ⟨unforced, Step.forall_of_unused unused⟩
  refine asked.step ⟨rfl, ?_⟩
  intro used uses
  cases uses
  exact mem_unused_of_asked (used_le reached) unused given

/-- When the run is selected once more, its output is fetched anew, once. -/
theorem loading_in_flight_reselected :
    let h := (opened.after (.selectResult 0)).after (.beginNodeFetch ⟨4⟩ false)
    h.Reachable Disciplined ∧ h.epochs < UInt64.size ∧ h.store.slot (.artifact ⟨4⟩) = .loading ∧
      h.current (.artifact ⟨4⟩) h.inFlight = 1 := by
  have opened : opened.Reachable Disciplined := by
    apply reachable_answered _ rfl rfl List.mem_cons_self
    apply reachable_answered _ rfl rfl List.mem_cons_self
    exact reachable_answered .start rfl rfl List.mem_cons_self _ _
  have selected : (History.opened.after (.selectResult 0)).Reachable Disciplined :=
    opened.step ⟨rfl, Step.forall_of_unused rfl⟩
  have reached : ((History.opened.after (.selectResult 0)).after (.beginNodeFetch ⟨4⟩ false)).Reachable
      Disciplined :=
    selected.step ⟨rfl, Step.forall_of_unused rfl⟩
  have bounded : ((History.opened.after (.selectResult 0)).after (.beginNodeFetch ⟨4⟩ false)).epochs <
      UInt64.size := by
    decide
  exact ⟨reached, bounded, rfl, ((loading_in_flight_of_reachable reached bounded).node rfl).mp rfl⟩

end History

end DagConsole.Store

import DagConsole.Proofs.Store.InFlight

/-! The order of answers. Answers for different slots can be exchanged, and whether they are wanted does not depend on
what the slots hold, so it does not matter which of them comes first, nor what is clicked in between. Of two answers for
one slot the later one counts; without force no two are asked for in an epoch. -/
namespace DagConsole.Store

namespace Step

/-- Something is clicked, be it a node or the pane. -/
def isClick : Step → Bool
  | .clickNode _ | .clickPane => true
  | _ => false

/-- An answer to a request for a node or a layout is brought. -/
def Answers (step : Step) : Prop := ∃ handle ∈ step.handle?, handle.target ≠ .workflow

/-- What is reported about an answer that a step brings: whether it was wanted. -/
def verdict? (s : Store) : Step → Option (Outcome Bool)
  | .deliver handle answer preferred => some (handle.deliver preferred s answer).1
  | _ => none

/-- The store after several steps, the first of them first. -/
def run : List Step → Store → Store
  | [], s => s
  | step :: rest, s => run rest (step.next s)

/-- What is reported about the answers that several steps bring. -/
def verdicts : List Step → Store → List (Step × Outcome Bool)
  | [], _ => []
  | step :: rest, s => (step.verdict? s).toList.map (step, ·) ++ verdicts rest (step.next s)

variable {s t : Store} {step other : Step} {steps one two : List Step}

section Answers

variable {handle otherHandle : Handle} {slot : Loadable handle.target.Content}
  {otherSlot : Loadable otherHandle.target.Content}

/-- A step that fills a slot when its handle is wanted, and with the same whatever else the store holds. -/
structure Fills (step : Step) (handle : Handle) (slot : Loadable handle.target.Content) : Prop where
  next : ∀ s, step.next s = if s.wants handle then s.put handle.target slot else s
  verdict : ∀ s, step.verdict? s = some (.ok (s.wants handle))

theorem Answers.fills (answers : step.Answers) :
    ∃ handle slot, step.handle? = some handle ∧ step.Fills handle slot := by
  obtain ⟨handle, uses, kind⟩ := answers
  cases step with
  | deliver _ answer preferred =>
    cases uses
    obtain ⟨slot, _, write⟩ := deliver_of_wanted kind answer
    refine ⟨handle, slot, rfl, ?_, ?_⟩
    · intro s
      split
      · rename_i wanted
        simp only [Step.next, write wanted]
      · rename_i unwanted
        simp only [Step.next, deliver_of_unwanted (Bool.eq_false_iff.mpr unwanted)]
    · intro s
      cases wanted : s.wants handle with
      | true => simp only [verdict?, write wanted]
      | false => simp only [verdict?, deliver_of_unwanted wanted]
  | _ => cases uses

theorem Fills.page (fills : step.Fills handle slot) (s : Store) : SamePage s (step.next s) := by
  rw [fills.next]
  split
  · exact page_put s _ _
  · exact .refl s

/-- Two answers can be exchanged if not both of them are wanted for one slot. -/
theorem Fills.comm (fills : step.Fills handle slot) (otherFills : other.Fills otherHandle otherSlot)
    (apart : s.wants handle → s.wants otherHandle → handle.target ≠ otherHandle.target) :
    other.next (step.next s) = step.next (other.next s) := by
  rw [otherFills.next (step.next s), (fills.page s).wants, fills.next (other.next s),
    (otherFills.page s).wants, fills.next, otherFills.next]
  by_cases wanted : s.wants handle
  · by_cases otherWanted : s.wants otherHandle
    · rw [if_pos wanted, if_pos otherWanted, if_pos otherWanted, if_pos wanted]
      exact put_comm s (apart wanted otherWanted) _ _
    · simp only [if_neg otherWanted]
  · simp only [if_neg wanted]

end Answers

section Clicks

/-- What a click does is told by the page alone. -/
theorem next_of_click (click : step.isClick) (s : Store) : (∀ t, SamePage s t → step.next t = t) ∨
    ∃ selection, ∀ t, SamePage s t → step.next t = { t with selection } := by
  cases step with
  | clickNode id =>
    cases known : s.nodeType? id with
    | none =>
      refine .inl fun t same => ?_
      simp only [Step.next, Store.clickNode, same.nodeType?, known]
    | some type =>
      refine .inr ⟨.ofNode id type, fun t same => ?_⟩
      simp only [Step.next, Store.clickNode, same.nodeType?, known]
  | clickPane => exact .inr ⟨{}, fun _ _ => rfl⟩
  | _ => cases click

theorem page_of_click (click : step.isClick) (s : Store) : SamePage s (step.next s) := by
  rcases next_of_click click s with unchanged | ⟨selection, selected⟩
  · rw [unchanged s (.refl s)]
    exact .refl s
  · rw [selected s (.refl s)]
    exact ⟨rfl, rfl, rfl, rfl, rfl, rfl⟩

theorem Fills.click_comm {handle : Handle} {slot : Loadable handle.target.Content}
    (fills : step.Fills handle slot) (click : other.isClick) (s : Store) :
    other.next (step.next s) = step.next (other.next s) := by
  rcases next_of_click click s with unchanged | ⟨selection, selected⟩
  · rw [unchanged s (.refl s), unchanged _ (fills.page s)]
  · rw [selected s (.refl s), selected _ (fills.page s), fills.next, fills.next]
    have same : SamePage s { s with selection } := ⟨rfl, rfl, rfl, rfl, rfl, rfl⟩
    rw [same.wants]
    split
    · cases handle <;> rfl
    · rfl

end Clicks

theorem page_of_kind (kind : step.isClick ∨ step.Answers) (s : Store) : SamePage s (step.next s) := by
  rcases kind with click | answers
  · exact page_of_click click s
  · obtain ⟨handle, slot, _, fills⟩ := answers.fills
    exact fills.page s

theorem kind_of_uses (kind : step.isClick ∨ step.Answers) {handle : Handle} (uses : step.handle? = some handle) :
    handle.target ≠ .workflow := by
  rcases kind with click | ⟨answered, answers, kind⟩
  · cases step with
    | deliver _ _ _ => cases click
    | _ => cases uses
  · cases answers.symm.trans uses
    exact kind

section Runs

theorem page_of_run (kinds : ∀ step ∈ steps, step.isClick ∨ step.Answers) (s : Store) :
    SamePage s (run steps s) := by
  induction steps generalizing s with
  | nil => exact .refl s
  | cons step rest ih =>
    have ⟨kind, kinds⟩ := List.forall_mem_cons.mp kinds
    exact (page_of_kind kind s).trans (ih kinds _)

/-- Whether an answer is wanted is settled before any of them has come. -/
theorem verdicts_eq (kinds : ∀ step ∈ steps, step.isClick ∨ step.Answers) (s : Store) : verdicts steps s =
    steps.filterMap fun step => step.handle?.map fun handle => (step, .ok (s.wants handle)) := by
  induction steps generalizing s with
  | nil => rfl
  | cons step rest ih =>
    have ⟨kind, kinds⟩ := List.forall_mem_cons.mp kinds
    have later := ih kinds (step.next s)
    simp only [(page_of_kind kind s).wants] at later
    rw [verdicts, later]
    rcases kind with click | answers
    · cases step with
      | clickNode _ | clickPane => rfl
      | _ => cases click
    · obtain ⟨handle, slot, uses, fills⟩ := answers.fills
      simp [fills.verdict, uses]

theorem run_clicks_comm {handle : Handle} {slot : Loadable handle.target.Content}
    (fills : step.Fills handle slot) (clicks : ∀ step ∈ steps, step.isClick) (s : Store) :
    run steps (step.next s) = step.next (run steps s) := by
  induction steps generalizing s with
  | nil => rfl
  | cons click rest ih =>
    have ⟨first, clicks⟩ := List.forall_mem_cons.mp clicks
    rw [run, run, fills.click_comm first]
    exact ih clicks _

/-- What is clicked may as well be clicked before any answer comes. -/
theorem run_clicks_first (kinds : ∀ step ∈ steps, step.isClick ∨ step.Answers) (s : Store) :
    run steps s = run (steps.filter fun step => !step.isClick) (run (steps.filter isClick) s) := by
  induction steps generalizing s with
  | nil => rfl
  | cons step rest ih =>
    have ⟨kind, kinds⟩ := List.forall_mem_cons.mp kinds
    rw [run, ih kinds]
    cases click : step.isClick with
    | true => simp [click, run]
    | false =>
      obtain ⟨handle, slot, _, fills⟩ := (kind.resolve_left (Bool.eq_false_iff.mp click)).fills
      rw [run_clicks_comm fills fun _ member => (List.mem_filter.mp member).2]
      simp [click, run]

/-- Not both of two steps fill one slot. -/
def Apart (s : Store) (step other : Step) : Prop := ∀ handle ∈ step.handle?, ∀ otherHandle ∈ other.handle?,
  s.wants handle → s.wants otherHandle → handle.target ≠ otherHandle.target

theorem Apart.symm (apart : Apart s step other) : Apart s other step :=
  fun handle uses otherHandle otherUses wanted otherWanted =>
    (apart otherHandle otherUses handle uses otherWanted wanted).symm

theorem Apart.of_same (same : SamePage s t) (apart : Apart s step other) : Apart t step other := by
  intro handle uses otherHandle otherUses wanted otherWanted
  rw [same.wants] at wanted otherWanted
  exact apart handle uses otherHandle otherUses wanted otherWanted

theorem run_perm (moved : one.Perm two) (answers : ∀ step ∈ one, step.Answers)
    (apart : one.Pairwise (Apart s)) : run one s = run two s := by
  induction moved generalizing s with
  | nil => rfl
  | cons step _ ih =>
    have ⟨first, answers⟩ := List.forall_mem_cons.mp answers
    have same := page_of_kind (.inr first) s
    exact ih answers ((List.pairwise_cons.mp apart).2.imp (Apart.of_same same))
  | swap step other rest =>
    have ⟨otherAnswers, answers⟩ := List.forall_mem_cons.mp answers
    obtain ⟨_, _, otherUses, otherFills⟩ := otherAnswers.fills
    obtain ⟨_, _, uses, fills⟩ := (List.forall_mem_cons.mp answers).1.fills
    have different := (List.pairwise_cons.mp apart).1 step List.mem_cons_self
    rw [run, run, run, run, otherFills.comm fills (different _ otherUses _ uses)]
  | trans first _ ih ih' =>
    rw [ih answers apart]
    exact ih' (fun step member => answers step (first.mem_iff.mpr member))
      ((first.pairwise_iff Apart.symm).mp apart)

end Runs

end Step

namespace History

variable {h : History} {given handles : List Handle} {handle otherHandle : Handle} {one other : List Step}

theorem two_le_current (both : [handle, otherHandle].Sublist handles) (wanted : h.store.wants handle)
    (otherWanted : h.store.wants otherHandle) (same : handle.target = otherHandle.target) :
    2 ≤ h.current handle.target handles := by
  have requests : handle.Requests h.store.epoch handle.target := ⟨epoch_of_wants wanted, rfl⟩
  have otherRequests : otherHandle.Requests h.store.epoch handle.target :=
    ⟨epoch_of_wants otherWanted, same.symm⟩
  have two : Multiset.countP (Handle.Requests h.store.epoch handle.target)
      ([handle, otherHandle] : List Handle) = 2 := by
    simp [requests, otherRequests]
  rw [← two]
  exact Multiset.countP_le_of_le _ (Multiset.coe_le.mpr both.subperm)

/-- Where at most one of some handles is for each slot, no two of them are wanted for the same. -/
theorem apart_of_current (once : ∀ target ≠ .workflow, h.current target handles ≤ 1)
    (both : [handle, otherHandle].Sublist handles) (kind : handle.target ≠ .workflow)
    (wanted : h.store.wants handle) (otherWanted : h.store.wants otherHandle) :
    handle.target ≠ otherHandle.target := by
  intro same
  have twice := two_le_current both wanted otherWanted same
  exact absurd (Nat.le_trans twice (once _ kind)) (Nat.not_succ_le_self 1)

/-- Of steps that bring at most one answer for each slot no two fill the same. -/
theorem pairwise_apart (once : ∀ target ≠ .workflow, h.current target (one.filterMap Step.handle?) ≤ 1)
    (kinds : ∀ step ∈ one, step.isClick ∨ step.Answers) : one.Pairwise (Step.Apart h.store) := by
  apply List.pairwise_filterMap.mp
  apply List.pairwise_iff_forall_sublist.mpr
  intro handle otherHandle both
  obtain ⟨step, member, uses⟩ := List.mem_filterMap.mp (both.subset List.mem_cons_self)
  exact apart_of_current once both (Step.kind_of_uses (kinds step member) uses)

/-- Answers to requests in flight, at most one of them for a layout of the current epoch, lead to the same store in any
order, and each is reported to be wanted or not as in any other order; clicks, in an order of their own, may come
anywhere between them. Two answers for one node must not both be of the current epoch if a fetch of the node was forced
in it; if none was, there cannot be two, as long as epochs have not repeated. -/
theorem order_irrelevant (unforced : h.Unforced given)
    (pending : (one.filterMap Step.handle? : Multiset Handle) ≤ h.inFlight)
    (layout : h.current .layout (one.filterMap Step.handle?) ≤ 1)
    (nodes : ∀ target, target.isNode → 0 < h.current target (h.forced given) ∨ UInt64.size ≤ h.epochs →
      h.current target (one.filterMap Step.handle?) ≤ 1)
    (kinds : ∀ step ∈ one, step.isClick ∨ step.Answers) (moved : one.Perm other)
    (clicks : one.filter Step.isClick = other.filter Step.isClick) :
    Step.run one h.store = Step.run other h.store ∧
      (Step.verdicts one h.store).Perm (Step.verdicts other h.store) := by
  have otherKinds : ∀ step ∈ other, step.isClick ∨ step.Answers :=
    fun step member => kinds step (moved.mem_iff.mpr member)
  constructor
  · have answers : ∀ step ∈ one.filter fun step => !step.isClick, step.Answers := by
      intro step member
      obtain ⟨member, unclicked⟩ := List.mem_filter.mp member
      exact (kinds step member).resolve_left (by simpa using unclicked)
    have same : SamePage h.store (Step.run (one.filter Step.isClick) h.store) :=
      Step.page_of_run (fun step member => .inl (List.mem_filter.mp member).2) h.store
    have once : ∀ target ≠ .workflow, h.current target (one.filterMap Step.handle?) ≤ 1 := by
      intro target kind
      cases target with
      | workflow => exact absurd rfl kind
      | layout => exact layout
      | artifact id => exact unforced.current_le_one pending rfl (nodes (.artifact id) rfl)
      | operator id => exact unforced.current_le_one pending rfl (nodes (.operator id) rfl)
    rw [Step.run_clicks_first kinds, Step.run_clicks_first otherKinds, ← clicks]
    exact Step.run_perm (moved.filter _) answers
      (((pairwise_apart once kinds).filter _).imp (Step.Apart.of_same same))
  · rw [Step.verdicts_eq kinds, Step.verdicts_eq otherKinds]
    exact moved.filterMap _

theorem unforced_opened : opened.Unforced opened.handles :=
  (((((Unforced.start.after rfl).after rfl).after rfl).after rfl).after rfl).after rfl

/-- After the run is selected anew and the fetch of a node forced, an answer for the earlier selection and three for
this one are brought, and the node is clicked in between. -/
theorem order_irrelevant_reselected :
    let given := opened
      |>.after (.beginNodeFetch ⟨3⟩ false)
      |>.after (.selectResult 0)
      |>.after (.beginNodeFetches [⟨4⟩, ⟨2⟩])
      |>.after .beginLayout
    let h := given.after (.beginNodeFetch ⟨4⟩ true)
    let brought : List Step := [
      .deliver (.layout ⟨4⟩ Dag.checkedTable) (.ok {}) none,
      .deliver (.artifact ⟨⟨4⟩, ⟨7⟩⟩ ⟨4⟩) (.ok (.ofContent .bool .json "true")) none,
      .clickNode ⟨4⟩,
      .deliver (.operator ⟨⟨4⟩, ⟨7⟩⟩ ⟨2⟩) (.error (.invalidInput "gone")) none,
      .deliver (.artifact ⟨⟨3⟩, ⟨7⟩⟩ ⟨3⟩) (.error (.invalidInput "late")) none]
    h.Unforced given.handles ∧ (brought.filterMap Step.handle? : Multiset Handle) ≤ h.inFlight ∧
      Step.run brought h.store = Step.run brought.reverse h.store ∧
      (Step.verdicts brought h.store).Perm (Step.verdicts brought.reverse h.store) := by
  intro given h brought
  have unforced : h.Unforced given.handles :=
    ((((unforced_opened.after rfl).after rfl).after rfl).after rfl).step (.beginNodeFetch ⟨4⟩ true)
  have pending : (brought.filterMap Step.handle? : Multiset Handle) ≤ h.inFlight :=
    le_inFlight_of_add_le (Multiset.coe_le.mpr (List.sublist_cons_self _ given.handles).subperm)
  have once : ∀ target, h.current target (brought.filterMap Step.handle?) ≤ 1 :=
    current_le_one_of_targets (by decide)
  have kinds : ∀ step ∈ brought, step.isClick ∨ step.Answers := by
    simp [brought, Step.isClick, Step.Answers, Step.handle?, Handle.target]
  exact ⟨unforced, pending, order_irrelevant unforced pending (once _) (fun target _ _ => once target) kinds
    (List.reverse_perm _).symm rfl⟩

/-- A node is fetched, a forced fetch of it joins, and fails, and the node is fetched again: then two fetches that were
not forced are in flight at once, and the one that is answered last is the one that is shown. -/
theorem order_matters_refetched :
    let fetch : Handle := .artifact ⟨⟨3⟩, ⟨7⟩⟩ ⟨3⟩
    let h := opened
      |>.after (.beginNodeFetch ⟨3⟩ false)
      |>.after (.beginNodeFetch ⟨3⟩ true)
      |>.after (.deliver fetch (.error (.invalidInput "lost")) none)
      |>.after (.beginNodeFetch ⟨3⟩ false)
    let early : Step := .deliver fetch (.ok (.ofContent .table .json "[]")) none
    let late : Step := .deliver fetch (.error (.invalidInput "late")) none
    h.Unforced (fetch :: fetch :: opened.handles) ∧ ([fetch, fetch] : Multiset Handle) ≤ h.inFlight ∧
      Step.run [early, late] h.store ≠ Step.run [late, early] h.store := by
  intro fetch h early late
  refine ⟨?_, ?_, ?_⟩
  · exact (((unforced_opened.after rfl).step (.beginNodeFetch ⟨3⟩ true)).after rfl).after rfl
  · exact le_inFlight_of_add_le (le_of_eq rfl)
  · intro same
    have shown : Loadable.failed _ = Loadable.succeeded _ := congrArg (Store.slot · fetch.target) same
    cases shown

end History

end DagConsole.Store

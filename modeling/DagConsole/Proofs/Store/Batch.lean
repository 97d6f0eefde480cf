import DagConsole.Proofs.Store.SlotChange

/-! Fetches that are started together: which nodes are asked for, and what that makes of the slots. -/
namespace DagConsole.Store

/-- Where the result of a node of the active version is kept. -/
def target? (s : Store) (id : NodeId) : Option Target :=
  (s.nodeType? id).map fun type => if type.isArtifact then .artifact id.artifact else .operator id.operator

/-- The slots of some nodes that are still to be filled, in the order in which they are first mentioned. -/
def lacking (s : Store) (ids : List NodeId) : List Target :=
  ((ids.filterMap s.target?).filter fun target => (s.slot target).needsFetch).eraseDups

variable {s t : Store} {id : NodeId} {ids : List NodeId} {target : Target} {fetches : List NodeFetch}

theorem mem_lacking : target ∈ s.lacking ids ↔
    (∃ id ∈ ids, s.target? id = some target) ∧ (s.slot target).needsFetch := by
  simp [lacking, List.mem_eraseDups]

theorem isNode_of_lacking (lacking : target ∈ s.lacking ids) : target.isNode := by
  obtain ⟨⟨node, _, place⟩, _⟩ := mem_lacking.mp lacking
  obtain ⟨type, _, rfl⟩ := Option.map_eq_some_iff.mp place
  split <;> rfl

theorem SamePage.target? (same : SamePage s t) (id : NodeId) : t.target? id = s.target? id := by
  rw [Store.target?, same.nodeType?, Store.target?]

section Kinds

variable {dag : Dag} {op : Operator}

theorem target?_of_artifact (active : s.activeDag = some dag) (apart : dag.Apart)
    (present : dag.artifacts.contains id.artifact) : s.target? id = some (.artifact id.artifact) := by
  obtain ⟨stored, found⟩ := Option.isSome_iff_exists.mp present
  have other : dag.operators.find? id.operator = none := by
    simpa [FinMap.contains] using apart.not_operator present
  have known : s.nodeType? id = some (.ofArtifact stored.type) := by
    rw [nodeType?, active, Option.bind_some]
    exact Dag.nodeType?_eq_some_iff.mpr (.inr ⟨other, stored, found, rfl⟩)
  rw [target?, known, Option.map_some, NodeType.isArtifact_ofArtifact]
  rfl

theorem target?_of_operator (active : s.activeDag = some dag) (found : dag.operators.find? id.operator = some op) :
    s.target? id = some (.operator id.operator) := by
  have known : s.nodeType? id = some (.ofOperator op.type) := by
    rw [nodeType?, active, Option.bind_some]
    exact Dag.nodeType?_eq_some_iff.mpr (.inl ⟨op, found, rfl⟩)
  rw [target?, known, Option.map_some, NodeType.isArtifact, NodeType.isOperator_ofOperator]
  rfl

end Kinds

/-- Where nothing is fetched, the slot is filled or about to be. -/
theorem FetchStart.cached_target (start : FetchStart s id false (.ok none, t)) :
    ∃ target, s.target? id = some target ∧ (s.slot target).needsFetch = false := by
  cases start with
  | @cached _ type _ known kept =>
    refine ⟨_, congrArg (Option.map _) known, ?_⟩
    rw [Bool.false_or, needsFetch] at kept
    dsimp only
    by_cases kind : type.isArtifact
    · rw [if_pos kind] at kept ⊢
      exact kept
    · rw [if_neg kind] at kept ⊢
      exact kept

/-- What is fetched is the result of the node. -/
theorem FetchStart.fetched_target {force : Bool} {fetch : NodeFetch}
    (start : FetchStart s id force (.ok (some fetch), t)) : s.target? id = some (Handle.ofFetch fetch).target := by
  cases start with
  | artifact _ known kind _ => rw [Store.target?, known, Option.map_some, if_pos kind]; rfl
  | operator _ known kind _ => rw [Store.target?, known, Option.map_some, kind, if_neg Bool.false_ne_true]; rfl

/-- What is still to be filled once a slot is loading. -/
theorem lacking_put_loading (s : Store) (target : Target) (ids : List NodeId) :
    (s.put target .loading).lacking ids =
      (((ids.filterMap s.target?).filter fun target => (s.slot target).needsFetch).filter
        fun other => !other == target).eraseDups := by
  have needs (other : Target) :
      ((s.put target .loading).slot other).needsFetch = (!other == target && (s.slot other).needsFetch) := by
    by_cases same : other = target
    · subst same
      simp [slot_put_self, Loadable.needsFetch]
    · simp [slot_put_ne s _ same, same]
  have targets : (s.put target .loading).target? = s.target? := funext fun id => (page_put s target _).target? id
  rw [lacking, targets, List.filter_filter]
  simp only [needs]

/-- Of several nodes, those are asked for whose slots are still to be filled, each once. -/
theorem beginEach_targets (begun : s.beginEach ids = (.ok fetches, t)) :
    fetches.map (fun fetch => (Handle.ofFetch fetch).target) = s.lacking ids := by
  induction ids generalizing s fetches with
  | nil =>
    cases begun
    rfl
  | cons id rest ih =>
    have start := beginNodeFetch_spec s id false
    unfold beginEach at begun
    generalize s.beginNodeFetch id false = result at start begun
    rcases result with ⟨_ | fetch, u⟩
    · cases begun
    · dsimp only at begun
      rcases later : u.beginEach rest with ⟨_ | others, v⟩
      · rw [later] at begun
        cases begun
      · rw [later] at begun
        cases begun
        rw [List.map_append, ih later]
        cases fetch with
        | none =>
          obtain ⟨target, known, filled⟩ := start.cached_target
          cases start
          simp [lacking, known, filled]
        | some fetch =>
          obtain ⟨rfl, needed⟩ := start.put
          rw [lacking_put_loading]
          simp [lacking, start.fetched_target, needed rfl, List.eraseDups_cons]

/-- What starting several fetches comes to. -/
structure Batch (s : Store) (ids : List NodeId) (handles : List Handle) (t : Store) : Prop where
  same : SamePage s t
  selection : t.selection = s.selection
  fits : ∀ handle ∈ handles, handle.epoch = s.epoch ∧ handle.Fits s
  targets : handles.map Handle.target = s.lacking ids
  distinct : (handles.map Handle.target).Nodup
  loading : ∀ target ∈ s.lacking ids, t.slot target = .loading
  kept : ∀ target ∉ s.lacking ids, t.slot target = s.slot target

theorem batch_of_begun (begun : s.beginEach ids = (.ok fetches, t)) : Batch s ids (fetches.map .ofFetch) t := by
  have targets : (fetches.map Handle.ofFetch).map Handle.target = s.lacking ids := by
    rw [List.map_map]
    exact beginEach_targets begun
  have asked (target : Target) :
      target ∈ s.lacking ids ↔ ∃ handle ∈ fetches.map Handle.ofFetch, handle.target = target := by
    rw [← targets, List.mem_map]
  have marking := beginEach_marking ids s
  rw [begun] at marking
  refine ⟨marking.same, marking.selection, ?_, targets, ?_, ?_, ?_⟩
  · intro handle member
    obtain ⟨fetch, given, rfl⟩ := List.mem_map.mp member
    exact beginEach_fits begun fetch given
  · apply List.nodup_iff_count_le_one.mpr
    intro target
    have counted : ((fetches.map Handle.ofFetch).map Handle.target).count target =
        (fetches.map Handle.ofFetch).countP fun handle => handle.target = target := by
      rw [List.count, List.countP_map]
      exact List.countP_congr fun handle _ => by simp
    rw [counted]
    cases beginEach_slotStart begun target with
    | kept _ unasked =>
      rw [List.countP_eq_zero.mpr fun handle member => by simpa using unasked handle member]
      exact Nat.zero_le 1
    | started _ once _ _ => exact Nat.le_of_eq once
  · intro target member
    obtain ⟨handle, given, same⟩ := (asked target).mp member
    cases beginEach_slotStart begun target with
    | kept _ unasked => exact absurd same (unasked handle given)
    | started loading _ _ _ => exact loading
  · intro target absent
    cases beginEach_slotStart begun target with
    | kept same _ => exact same
    | started _ once _ _ =>
      have some : 0 < (fetches.map Handle.ofFetch).countP fun handle => handle.target = target := once ▸ Nat.one_pos
      obtain ⟨handle, given, same⟩ := List.countP_pos_iff.mp some
      exact absurd ((asked target).mpr ⟨handle, given, of_decide_eq_true same⟩) absent

/-- Several fetches are started, or nothing changes. -/
theorem beginNodeFetches_cases (s : Store) (ids : List NodeId) :
    (∃ e, s.beginNodeFetches ids = (.error e, s)) ∨
      ∃ fetches t, s.beginNodeFetches ids = (.ok fetches, t) ∧ Batch s ids (fetches.map .ofFetch) t := by
  by_cases fetchable : Fetchable s ids
  · obtain ⟨fetches, t, begun⟩ := beginEach_succeeds fetchable
    exact .inr ⟨fetches, t, by rw [beginNodeFetches_of_fetchable fetchable, begun], batch_of_begun begun⟩
  · exact .inl (beginNodeFetches_of_not_fetchable fetchable)

end DagConsole.Store

import DagConsole.Proofs.Dag.Edges
import DagConsole.Proofs.Store.Atomicity
import DagConsole.Proofs.Store.History
import DagConsole.Proofs.Store.Slot

/-! Exactly which fetches are started for a list of nodes, in which order, and what that makes of the store. -/
namespace DagConsole

/-- Nothing is there or on its way: a slot was never looked at, nothing was asked for it, or the last answer was a
failure. -/
def Loadable.isVacant {α : Type} : Option (Loadable α) → Bool
  | none | some .initial | some (.failed _) => true
  | some .loading | some (.succeeded _) => false

theorem Loadable.needsFetch_getD {α : Type} (slot : Option (Loadable α)) :
    (slot.getD .initial).needsFetch = isVacant slot := by
  cases slot with
  | none => rfl
  | some slot => cases slot <;> rfl

namespace Store

/-- Whether a node of the active version is an artifact. -/
def isArtifactNode (s : Store) (id : NodeId) : Bool := (s.nodeType? id).any NodeType.isArtifact

/-- Whether the slot of a node, in the cache for nodes of its kind, is vacant. -/
def isUnfetched (s : Store) (id : NodeId) : Bool :=
  if s.isArtifactNode id then Loadable.isVacant (s.artifactResults.find? id.artifact)
  else Loadable.isVacant (s.operatorResults.find? id.operator)

/-- The nodes whose slots are vacant, each once, in the order in which they are first mentioned. -/
def unfetched (s : Store) (ids : List NodeId) : List NodeId := (ids.filter s.isUnfetched).eraseDups

/-- The fetch of a node for a run. -/
def fetchOf (s : Store) (run : DagResultId) (id : NodeId) : NodeFetch :=
  if s.isArtifactNode id then .artifact ⟨s.epoch, run⟩ id.artifact else .operator ⟨s.epoch, run⟩ id.operator

/-- The store while the result of a fetch is on its way. -/
def asking (s : Store) (fetch : NodeFetch) : Store := s.put (Handle.ofFetch fetch).target .loading

variable {s t : Store} {run : DagResult} {id other : NodeId} {ids again : List NodeId}

theorem SamePage.isArtifactNode (same : SamePage s t) (id : NodeId) : t.isArtifactNode id = s.isArtifactNode id := by
  rw [Store.isArtifactNode, same.nodeType?, Store.isArtifactNode]

theorem SamePage.fetchOf (same : SamePage s t) (run : DagResultId) : t.fetchOf run = s.fetchOf run := by
  funext id
  rw [Store.fetchOf, same.isArtifactNode, same.epoch, Store.fetchOf]

theorem page_asking (s : Store) (fetch : NodeFetch) : SamePage s (s.asking fetch) := page_put s _ _

theorem isUnfetched_eq (s : Store) (run : DagResultId) (id : NodeId) :
    s.isUnfetched id = Loadable.isVacant (s.held (Handle.ofFetch (s.fetchOf run id)).target) := by
  unfold isUnfetched fetchOf
  cases s.isArtifactNode id <;> rfl

/-- Different nodes have different slots. -/
theorem target_fetchOf_ne (s : Store) (run : DagResultId) (apart : other ≠ id) :
    (Handle.ofFetch (s.fetchOf run other)).target ≠ (Handle.ofFetch (s.fetchOf run id)).target := by
  have artifacts : other.artifact ≠ id.artifact := fun same => apart (congrArg (fun a : ArtifactId => a.node) same)
  have operators : other.operator ≠ id.operator := fun same => apart (congrArg (fun a : OperatorId => a.node) same)
  unfold fetchOf
  split <;> split <;> simp [Handle.ofFetch, Handle.target, artifacts, operators]

/-- Starting the fetch of one node. -/
theorem beginNodeFetch_eq (selected : s.selectedResult = some run) (known : (s.nodeType? id).isSome) :
    s.beginNodeFetch id false =
      if s.isUnfetched id then (.ok (some (s.fetchOf run.id id)), s.asking (s.fetchOf run.id id))
      else (.ok none, s) := by
  obtain ⟨type, found⟩ := Option.isSome_iff_exists.mp known
  have kind : s.isArtifactNode id = type.isArtifact := by rw [isArtifactNode, found, Option.any_some]
  simp only [beginNodeFetch, selected, found, isUnfetched, fetchOf, kind, Bool.false_or, Loadable.needsFetch_getD]
  by_cases artifact : type.isArtifact <;> simp only [artifact, if_true, if_false, Bool.false_eq_true] <;> rfl

/-- A node whose fetch is on its way is not asked for again. -/
theorem isUnfetched_asking (s : Store) (run : DagResultId) (id other : NodeId) :
    (s.asking (s.fetchOf run id)).isUnfetched other = (!other == id && s.isUnfetched other) := by
  rw [isUnfetched_eq _ run, isUnfetched_eq s run, (page_asking s _).fetchOf, asking]
  by_cases same : other = id
  · subst same
    simp [held_put_self, Loadable.isVacant]
  · simp [held_put_ne s _ (target_fetchOf_ne s run same), same]

/-- Once the first of several nodes is asked for, the others are to be asked for as before, and it is not. -/
theorem unfetched_cons (s : Store) (run : DagResultId) (id : NodeId) (ids : List NodeId) :
    s.unfetched (id :: ids) =
      if s.isUnfetched id then id :: (s.asking (s.fetchOf run id)).unfetched ids else s.unfetched ids := by
  have later : (s.asking (s.fetchOf run id)).isUnfetched = fun other => !other == id && s.isUnfetched other :=
    funext (isUnfetched_asking s run id)
  cases vacant : s.isUnfetched id with
  | false => simp [unfetched, vacant]
  | true =>
    rw [unfetched, List.filter_cons_of_pos vacant, List.eraseDups_cons, List.filter_filter, if_pos rfl, unfetched, later]

/-- All that is lacking when the first node is asked for is asked for in the end, and nothing else. -/
theorem beginEach_eq (selected : s.selectedResult = some run) (known : ∀ id ∈ ids, (s.nodeType? id).isSome) :
    s.beginEach ids = (.ok ((s.unfetched ids).map (s.fetchOf run.id)),
      ((s.unfetched ids).map (s.fetchOf run.id)).foldl asking s) := by
  induction ids generalizing s with
  | nil => rfl
  | cons id rest ih =>
    obtain ⟨first, others⟩ := List.forall_mem_cons.mp known
    rw [unfetched_cons s run.id, beginEach, beginNodeFetch_eq selected first]
    cases vacant : s.isUnfetched id with
    | false =>
      simp only [Bool.false_eq_true, if_false, ih selected others]
      rfl
    | true =>
      -- The rest is asked for from a store in which this node is loading; the run and the version are the same.
      have page := page_asking s (s.fetchOf run.id id)
      have later :=
        ih (page.selectedResult.trans selected) fun other member => page.nodeType? other ▸ others other member
      simp only [if_true, later, page.fetchOf]
      rfl

/-- The slots that are asked for are loading, and the others are as they were. -/
theorem held_foldl (fetches : List NodeFetch) (s : Store) (target : Target) :
    (fetches.foldl asking s).held target =
      if target ∈ fetches.map fun fetch => (Handle.ofFetch fetch).target then some .loading else s.held target := by
  induction fetches generalizing s with
  | nil => simp
  | cons fetch rest ih =>
    rw [List.foldl_cons, ih, asking]
    by_cases same : target = (Handle.ofFetch fetch).target
    · subst same
      simp [held_put_self]
    · simp [held_put_ne s _ same, same]

/-- Only the two caches change. -/
theorem foldl_asking (fetches : List NodeFetch) (s : Store) : ∃ artifacts operators,
    fetches.foldl asking s = { s with artifactResults := artifacts, operatorResults := operators } := by
  induction fetches generalizing s with
  | nil => exact ⟨_, _, rfl⟩
  | cons fetch rest ih =>
    obtain ⟨artifacts, operators, others⟩ := ih (s.asking fetch)
    refine ⟨artifacts, operators, ?_⟩
    rw [List.foldl_cons, others]
    cases fetch <;> rfl

/-- Nothing is asked for twice. -/
theorem isUnfetched_foldl (ids : List NodeId) (s : Store) (run : DagResultId) (other : NodeId) :
    ((ids.map (s.fetchOf run)).foldl asking s).isUnfetched other = (!ids.contains other && s.isUnfetched other) := by
  induction ids generalizing s with
  | nil => simp
  | cons id rest ih =>
    have later := ih (s.asking (s.fetchOf run id))
    rw [(page_asking s _).fetchOf, isUnfetched_asking, ← Bool.and_assoc, ← Bool.not_or, Bool.or_comm] at later
    rw [List.map_cons, List.foldl_cons, later, List.contains_cons]

theorem unfetched_foldl (s : Store) (run : DagResultId) (subset : again ⊆ ids) :
    (((s.unfetched ids).map (s.fetchOf run)).foldl asking s).unfetched again = [] := by
  have none : again.filter (((s.unfetched ids).map (s.fetchOf run)).foldl asking s).isUnfetched = [] := by
    refine List.filter_eq_nil_iff.mpr fun id member vacant => ?_
    rw [isUnfetched_foldl, Bool.and_eq_true, Bool.not_eq_true', ← Bool.not_eq_true, List.contains_iff_mem] at vacant
    exact vacant.1 (List.mem_eraseDups.mpr (List.mem_filter.mpr ⟨subset member, vacant.2⟩))
  rw [unfetched, none, List.eraseDups_nil]

theorem page_foldl (fetches : List NodeFetch) (s : Store) : SamePage s (fetches.foldl asking s) := by
  obtain ⟨_, _, same⟩ := foldl_asking fetches s
  rw [same]
  exact ⟨rfl, rfl, rfl, rfl, rfl, rfl⟩

/-- A fetch of the run is told by where its answer is written. -/
theorem mem_fetches_iff (s : Store) (run : DagResultId) (ids : List NodeId) (fetch : NodeFetch)
    (ticket : fetch.ticket = ⟨s.epoch, run⟩) :
    (Handle.ofFetch fetch).target ∈ ((ids.map (s.fetchOf run)).map fun fetch => (Handle.ofFetch fetch).target) ↔
      fetch ∈ ids.map (s.fetchOf run) := by
  refine ⟨fun asked => ?_, List.mem_map_of_mem⟩
  obtain ⟨other, given, same⟩ := List.mem_map.mp asked
  have uniform : other.ticket = ⟨s.epoch, run⟩ := by
    obtain ⟨id, _, rfl⟩ := List.mem_map.mp given
    unfold fetchOf
    split <;> rfl
  have equal : other = fetch := by
    cases other <;> cases fetch <;> cases same <;> cases uniform <;> cases ticket <;> rfl
  exact equal ▸ given

/-- What starting fetches for some nodes comes to. -/
structure Started (s : Store) (run : DagResultId) (ids : List NodeId) (fetches : List NodeFetch) (t : Store) :
    Prop where
  asked : fetches = (s.unfetched ids).map (s.fetchOf run)
  artifacts : ∀ id, t.artifactResults.find? id =
    if .artifact ⟨s.epoch, run⟩ id ∈ fetches then some .loading else s.artifactResults.find? id
  operators : ∀ id, t.operatorResults.find? id =
    if .operator ⟨s.epoch, run⟩ id ∈ fetches then some .loading else s.operatorResults.find? id
  others : t = { s with artifactResults := t.artifactResults, operatorResults := t.operatorResults }
  /-- Asked once more for any of the nodes, there is nothing to fetch. -/
  again : ∀ again ⊆ ids, t.beginNodeFetches again = (.ok [], t)

variable {dag : Dag}

/-- For nodes of the active version, whatever was fetched before: the results that are neither there nor on their way
are asked for, each once and in the order in which the nodes are first mentioned, and nothing else is. -/
theorem beginNodeFetches_started (selected : s.selectedResult = some run) (active : s.activeDag = some dag)
    (nodes : ∀ id ∈ ids, dag.isKey id) :
    ∃ fetches t, s.beginNodeFetches ids = (.ok fetches, t) ∧ Started s run.id ids fetches t := by
  have known : ∀ id ∈ ids, (s.nodeType? id).isSome := by
    intro id member
    rw [nodeType?, active]
    exact Dag.isSome_nodeType?_iff.mpr (nodes id member)
  have fetchable : Fetchable s ids := ⟨Option.isSome_iff_exists.mpr ⟨run, selected⟩, known⟩
  have page := page_foldl ((s.unfetched ids).map (s.fetchOf run.id)) s
  have asked := mem_fetches_iff s run.id (s.unfetched ids)
  refine ⟨_, _, (beginNodeFetches_of_fetchable fetchable).trans (beginEach_eq selected known), rfl, ?_, ?_, ?_, ?_⟩
  · exact fun id => (held_foldl _ s (.artifact id)).trans (if_congr (asked (.artifact _ id) rfl) rfl rfl)
  · exact fun id => (held_foldl _ s (.operator id)).trans (if_congr (asked (.operator _ id) rfl) rfl rfl)
  · obtain ⟨artifacts, operators, same⟩ := foldl_asking ((s.unfetched ids).map (s.fetchOf run.id)) s
    rw [same]
  · intro again subset
    have fetchable := page.fetchable ⟨fetchable.selected, fun id member => known id (subset member)⟩
    rw [beginNodeFetches_of_fetchable fetchable, beginEach_eq (page.selectedResult.trans selected) fetchable.known,
      unfetched_foldl s run.id subset]
    rfl

/-- The check, its output and the table are asked for, one of them twice; the output is there already. -/
theorem beginNodeFetches_started_opened :
    let s := History.opened.store
    let ids : List NodeId := [⟨2⟩, ⟨4⟩, ⟨3⟩, ⟨2⟩]
    ∃ run t, s.selectedResult = some run ∧ s.activeDag = some Dag.checkedTable ∧
      (∀ id ∈ ids, Dag.checkedTable.isKey id) ∧
      s.beginNodeFetches ids = (.ok [.operator ⟨⟨3⟩, ⟨7⟩⟩ ⟨2⟩, .artifact ⟨⟨3⟩, ⟨7⟩⟩ ⟨3⟩], t) ∧
      Started s run.id ids [.operator ⟨⟨3⟩, ⟨7⟩⟩ ⟨2⟩, .artifact ⟨⟨3⟩, ⟨7⟩⟩ ⟨3⟩] t := by
  intro s ids
  have selected : s.selectedResult = some { id := ⟨7⟩, dag := Dag.checkedTable.id, created := ⟨0⟩ } := rfl
  have active : s.activeDag = some Dag.checkedTable := rfl
  have nodes : ∀ id ∈ ids, Dag.checkedTable.isKey id := by decide
  obtain ⟨fetches, t, begun, started⟩ := beginNodeFetches_started selected active nodes
  obtain rfl : fetches = [.operator ⟨⟨3⟩, ⟨7⟩⟩ ⟨2⟩, .artifact ⟨⟨3⟩, ⟨7⟩⟩ ⟨3⟩] := started.asked.trans rfl
  exact ⟨_, t, selected, active, nodes, begun, started⟩

end Store

end DagConsole

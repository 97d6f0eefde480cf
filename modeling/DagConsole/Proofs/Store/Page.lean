import DagConsole.Proofs.Store.Step

/-! The page that a store shows, and what starting fetches leaves of it: slots of nodes of the active version
turn to loading, and nothing else changes. -/
namespace DagConsole.Store

/-- Two stores show the same page in the same epoch; what was fetched for it may differ. -/
structure SamePage (s t : Store) : Prop where
  workflow : t.workflow = s.workflow
  dags : t.dags = s.dags
  results : t.results = s.results
  selectedIndex : t.selectedIndex = s.selectedIndex
  activeDagId : t.activeDagId = s.activeDagId
  epoch : t.epoch = s.epoch

namespace SamePage

variable {s t u : Store}

theorem refl (s : Store) : SamePage s s := ⟨rfl, rfl, rfl, rfl, rfl, rfl⟩

theorem trans (first : SamePage s t) (second : SamePage t u) : SamePage s u :=
  ⟨second.workflow.trans first.workflow, second.dags.trans first.dags,
    second.results.trans first.results, second.selectedIndex.trans first.selectedIndex,
    second.activeDagId.trans first.activeDagId, second.epoch.trans first.epoch⟩

theorem symm (same : SamePage s t) : SamePage t s :=
  ⟨same.workflow.symm, same.dags.symm, same.results.symm, same.selectedIndex.symm,
    same.activeDagId.symm, same.epoch.symm⟩

theorem selectedResult (same : SamePage s t) : t.selectedResult = s.selectedResult := by
  unfold Store.selectedResult
  rw [same.selectedIndex, same.results]

theorem activeDag (same : SamePage s t) : t.activeDag = s.activeDag := by
  unfold Store.activeDag
  rw [same.activeDagId, same.dags]

theorem nodeType? (same : SamePage s t) (id : NodeId) : t.nodeType? id = s.nodeType? id := by
  unfold Store.nodeType?
  rw [same.activeDag]

theorem hasArtifact (same : SamePage s t) {id : ArtifactId} (has : s.HasArtifact id) :
    t.HasArtifact id := by
  unfold HasArtifact
  rwa [same.activeDag]

theorem hasOperator (same : SamePage s t) {id : OperatorId} (has : s.HasOperator id) :
    t.HasOperator id := by
  unfold HasOperator
  rwa [same.activeDag]

end SamePage

/-- What a handle was given out for is what the store shows. -/
def Handle.Fits (s : Store) : Handle → Prop
  | .workflow _ id => s.workflow = some id
  | .artifact ticket id => s.selectedResult.map DagResult.id = some ticket.run ∧ s.HasArtifact id
  | .operator ticket id => s.selectedResult.map DagResult.id = some ticket.run ∧ s.HasOperator id
  | .layout _ dag => s.activeDag = some dag

theorem SamePage.fits {s t : Store} (same : SamePage s t) {handle : Handle} (fits : handle.Fits s) :
    handle.Fits t := by
  cases handle with
  | workflow _ id => exact same.workflow.trans fits
  | artifact ticket id => exact ⟨same.selectedResult ▸ fits.1, same.hasArtifact fits.2⟩
  | operator ticket id => exact ⟨same.selectedResult ▸ fits.1, same.hasOperator fits.2⟩
  | layout _ dag => exact same.activeDag.trans fits

/-- Of what was fetched, only slots of nodes of the active version may have changed, and only to loading. -/
structure Marking (s t : Store) : Prop where
  same : SamePage s t
  status : t.status = s.status
  layout : t.layout = s.layout
  selection : t.selection = s.selection
  artifacts : ∀ {id slot}, t.artifactResults.find? id = some slot →
    s.artifactResults.find? id = some slot ∨ (slot = .loading ∧ s.HasArtifact id)
  operators : ∀ {id slot}, t.operatorResults.find? id = some slot →
    s.operatorResults.find? id = some slot ∨ (slot = .loading ∧ s.HasOperator id)
  unselected : s.selectedResult = none → t = s

namespace Marking

theorem refl (s : Store) : Marking s s := ⟨.refl s, rfl, rfl, rfl, .inl, .inl, fun _ => rfl⟩

theorem trans {s t u : Store} (first : Marking s t) (second : Marking t u) : Marking s u := by
  refine ⟨first.same.trans second.same, second.status.trans first.status,
    second.layout.trans first.layout, second.selection.trans first.selection, ?_, ?_, ?_⟩
  · intro id slot found
    rcases second.artifacts found with earlier | ⟨loading, has⟩
    · exact first.artifacts earlier
    · exact .inr ⟨loading, first.same.symm.hasArtifact has⟩
  · intro id slot found
    rcases second.operators found with earlier | ⟨loading, has⟩
    · exact first.operators earlier
    · exact .inr ⟨loading, first.same.symm.hasOperator has⟩
  · intro none
    exact (second.unselected (first.same.selectedResult.trans none)).trans (first.unselected none)

end Marking

section Fetches

variable {s : Store} {id : NodeId} {force : Bool}

theorem FetchStart.marking {result : Outcome (Option NodeFetch) × Store}
    (start : FetchStart s id force result) : Marking s result.2 := by
  cases start with
  | unselected _ => exact .refl s
  | foreign _ _ => exact .refl s
  | cached _ _ _ => exact .refl s
  | artifact selected known kind _ =>
    refine ⟨⟨rfl, rfl, rfl, rfl, rfl, rfl⟩, rfl, rfl, rfl, ?_, .inl, ?_⟩
    · intro id slot found
      rcases FinMap.find?_insert_cases found with ⟨rfl, rfl⟩ | ⟨_, earlier⟩
      · exact .inr ⟨rfl, hasArtifact_of_nodeType known kind⟩
      · exact .inl earlier
    · intro none
      rw [selected] at none
      cases none
  | operator selected known kind _ =>
    refine ⟨⟨rfl, rfl, rfl, rfl, rfl, rfl⟩, rfl, rfl, rfl, .inl, ?_, ?_⟩
    · intro id slot found
      rcases FinMap.find?_insert_cases found with ⟨rfl, rfl⟩ | ⟨_, earlier⟩
      · exact .inr ⟨rfl, hasOperator_of_nodeType known kind⟩
      · exact .inl earlier
    · intro none
      rw [selected] at none
      cases none

theorem FetchStart.fits {fetch : NodeFetch} {t : Store}
    (start : FetchStart s id force (.ok (some fetch), t)) :
    (Handle.ofFetch fetch).epoch = s.epoch ∧ (Handle.ofFetch fetch).Fits s := by
  cases start with
  | artifact selected known kind _ =>
    exact ⟨rfl, by rw [selected]; rfl, hasArtifact_of_nodeType known kind⟩
  | operator selected known kind _ =>
    exact ⟨rfl, by rw [selected]; rfl, hasOperator_of_nodeType known kind⟩

theorem beginEach_marking (ids : List NodeId) (s : Store) : Marking s (s.beginEach ids).2 := by
  induction ids generalizing s with
  | nil => exact .refl s
  | cons id rest ih =>
    have start := beginNodeFetch_spec s id false
    unfold beginEach
    generalize s.beginNodeFetch id false = result at start ⊢
    rcases result with ⟨_ | fetch, t⟩
    · exact start.marking
    · have later := start.marking.trans (ih t)
      dsimp only
      rcases begun : t.beginEach rest with ⟨_ | fetches, u⟩ <;> rwa [begun] at later

theorem beginEach_fits {ids : List NodeId} {fetches : List NodeFetch} {t : Store}
    (begun : s.beginEach ids = (.ok fetches, t)) :
    ∀ fetch ∈ fetches, (Handle.ofFetch fetch).epoch = s.epoch ∧ (Handle.ofFetch fetch).Fits s := by
  induction ids generalizing s fetches with
  | nil =>
    cases begun
    intro fetch member
    cases member
  | cons id rest ih =>
    have start := beginNodeFetch_spec s id false
    unfold beginEach at begun
    generalize s.beginNodeFetch id false = result at start begun
    rcases result with ⟨_ | first, u⟩
    · cases begun
    · dsimp only at begun
      rcases later : u.beginEach rest with ⟨_ | others, v⟩
      · rw [later] at begun
        cases begun
      · rw [later] at begun
        cases begun
        intro fetch member
        rcases List.mem_append.mp member with here | after
        · cases Option.mem_toList.mp here
          exact start.fits
        · have same := start.marking.same
          obtain ⟨epoch, fits⟩ := ih later fetch after
          exact ⟨epoch.trans same.epoch, same.symm.fits fits⟩

theorem beginNodeFetches_marking (ids : List NodeId) (s : Store) :
    Marking s (s.beginNodeFetches ids).2 := by
  unfold beginNodeFetches
  split
  · exact .refl s
  · split
    · exact .refl s
    · exact beginEach_marking ids s

theorem beginNodeFetches_fits {ids : List NodeId} {fetches : List NodeFetch}
    (begun : (s.beginNodeFetches ids).1 = .ok fetches) :
    ∀ fetch ∈ fetches, (Handle.ofFetch fetch).epoch = s.epoch ∧ (Handle.ofFetch fetch).Fits s := by
  unfold beginNodeFetches at begun
  split at begun
  · cases begun
  · split at begun
    · cases begun
    · exact beginEach_fits (Prod.ext begun rfl)

end Fetches

end DagConsole.Store

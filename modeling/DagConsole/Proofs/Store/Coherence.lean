import DagConsole.Proofs.Store.History

/-! What the fields of a store say about each other. Slots of results stay within the active version because
every change of version starts a new epoch with empty slots, and because answers of other epochs are dropped. -/
namespace DagConsole

namespace DagResult

/-- The first of two runs is the later one, or as late and its identifier no smaller. -/
def NoOlder (a b : DagResult) : Prop :=
  b.created.nanoseconds < a.created.nanoseconds ∨
    (b.created.nanoseconds = a.created.nanoseconds ∧ b.id.bits ≤ a.id.bits)

instance (a b : DagResult) : Decidable (a.NoOlder b) :=
  inferInstanceAs (Decidable (_ ∨ (_ ∧ _)))

theorem mayPrecede_iff {a b : DagResult} : a.mayPrecede b ↔ a.NoOlder b := by
  rw [mayPrecede, Ordering.isLE_then_iff_or, Timestamp.compare_eq_lt_iff, Timestamp.compare_eq_eq_iff,
    Id.isLE_compare_iff, NoOlder]

theorem mayPrecede_total (a b : DagResult) : a.mayPrecede b ∨ b.mayPrecede a := by
  simp only [mayPrecede_iff, NoOlder, BitVec.le_def]
  omega

theorem mayPrecede_trans (a b c : DagResult) (first : a.mayPrecede b) (second : b.mayPrecede c) :
    a.mayPrecede c := by
  simp only [mayPrecede_iff, NoOlder, BitVec.le_def] at *
  omega

end DagResult

theorem Snapshot.newestFirst_ordered (snapshot : Snapshot) :
    snapshot.newestFirst.Pairwise DagResult.NoOlder :=
  (Sorting.pairwise_sortBy DagResult.mayPrecede_total DagResult.mayPrecede_trans snapshot.results).imp
    DagResult.mayPrecede_iff.mp

namespace Store

/-- The versions, the runs and the selection of a store fit together. -/
structure PageCoherent (s : Store) : Prop where
  ordered : s.results.Pairwise DagResult.NoOlder
  known : ∀ result ∈ s.results, s.dags.contains result.dag
  valid : ∀ dag ∈ s.dags.values, dag.validate = .ok ()
  unselected : s.selectedIndex = none ↔ s.results = []
  selected : ∀ {index}, s.selectedIndex = some index →
    ∃ result, s.results[index]? = some result ∧ s.activeDagId = some result.dag
  inactive : s.activeDagId = none ↔ s.dags = .empty
  active : ∀ {id}, s.activeDagId = some id → s.dags.contains id

/-- So do the slots of results: each is one of a node of the active version, and has been asked for. -/
structure Coherent (s : Store) : Prop extends PageCoherent s where
  artifacts : ∀ {id slot}, s.artifactResults.find? id = some slot → s.HasArtifact id ∧ slot ≠ .initial
  operators : ∀ {id slot}, s.operatorResults.find? id = some slot → s.HasOperator id ∧ slot ≠ .initial
  uncached : s.selectedIndex = none → s.artifactResults = .empty ∧ s.operatorResults = .empty

variable {s t : Store}

theorem SamePage.pageCoherent (same : SamePage s t) (page : PageCoherent s) : PageCoherent t := by
  rcases s with ⟨⟩
  rcases t with ⟨⟩
  obtain ⟨rfl, rfl, rfl, rfl, rfl, rfl⟩ := same
  exact ⟨page.ordered, page.known, page.valid, page.unselected, page.selected, page.inactive, page.active⟩

theorem PageCoherent.of_blank (dags : s.dags = .empty) (results : s.results = [])
    (index : s.selectedIndex = none) (active : s.activeDagId = none) : PageCoherent s := by
  constructor <;> simp [dags, results, index, active, FinMap.values, FinMap.empty]

theorem PageCoherent.of_selected {index : Nat} {result : DagResult}
    (ordered : s.results.Pairwise DagResult.NoOlder)
    (known : ∀ result ∈ s.results, s.dags.contains result.dag)
    (valid : ∀ dag ∈ s.dags.values, dag.validate = .ok ()) (found : s.results[index]? = some result)
    (chosen : s.selectedIndex = some index) (shown : s.activeDagId = some result.dag) : PageCoherent s := by
  have member := List.mem_of_getElem? found
  have present := known result member
  refine ⟨ordered, known, valid, ?_, ?_, ?_, ?_⟩
  · simp [chosen, List.ne_nil_of_mem member]
  · intro other same
    rw [chosen] at same
    cases same
    exact ⟨result, found, shown⟩
  · simp [shown, FinMap.ne_empty_of_contains present]
  · intro id same
    rw [shown] at same
    cases same
    exact present

theorem PageCoherent.select {index : Nat} {result : DagResult} (page : PageCoherent s)
    (found : s.results[index]? = some result) :
    PageCoherent { s with selectedIndex := some index, activeDagId := some result.dag }.resetRun :=
  .of_selected page.ordered page.known page.valid found rfl rfl

/-- Loading needs nothing of what was there before. -/
theorem PageCoherent.loaded {snapshot : Snapshot} (preferred : Option DagResultId) (s : Store)
    (valid : snapshot.validate = .ok ()) (keyed : snapshot.dags.KeyedBy Dag.id) :
    PageCoherent (s.loaded snapshot preferred) := by
  obtain ⟨known, sound⟩ := Snapshot.validate_eq_ok_iff.mp valid
  have ordered := snapshot.newestFirst_ordered
  have ran : ∀ result ∈ snapshot.newestFirst, snapshot.dags.contains result.dag := fun result member =>
    known result ((Sorting.perm_sortBy _ _).subset member)
  rcases shown_of_loaded snapshot preferred s with
    ⟨index, result, _, found, chosen, shown⟩ | ⟨none, unchosen, shown⟩
  · exact .of_selected ordered ran sound found chosen shown
  · refine ⟨ordered, ran, sound, ⟨fun _ => none, fun _ => unchosen⟩, ?_, ?_, ?_⟩
    · intro index same
      rw [unchosen] at same
      cases same
    · rw [shown, Option.map_eq_none_iff, newest?_eq_none_iff, FinMap.values_eq_nil_iff]
      exact .rfl
    · intro id same
      rw [shown] at same
      obtain ⟨dag, newest, rfl⟩ := Option.map_eq_some_iff.mp same
      exact FinMap.contains_of_find? (keyed.find?_key (mem_of_newest? newest))

theorem PageCoherent.uncached (page : PageCoherent s) (artifacts : s.artifactResults = .empty)
    (operators : s.operatorResults = .empty) : Coherent s where
  toPageCoherent := page
  artifacts found := by
    rw [artifacts] at found
    cases found
  operators found := by
    rw [operators] at found
    cases found
  uncached _ := ⟨artifacts, operators⟩

theorem Coherent.of_same (coherent : Coherent s) (same : SamePage s t)
    (artifacts : t.artifactResults = s.artifactResults)
    (operators : t.operatorResults = s.operatorResults) : Coherent t where
  toPageCoherent := same.pageCoherent coherent.toPageCoherent
  artifacts found := by
    rw [artifacts] at found
    exact (coherent.artifacts found).imp_left same.hasArtifact
  operators found := by
    rw [operators] at found
    exact (coherent.operators found).imp_left same.hasOperator
  uncached none := by
    rw [artifacts, operators]
    exact coherent.uncached (same.selectedIndex.symm.trans none)

theorem PageCoherent.selectedResult_eq_none (page : PageCoherent s) :
    s.selectedResult = none ↔ s.selectedIndex = none := by
  unfold selectedResult
  cases chosen : s.selectedIndex with
  | none => simp
  | some index =>
    obtain ⟨result, found, _⟩ := page.selected chosen
    simp [found]

theorem Marking.coherent (marking : Marking s t) (coherent : Coherent s) : Coherent t where
  toPageCoherent := marking.same.pageCoherent coherent.toPageCoherent
  artifacts found := by
    rcases marking.artifacts found with earlier | ⟨rfl, has⟩
    · exact (coherent.artifacts earlier).imp_left marking.same.hasArtifact
    · exact ⟨marking.same.hasArtifact has, nofun⟩
  operators found := by
    rcases marking.operators found with earlier | ⟨rfl, has⟩
    · exact (coherent.operators earlier).imp_left marking.same.hasOperator
    · exact ⟨marking.same.hasOperator has, nofun⟩
  uncached none := by
    have before := marking.same.selectedIndex.symm.trans none
    rw [marking.unselected (coherent.selectedResult_eq_none.mpr before)]
    exact coherent.uncached before

/-- Results are written with handles that were given out, and whatever is loaded keeps each version under its
own identifier. -/
structure Orderly (h : History) (step : Step) : Prop where
  held : ∀ fetch, step.handle? = some (.ofFetch fetch) → .ofFetch fetch ∈ h.handles
  keyed : ∀ {snapshot}, step.Loads h.store snapshot → snapshot.dags.KeyedBy Dag.id

theorem Coherent.after {h : History} {step : Step} (coherent : Coherent h.store) (timely : h.Timely)
    (orderly : Orderly h step) : Coherent (h.after step).store := by
  obtain ⟨held, keyed⟩ := orderly
  have blank (u : Store) : PageCoherent u.teardown := .of_blank rfl rfl rfl rfl
  have effect := effect step h.store
  change Coherent (step.next h.store)
  generalize step.next h.store = t at effect ⊢
  cases effect with
  | stay => exact coherent
  | mark marking => exact marking.coherent coherent
  | waitForLayout _ | refuse _ | layout | clickNode _ | clickPane =>
    exact coherent.of_same ⟨rfl, rfl, rfl, rfl, rfl, rfl⟩ rfl rfl
  | @artifact ticket id _ _ accepted =>
    -- The ticket is of the current epoch, so the active version is the one it was given out for.
    obtain ⟨current, selected⟩ := accepts_iff.mp accepted
    have fits := timely.fits (.artifact ticket id) (held (.artifact ticket id) rfl) current
    exact {
      coherent with
      artifacts := fun found => by
        rcases FinMap.find?_insert_cases found with ⟨rfl, rfl⟩ | ⟨_, earlier⟩
        · exact ⟨fits.2, Loadable.ofOutcome_ne_initial _⟩
        · exact coherent.artifacts earlier
      uncached := fun none => by
        rw [coherent.selectedResult_eq_none.mpr none] at selected
        cases selected }
  | @operator ticket id _ _ accepted =>
    obtain ⟨current, selected⟩ := accepts_iff.mp accepted
    have fits := timely.fits (.operator ticket id) (held (.operator ticket id) rfl) current
    exact {
      coherent with
      operators := fun found => by
        rcases FinMap.find?_insert_cases found with ⟨rfl, rfl⟩ | ⟨_, earlier⟩
        · exact ⟨fits.2, Loadable.ofOutcome_ne_initial _⟩
        · exact coherent.operators earlier
      uncached := fun none => by
        rw [coherent.selectedResult_eq_none.mpr none] at selected
        cases selected }
  | teardown => exact (blank h.store).uncached rfl rfl
  | beginWorkflow id => exact (PageCoherent.of_blank rfl rfl rfl rfl).uncached rfl rfl
  | selectResult found _ => exact (coherent.toPageCoherent.select found).uncached rfl rfl
  | load preferred loads =>
    exact (PageCoherent.loaded preferred h.store loads.valid (keyed loads)).uncached rfl rfl

/-- Whatever happens to a store in whatever order, its fields stay coherent. -/
theorem coherent_of_reachable {h : History} (reached : h.Reachable Orderly)
    (bounded : h.epochs < UInt64.size) : Coherent h.store := by
  have start : Coherent .empty := (PageCoherent.of_blank rfl rfl rfl rfl).uncached rfl rfl
  apply reached.invariant bounded (fun h => Coherent h.store) start
  intro h step timely orderly coherent
  exact Coherent.after coherent timely orderly

theorem coherent_opened : History.opened.Reachable Orderly ∧ History.opened.epochs < UInt64.size ∧
    History.opened.store.selectedIndex = some 0 ∧ Coherent History.opened.store := by
  have keyed : ∀ step ∈ History.opened.steps, ∀ snapshot ∈ step.snapshot?,
      snapshot.dags.KeyedBy Dag.id := by decide
  have reached : History.opened.Reachable Orderly := History.reachable_opened fun member held =>
    ⟨fun _ uses => held _ uses, fun loads => keyed _ member _ loads.brings⟩
  exact ⟨reached, by decide, rfl, coherent_of_reachable reached (by decide)⟩

end Store

end DagConsole

import DagConsole.Proofs.Store.InitialRun

/-! Which version a workflow shows when it is opened. It is the one that its newest run executed, however many versions
were deployed since, and the newest version only if there was no run. -/
namespace DagConsole

namespace Dag

variable {a b : Dag}

theorem Older.asymm (before : a.Older b) : ¬b.Older a := by
  unfold Older at *
  cases one : a.metadata.created with
  | none =>
    cases other : b.metadata.created with
    | none =>
      rw [one, other] at before
      exact BitVec.lt_asymm before
    | some _ => simp
  | some time =>
    cases other : b.metadata.created with
    | none =>
      rw [one, other] at before
      cases before
    | some otherTime =>
      simp only [one, other, BitVec.lt_def] at before ⊢
      omega

end Dag

namespace Snapshot

/-- The newest run: none is newer, and of those as new it is listed first. -/
def IsNewestRun (snapshot : Snapshot) (run : DagResult) : Prop :=
  ∃ earlier later, snapshot.results = earlier ++ run :: later ∧
    (∀ other ∈ earlier, ¬other.NoOlder run) ∧ ∀ other ∈ later, run.NoOlder other

/-- The newest version: all others are older. -/
structure IsNewest (snapshot : Snapshot) (dag : Dag) : Prop where
  stored : dag ∈ snapshot.dags.values
  above : ∀ other ∈ snapshot.dags.values, other ≠ dag → other.Older dag

/-- The version that a workflow shows when it is opened. -/
inductive Shows (snapshot : Snapshot) : Dag → Prop where
  | executed {run : DagResult} {dag : Dag} (newest : snapshot.IsNewestRun run)
      (stored : snapshot.dags.find? run.dag = some dag) : Shows snapshot dag
  | unrun {dag : Dag} (none : snapshot.results = []) (newest : snapshot.IsNewest dag) : Shows snapshot dag

variable {snapshot : Snapshot} {dag other : Dag} {run : DagResult}

theorem head?_newestFirst_iff : snapshot.newestFirst.head? = some run ↔ snapshot.IsNewestRun run := by
  have sorted : snapshot.newestFirst.head? = some run ↔ Sorting.IsFirst DagResult.mayPrecede run snapshot.results :=
    Sorting.head?_sortBy_iff DagResult.mayPrecede_total DagResult.mayPrecede_trans
  simp only [sorted, Sorting.IsFirst, DagResult.mayPrecede_iff]
  rfl

theorem IsNewestRun.ran (newest : snapshot.IsNewestRun run) : snapshot.results ≠ [] := by
  obtain ⟨earlier, later, listed, _⟩ := newest
  rw [listed]
  exact List.append_ne_nil_of_right_ne_nil earlier (List.cons_ne_nil run later)

theorem IsNewest.unique (one : snapshot.IsNewest dag) (two : snapshot.IsNewest other) : dag = other := by
  by_contra apart
  exact (two.above dag one.stored apart).asymm (one.above other two.stored (Ne.symm apart))

theorem exists_isNewest (keyed : snapshot.dags.KeyedBy Dag.id) (versions : snapshot.dags.values ≠ []) :
    ∃ dag, snapshot.IsNewest dag := by
  obtain ⟨dag, stored, _, above⟩ := Store.newest?_of_keyed keyed versions
  exact ⟨dag, stored, above⟩

theorem Shows.unique (one : snapshot.Shows dag) (two : snapshot.Shows other) : dag = other := by
  cases one with
  | executed newest stored =>
    cases two with
    | executed again found =>
      cases (head?_newestFirst_iff.mpr newest).symm.trans (head?_newestFirst_iff.mpr again)
      exact Option.some.inj (stored.symm.trans found)
    | unrun none _ => exact absurd none newest.ran
  | unrun none newest =>
    cases two with
    | executed again _ => exact absurd none again.ran
    | unrun _ again => exact newest.unique again

/-- A version that is shown and is not the newest one was executed by the newest run, and is older. -/
theorem Shows.older_of_ne (shown : snapshot.Shows dag) (newest : snapshot.IsNewest other) (apart : dag ≠ other) :
    ∃ run, snapshot.IsNewestRun run ∧ snapshot.dags.find? run.dag = some dag ∧ dag.Older other := by
  cases shown with
  | @executed run _ last stored => exact ⟨run, last, stored, newest.above dag (FinMap.mem_values.mpr ⟨_, stored⟩) apart⟩
  | unrun _ again => exact absurd (again.unique newest) apart

end Snapshot

namespace Store

variable {snapshot : Snapshot}

/-- A workflow without versions shows none. -/
theorem activeDag_loaded_of_versionless (s : Store) (versionless : snapshot.dags.values = []) :
    (s.loaded snapshot none).activeDag = none := by
  rw [activeDag, Option.bind_eq_none_iff]
  intro id _
  change snapshot.dags.find? id = none
  rw [FinMap.values_eq_nil_iff.mp versionless, FinMap.find?_empty]

theorem activeDag_loaded (s : Store) (valid : snapshot.validate = .ok ()) (keyed : snapshot.dags.KeyedBy Dag.id)
    (versions : snapshot.dags.values ≠ []) :
    ∃ dag, snapshot.Shows dag ∧ (s.loaded snapshot none).activeDag = some dag := by
  have shows := showsInitial_loaded s none valid keyed
  by_cases none : snapshot.results = []
  · obtain ⟨_, _, newest⟩ := shows.unselected none
    obtain ⟨dag, stored, active, above⟩ := newest versions
    exact ⟨dag, .unrun none ⟨stored, above⟩, active⟩
  · obtain ⟨index, run, dag, picks, _, _, stored, _, active, _⟩ := shows.selected none
    refine ⟨dag, .executed ?_ stored, active⟩
    cases picks with
    | preferred _ wanted _ => cases wanted
    | newest found _ =>
      rw [← Snapshot.head?_newestFirst_iff, List.head?_eq_getElem?]
      exact found

end Store

end DagConsole

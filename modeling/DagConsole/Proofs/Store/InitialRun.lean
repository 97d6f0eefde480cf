import DagConsole.Proofs.Store.Coherence

/-! What a store shows once a workflow was loaded into it: its runs in order, the run that is selected at first with the
version it executed, and the newest version of a workflow that never ran. -/
namespace DagConsole

namespace RunPicker

/-- The run that is shown at first: the first one that is the preferred one, or the newest if none is. -/
inductive Picks (results : List DagResult) (preferred : Option DagResultId) : Nat → DagResult → Prop where
  | preferred {index : Nat} {run : DagResult} (found : results[index]? = some run) (wanted : preferred = some run.id)
      (first : ∀ {i earlier}, i < index → results[i]? = some earlier → earlier.id ≠ run.id) :
      Picks results preferred index run
  | newest {run : DagResult} (found : results[0]? = some run)
      (absent : ∀ id ∈ preferred, ∀ result ∈ results, result.id ≠ id) : Picks results preferred 0 run

variable {results : List DagResult} {preferred : Option DagResultId} {index : Nat} {run : DagResult}

theorem picks_of_initialIndex (initial : initialIndex results preferred = some index) :
    ∃ run, results[index]? = some run ∧ Picks results preferred index run := by
  have found := List.getElem?_eq_getElem (initialIndex_lt initial)
  refine ⟨_, found, ?_⟩
  cases results with
  | nil => cases initial
  | cons newest rest =>
    cases preferred with
    | none =>
      cases initial
      exact .newest rfl fun _ none => nomatch none
    | some id =>
      have chosen : ((newest :: rest).findIdx? fun result => result.id == id).getD 0 = index := Option.some.inj initial
      cases search : (newest :: rest).findIdx? fun result => result.id == id with
      | none =>
        rw [search, Option.getD_none] at chosen
        subst chosen
        refine .newest rfl fun other same result member => ?_
        cases same
        exact beq_eq_false_iff_ne.mp (List.findIdx?_eq_none_iff.mp search result member)
      | some first =>
        rw [search, Option.getD_some] at chosen
        subst chosen
        obtain ⟨inside, same, before⟩ := List.findIdx?_eq_some_iff_getElem.mp search
        have wanted : (newest :: rest)[first].id = id := beq_iff_eq.mp same
        refine .preferred found (congrArg some wanted.symm) fun earlier there other => ?_
        obtain ⟨within, rfl⟩ := List.getElem?_eq_some_iff.mp there
        exact before _ earlier (beq_iff_eq.mpr (other.trans wanted))

/-- Whatever run is picked, it is the preferred one if that is among the runs. -/
theorem Picks.id_eq {id : DagResultId} (picks : Picks results (some id) index run)
    (among : ∃ result ∈ results, result.id = id) : run.id = id := by
  cases picks with
  | preferred _ wanted _ => exact (Option.some.inj wanted).symm
  | newest _ absent =>
    obtain ⟨result, member, same⟩ := among
    exact absurd same (absent id rfl result member)

theorem filter_zipIdx (results : List DagResult) (start index : Nat) :
    ((results.zipIdx start).filter fun entry => entry.2 == start + index) =
      (results[index]?.map fun run => (run, start + index)).toList := by
  induction results generalizing start index with
  | nil => rfl
  | cons run rest ih =>
    rw [List.zipIdx_cons]
    cases index with
    | zero =>
      have later : ((rest.zipIdx (start + 1)).filter fun entry => entry.2 == start) = [] := by
        refine List.filter_eq_nil_iff.mpr fun entry member same => ?_
        have bound := (List.mem_zipIdx member).1
        exact absurd (beq_iff_eq.mp same) (by omega)
      simp [later]
    | succ index =>
      have next : start + (index + 1) = start + 1 + index := by omega
      have apart : (start == start + (index + 1)) = false := beq_eq_false_iff_ne.mpr (by omega)
      rw [List.filter_cons_of_neg (by simp [apart]), next, ih]
      rfl

/-- The list to pick a run from marks the selected one, and no other. -/
theorem selected_entries (found : results[index]? = some run) :
    (entries results (some index)).filter Entry.selected =
      [⟨index, run.id, run.dag, run.status, run.created, true⟩] := by
  have marked : ((results.zipIdx 0).filter fun entry => entry.2 == 0 + index) = [(run, index)] := by
    rw [filter_zipIdx, found]
    simp
  have same (entry : DagResult × Nat) : (some index == some entry.2) = (entry.2 == 0 + index) := by
    simp [eq_comm]
  simp only [entries, List.filter_map, Function.comp_def, same, marked, List.map_singleton]
  simp

end RunPicker

/-- The first of two versions was created before the second, or at the same time and its identifier is the smaller one.
A version without a time counts as earliest. -/
def Dag.Older (a b : Dag) : Prop :=
  match a.metadata.created, b.metadata.created with
  | none, none => a.id.bits < b.id.bits
  | none, some _ => True
  | some _, none => False
  | some one, some other =>
    one.nanoseconds < other.nanoseconds ∨ (one.nanoseconds = other.nanoseconds ∧ a.id.bits < b.id.bits)

namespace Store

/-- What a store shows after a snapshot was loaded into it. -/
structure ShowsInitial (snapshot : Snapshot) (preferred : Option DagResultId) (s : Store) : Prop where
  complete : s.results.Perm snapshot.results
  ordered : s.results.Pairwise DagResult.NoOlder
  /-- Runs of one time that also share their identifier stay as they were. -/
  stable : ∀ created id, (s.results.filter fun run => run.created = created ∧ run.id = id) =
    snapshot.results.filter fun run => run.created = created ∧ run.id = id
  selected : snapshot.results ≠ [] → ∃ index run dag, RunPicker.Picks s.results preferred index run ∧
    s.selectedIndex = some index ∧ s.selectedResult = some run ∧
    snapshot.dags.find? run.dag = some dag ∧ dag.id = run.dag ∧ s.activeDag = some dag ∧
    (RunPicker.entries s.results s.selectedIndex).filter RunPicker.Entry.selected =
      [⟨index, run.id, run.dag, run.status, run.created, true⟩]
  /-- A workflow that never ran shows its newest version, if it has one. -/
  unselected : snapshot.results = [] → s.selectedIndex = none ∧ (snapshot.dags.values = [] → s.activeDag = none) ∧
    (snapshot.dags.values ≠ [] → ∃ dag ∈ snapshot.dags.values, s.activeDag = some dag ∧
      ∀ other ∈ snapshot.dags.values, other ≠ dag → other.Older dag)

theorem older_of_noNewer {a b : Dag} (before : noNewer a b) (apart : a.id ≠ b.id) : a.Older b := by
  have smaller (le : (compare a.id b.id).isLE) : a.id.bits < b.id.bits := by
    refine BitVec.lt_of_le_ne (Id.isLE_compare_iff.mp le) fun same => apart ?_
    exact congrArg Id.mk same
  unfold noNewer at before
  unfold Dag.Older
  cases one : a.metadata.created with
  | none =>
    cases other : b.metadata.created with
    | none =>
      rw [one, other] at before
      exact smaller before
    | some _ => trivial
  | some time =>
    cases other : b.metadata.created with
    | none =>
      rw [one, other] at before
      cases before
    | some otherTime =>
      rw [one, other] at before
      rcases Ordering.isLE_then_iff_or.mp before with earlier | ⟨same, le⟩
      · exact .inl (Timestamp.compare_eq_lt_iff.mp earlier)
      · exact .inr ⟨Timestamp.compare_eq_eq_iff.mp same, smaller le⟩

variable {snapshot : Snapshot} {dag : Dag}

/-- The newest of the versions of a snapshot is newer than any other. -/
theorem newest?_of_keyed (keyed : snapshot.dags.KeyedBy Dag.id) (versions : snapshot.dags.values ≠ []) :
    ∃ dag ∈ snapshot.dags.values, newest? snapshot.dags.values = some dag ∧
      ∀ other ∈ snapshot.dags.values, other ≠ dag → other.Older dag := by
  obtain ⟨first, rest, values⟩ := List.exists_cons_of_ne_nil versions
  obtain ⟨newest, member, found, above⟩ := newest?_cons first rest
  rw [← values] at member found above
  refine ⟨newest, member, found, fun other inside apart => older_of_noNewer (above other inside) fun same => apart ?_⟩
  have there := keyed.find?_key inside
  rw [same, keyed.find?_key member] at there
  exact (Option.some.inj there).symm

/-- Loading a snapshot shows what it holds, whatever the store held before. -/
theorem showsInitial_loaded (s : Store) (preferred : Option DagResultId) (valid : snapshot.validate = .ok ())
    (keyed : snapshot.dags.KeyedBy Dag.id) : ShowsInitial snapshot preferred (s.loaded snapshot preferred) := by
  have complete : snapshot.newestFirst.Perm snapshot.results := Sorting.perm_sortBy _ _
  refine ⟨complete, snapshot.newestFirst_ordered, fun created id => ?_, fun runs => ?_, fun none => ?_⟩
  · refine Sorting.filter_sortBy DagResult.mayPrecede_total DagResult.mayPrecede_trans (fun a b one other => ?_) _
    obtain ⟨rfl, rfl⟩ := of_decide_eq_true one
    obtain ⟨created, id⟩ := of_decide_eq_true other
    exact DagResult.mayPrecede_iff.mpr (.inr ⟨by rw [created], by rw [id]; exact BitVec.le_refl _⟩)
  · rcases shown_of_loaded snapshot preferred s with ⟨index, run, initial, found, chosen, shown⟩ | ⟨blank, _, _⟩
    · obtain ⟨_, same, picks⟩ := RunPicker.picks_of_initialIndex initial
      cases found.symm.trans same
      have known := (Snapshot.validate_eq_ok_iff.mp valid).1 run (complete.subset (List.mem_of_getElem? found))
      obtain ⟨dag, stored⟩ := Option.isSome_iff_exists.mp known
      refine ⟨index, run, dag, picks, chosen, ?_, stored, keyed.find? stored, ?_, ?_⟩
      · rw [selectedResult, chosen]
        exact found
      · rw [activeDag, shown]
        exact stored
      · rw [chosen]
        exact RunPicker.selected_entries found
    · rw [blank] at complete
      exact absurd (List.nil_perm.mp complete) runs
  · rcases shown_of_loaded snapshot preferred s with ⟨_, _, _, there, _, _⟩ | ⟨_, unchosen, shown⟩
    · have member := complete.subset (List.mem_of_getElem? there)
      rw [none] at member
      cases member
    · refine ⟨unchosen, fun empty => ?_, fun versions => ?_⟩
      · rw [activeDag, shown, empty]
        rfl
      · obtain ⟨dag, member, newest, above⟩ := newest?_of_keyed keyed versions
        refine ⟨dag, member, ?_, above⟩
        rw [activeDag, shown, newest]
        exact keyed.find?_key member

end Store

end DagConsole

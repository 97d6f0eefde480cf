import DagConsole.Proofs.Dag.Edges
import DagConsole.Proofs.Sorting
import DagConsole.Store.Basic

/-! What each operation of a store comes to: its result and the store after it, case by case. -/
namespace DagConsole

namespace Loadable

variable {α : Type}

theorem ofOutcome_ne_initial (answer : Outcome α) : ofOutcome answer ≠ .initial := by
  cases answer <;> nofun

theorem ofOutcome_eq_succeeded_iff {answer : Outcome α} {value : α} :
    ofOutcome answer = .succeeded value ↔ answer = .ok value := by
  cases answer <;> simp [ofOutcome]

end Loadable

namespace RunPicker

theorem initialIndex_eq_none_iff {results : List DagResult} {preferred : Option DagResultId} :
    initialIndex results preferred = none ↔ results = [] := by
  unfold initialIndex
  cases results with
  | nil => simp
  | cons result rest => cases preferred <;> simp

theorem initialIndex_lt {results : List DagResult} {preferred : Option DagResultId} {index : Nat}
    (initial : initialIndex results preferred = some index) : index < results.length := by
  cases results with
  | nil => cases initial
  | cons result rest =>
    cases preferred with
    | none =>
      cases initial
      exact Nat.zero_lt_succ _
    | some id =>
      have chosen : ((result :: rest).findIdx? fun result => result.id == id).getD 0 = index :=
        Option.some.inj initial
      cases found : (result :: rest).findIdx? fun result => result.id == id with
      | none =>
        rw [found, Option.getD_none] at chosen
        exact chosen ▸ Nat.zero_lt_succ _
      | some first =>
        rw [found, Option.getD_some] at chosen
        exact chosen ▸ (List.findIdx?_eq_some_iff_getElem.mp found).1

end RunPicker

namespace Snapshot

theorem forM_eq_ok_iff {α : Type} {list : List α} {check : α → Outcome Unit} :
    list.forM check = .ok () ↔ ∀ a ∈ list, check a = .ok () := by
  induction list with
  | nil => simp [pure, Except.pure]
  | cons a rest ih =>
    rw [List.forM, List.forall_mem_cons, ← ih]
    cases check a <;> simp [bind, Except.bind]

/-- A snapshot passes when its runs executed versions that it holds and these pass. -/
theorem validate_eq_ok_iff {snapshot : Snapshot} : snapshot.validate = .ok () ↔
    (∀ result ∈ snapshot.results, snapshot.dags.contains result.dag) ∧
      ∀ dag ∈ snapshot.dags.values, dag.validate = .ok () := by
  have known (result : DagResult) :
      discard (snapshot.dagFor result) = .ok () ↔ snapshot.dags.contains result.dag := by
    unfold dagFor FinMap.contains
    cases snapshot.dags.find? result.dag <;> simp [discard, Functor.discard, Functor.mapConst, Except.map]
  unfold validate
  simp only [← known, ← forM_eq_ok_iff]
  cases snapshot.results.forM fun result => discard (snapshot.dagFor result) <;>
    simp [bind, Except.bind]

end Snapshot

theorem Id.isLE_compare_iff {kind : IdKind} {a b : Id kind} : (compare a b).isLE ↔ a.bits ≤ b.bits :=
  isLE_compareOfLessAndEq BitVec.le_antisymm BitVec.not_le BitVec.le_total

namespace Timestamp

instance : Std.TransOrd Timestamp :=
  inferInstanceAs (Std.TransCmp (compareOn Timestamp.nanoseconds))

theorem compare_eq_lt_iff {a b : Timestamp} : compare a b = .lt ↔ a.nanoseconds < b.nanoseconds :=
  (Std.compare_eq_lt : compare a.nanoseconds b.nanoseconds = .lt ↔ _)

theorem compare_eq_eq_iff {a b : Timestamp} : compare a b = .eq ↔ a.nanoseconds = b.nanoseconds :=
  (Std.compare_eq_iff_eq : compare a.nanoseconds b.nanoseconds = .eq ↔ _)

end Timestamp

namespace Store

/-- Versions are ordered by creation time and then by identifier. -/
theorem noNewer_eq (a b : Dag) : noNewer a b =
    (compareLex (compareOn fun dag : Dag => dag.metadata.created) (compareOn Dag.id) a b).isLE := by
  change _ = ((compare a.metadata.created b.metadata.created).then (compare a.id b.id)).isLE
  unfold noNewer
  cases a.metadata.created <;> cases b.metadata.created <;> rfl

theorem noNewer_total (a b : Dag) : noNewer a b ∨ noNewer b a := by
  rw [noNewer_eq, noNewer_eq]
  exact Sorting.isLE_total _ a b

theorem noNewer_trans {a b c : Dag} (first : noNewer a b) (second : noNewer b c) : noNewer a c := by
  rw [noNewer_eq] at *
  exact Std.TransCmp.isLE_trans first second

/-- Of versions with different identifiers, one is newer. -/
theorem id_eq_of_noNewer {a b : Dag} (first : noNewer a b) (second : noNewer b a) : a.id = b.id := by
  rw [noNewer_eq] at *
  have same := Std.OrientedCmp.isLE_antisymm first second
  exact Std.LawfulEqOrd.eq_of_compare (compareLex_eq_eq.mp same).2

theorem newest?_cons (dag : Dag) (rest : List Dag) : ∃ newest ∈ dag :: rest,
    newest? (dag :: rest) = some newest ∧ ∀ other ∈ dag :: rest, noNewer other newest := by
  induction rest generalizing dag with
  | nil =>
    have same : noNewer dag dag := (noNewer_total dag dag).elim id id
    exact ⟨dag, List.mem_cons_self, rfl, by simpa using same⟩
  | cons next rest ih =>
    -- Of the first two versions, the newer one stands for both.
    have kept : ∃ newer ∈ [dag, next], newest? (dag :: next :: rest) = newest? (newer :: rest) ∧
        noNewer dag newer ∧ noNewer next newer := by
      have same (dag : Dag) : noNewer dag dag := (noNewer_total dag dag).elim id id
      simp only [newest?, List.foldl_cons]
      split
      · rename_i before
        exact ⟨next, by simp, rfl, before, same next⟩
      · rename_i behind
        exact ⟨dag, by simp, rfl, same dag, (noNewer_total dag next).resolve_left behind⟩
    obtain ⟨newer, among, same, first, second⟩ := kept
    obtain ⟨newest, member, found, above⟩ := ih newer
    have least := above newer List.mem_cons_self
    refine ⟨newest, ?_, same.trans found, ?_⟩
    · rcases List.mem_cons.mp member with rfl | later
      · exact List.mem_append_left rest among
      · exact List.mem_append_right [dag, next] later
    · simp only [List.forall_mem_cons]
      exact ⟨noNewer_trans first least, noNewer_trans second least,
        fun other later => above other (List.mem_cons_of_mem _ later)⟩

theorem mem_of_newest? {dags : List Dag} {newest : Dag} (found : newest? dags = some newest) :
    newest ∈ dags := by
  cases dags with
  | nil => cases found
  | cons dag rest =>
    obtain ⟨other, member, same, _⟩ := newest?_cons dag rest
    rwa [← Option.some.inj (same.symm.trans found)]

theorem newest?_eq_none_iff {dags : List Dag} : newest? dags = none ↔ dags = [] := by
  cases dags with
  | nil => simp [newest?]
  | cons dag rest =>
    obtain ⟨newest, _, found, _⟩ := newest?_cons dag rest
    simp [found]

/-- The newest version is the same one in every order. -/
theorem newest?_eq_of_perm {one other : List Dag} (same : one.Perm other) (distinct : (one.map Dag.id).Nodup) :
    newest? one = newest? other := by
  cases one with
  | nil => rw [List.nil_perm.mp same]
  | cons dag rest =>
    cases other with
    | nil => cases List.perm_nil.mp same
    | cons otherDag others =>
      obtain ⟨newest, member, found, above⟩ := newest?_cons dag rest
      obtain ⟨otherNewest, otherMember, otherFound, otherAbove⟩ := newest?_cons otherDag others
      have back := same.mem_iff.mpr otherMember
      have equal := id_eq_of_noNewer (otherAbove newest (same.mem_iff.mp member)) (above otherNewest back)
      rw [found, otherFound, List.inj_on_of_nodup_map distinct member back equal]

variable {s : Store}

/-- A store after a workflow was loaded into it: two epochs later if a run could be selected, and else one
epoch later and with the newest version shown. -/
def loaded (snapshot : Snapshot) (preferred : Option DagResultId) (s : Store) : Store :=
  let index := RunPicker.initialIndex snapshot.newestFirst preferred
  let run := index.bind (snapshot.newestFirst[·]?)
  { workflow := s.workflow
    status := .succeeded
    dags := snapshot.dags
    results := snapshot.newestFirst
    selectedIndex := index
    activeDagId := (run.map DagResult.dag).or ((newest? snapshot.dags.values).map Dag.id)
    epoch := if index.isSome then s.epoch.next.next else s.epoch.next }

/-- A store shows a run that was loaded and the version it executed, or the newest version if there is none. -/
theorem shown_of_loaded (snapshot : Snapshot) (preferred : Option DagResultId) (s : Store) :
    (∃ index result, RunPicker.initialIndex snapshot.newestFirst preferred = some index ∧
      snapshot.newestFirst[index]? = some result ∧ (s.loaded snapshot preferred).selectedIndex = some index ∧
      (s.loaded snapshot preferred).activeDagId = some result.dag) ∨
    (snapshot.newestFirst = [] ∧ (s.loaded snapshot preferred).selectedIndex = none ∧
      (s.loaded snapshot preferred).activeDagId = (newest? snapshot.dags.values).map Dag.id) := by
  unfold loaded
  cases initial : RunPicker.initialIndex snapshot.newestFirst preferred with
  | none => exact .inr ⟨RunPicker.initialIndex_eq_none_iff.mp initial, rfl, rfl⟩
  | some index =>
    have found := List.getElem?_eq_getElem (RunPicker.initialIndex_lt initial)
    exact .inl ⟨index, _, rfl, found, rfl, by simp [found]⟩

/-- Where a run that executed a version the store holds can be selected, a new epoch starts with it. -/
theorem selectResult_of_known {index : Nat} {result : DagResult} (found : s.results[index]? = some result)
    (known : s.dags.contains result.dag) : s.selectResult index =
      (.ok (), { s with selectedIndex := some index, activeDagId := some result.dag }.resetRun) := by
  simp only [selectResult, found, known, if_true]

theorem selectResult_cases (s : Store) (index : Nat) :
    (∃ e, s.selectResult index = (.error e, s)) ∨
      ∃ result, s.results[index]? = some result ∧ s.dags.contains result.dag := by
  cases found : s.results[index]? with
  | none => exact .inl ⟨indexOutOfRange index s.results.length, by simp only [selectResult, found]⟩
  | some result =>
    cases known : s.dags.contains result.dag with
    | true => exact .inr ⟨result, rfl, known⟩
    | false => exact .inl ⟨Snapshot.unknownDag result, by simp [selectResult, found, known]⟩

theorem loadWorkflow_of_invalid {snapshot : Snapshot} {preferred : Option DagResultId} {e : Error}
    (invalid : snapshot.validate = .error e) : s.loadWorkflow snapshot preferred = (.error e, s) := by
  simp only [loadWorkflow, invalid]

/-- Once a snapshot has passed its checks it is loaded: selecting the initial run cannot fail. -/
theorem loadWorkflow_of_valid {snapshot : Snapshot} {preferred : Option DagResultId}
    (valid : snapshot.validate = .ok ()) :
    s.loadWorkflow snapshot preferred = (.ok (), s.loaded snapshot preferred) := by
  unfold loadWorkflow loaded
  cases initial : RunPicker.initialIndex snapshot.newestFirst preferred with
  | none => simp [valid, resetRun, initial]
  | some index =>
    have inside := RunPicker.initialIndex_lt initial
    have found : snapshot.newestFirst[index]? = some snapshot.newestFirst[index] :=
      List.getElem?_eq_getElem inside
    have member : snapshot.newestFirst[index] ∈ snapshot.results :=
      (Sorting.perm_sortBy _ _).subset (List.getElem_mem inside)
    have known := (Snapshot.validate_eq_ok_iff.mp valid).1 _ member
    simp [valid, resetRun, initial, selectResult, known, inside]

theorem applyWorkflow_of_stale {epoch : Epoch} {answer : Outcome Snapshot}
    {preferred : Option DagResultId} (stale : s.epoch ≠ epoch) :
    s.applyWorkflow epoch answer preferred = (.ok false, s) := if_pos stale

/-- The answer of the current epoch is loaded if it is a snapshot that passes its checks; otherwise nothing
changes but the status. -/
theorem applyWorkflow_of_current {answer : Outcome Snapshot} {preferred : Option DagResultId} :
    s.applyWorkflow s.epoch answer preferred =
      match answer.bind fun snapshot => snapshot.validate.map fun _ => snapshot with
      | .ok snapshot => (.ok true, s.loaded snapshot preferred)
      | .error e => (.error e, { s with status := .failed e.text }) := by
  cases answer with
  | error e => simp [applyWorkflow, Except.bind]
  | ok snapshot =>
    cases checked : snapshot.validate with
    | error e => simp [applyWorkflow, Except.bind, Except.map, checked, loadWorkflow_of_invalid checked]
    | ok _ => simp [applyWorkflow, Except.bind, Except.map, checked, loadWorkflow_of_valid checked]

theorem accepts_iff {ticket : Ticket} : s.accepts ticket ↔
    ticket.epoch = s.epoch ∧ s.selectedResult.map DagResult.id = some ticket.run := by
  rw [accepts, Bool.and_eq_true, beq_iff_eq, beq_iff_eq, eq_comm]

/-- The active version has an artifact of this identifier. -/
def HasArtifact (s : Store) (id : ArtifactId) : Prop :=
  ∃ dag, s.activeDag = some dag ∧ dag.artifacts.contains id

/-- The active version has an operator of this identifier. -/
def HasOperator (s : Store) (id : OperatorId) : Prop :=
  ∃ dag, s.activeDag = some dag ∧ dag.operators.contains id

theorem hasArtifact_of_nodeType {id : NodeId} {type : NodeType} (known : s.nodeType? id = some type)
    (artifact : type.isArtifact) : s.HasArtifact id.artifact := by
  obtain ⟨dag, active, found⟩ := Option.bind_eq_some_iff.mp known
  rcases Dag.nodeType?_eq_some_iff.mp found with ⟨op, _, rfl⟩ | ⟨_, _, present, _⟩
  · simp [NodeType.isArtifact, NodeType.isOperator_ofOperator] at artifact
  · exact ⟨dag, active, FinMap.contains_of_find? present⟩

theorem hasOperator_of_nodeType {id : NodeId} {type : NodeType} (known : s.nodeType? id = some type)
    (operator : type.isArtifact = false) : s.HasOperator id.operator := by
  obtain ⟨dag, active, found⟩ := Option.bind_eq_some_iff.mp known
  rcases Dag.nodeType?_eq_some_iff.mp found with ⟨_, present, _⟩ | ⟨_, artifact, _, rfl⟩
  · exact ⟨dag, active, FinMap.contains_of_find? present⟩
  · rw [NodeType.isArtifact_ofArtifact] at operator
    cases operator

/-- Whether the slot of a node of some type is still to be filled. -/
def needsFetch (s : Store) (id : NodeId) (type : NodeType) : Bool :=
  if type.isArtifact then ((s.artifactResults.find? id.artifact).getD .initial).needsFetch
  else ((s.operatorResults.find? id.operator).getD .initial).needsFetch

/-- What starting the fetch of a node comes to. -/
inductive FetchStart (s : Store) (id : NodeId) (force : Bool) :
    Outcome (Option NodeFetch) × Store → Prop where
  | unselected (missing : s.selectedResult = none) :
      FetchStart s id force (.error noSelectedResult, s)
  | foreign {run : DagResult} (selected : s.selectedResult = some run)
      (unknown : s.nodeType? id = none) : FetchStart s id force (.error (foreignNode id), s)
  | cached {run : DagResult} {type : NodeType} (selected : s.selectedResult = some run)
      (known : s.nodeType? id = some type) (kept : (force || s.needsFetch id type) = false) :
      FetchStart s id force (.ok none, s)
  | artifact {run : DagResult} {type : NodeType} (selected : s.selectedResult = some run)
      (known : s.nodeType? id = some type) (kind : type.isArtifact)
      (wanted : (force || s.needsFetch id type) = true) :
      FetchStart s id force (.ok (some (.artifact ⟨s.epoch, run.id⟩ id.artifact)),
        { s with artifactResults := s.artifactResults.insert id.artifact .loading })
  | operator {run : DagResult} {type : NodeType} (selected : s.selectedResult = some run)
      (known : s.nodeType? id = some type) (kind : type.isArtifact = false)
      (wanted : (force || s.needsFetch id type) = true) :
      FetchStart s id force (.ok (some (.operator ⟨s.epoch, run.id⟩ id.operator)),
        { s with operatorResults := s.operatorResults.insert id.operator .loading })

theorem beginNodeFetch_spec (s : Store) (id : NodeId) (force : Bool) :
    FetchStart s id force (s.beginNodeFetch id force) := by
  unfold beginNodeFetch
  cases selected : s.selectedResult with
  | none => exact .unselected selected
  | some run =>
    cases known : s.nodeType? id with
    | none => exact .foreign selected known
    | some type =>
      cases kind : type.isArtifact with
      | true =>
        have slot : s.needsFetch id type =
          ((s.artifactResults.find? id.artifact).getD .initial).needsFetch := if_pos kind
        simp only [kind, if_true, ← slot]
        split
        · rename_i wanted
          exact .artifact selected known kind wanted
        · rename_i kept
          exact .cached selected known (Bool.eq_false_iff.mpr kept)
      | false =>
        have slot : s.needsFetch id type =
          ((s.operatorResults.find? id.operator).getD .initial).needsFetch := by simp [needsFetch, kind]
        simp only [kind, Bool.false_eq_true, if_false, ← slot]
        split
        · rename_i wanted
          exact .operator selected known kind wanted
        · rename_i kept
          exact .cached selected known (Bool.eq_false_iff.mpr kept)

end Store

end DagConsole

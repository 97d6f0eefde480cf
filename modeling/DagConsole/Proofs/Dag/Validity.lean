import DagConsole.Proofs.Dag.Edges
import DagConsole.Proofs.Graph.Cycle

/-! The structural check on a version decides what it is meant to: references resolve, outputs have one
producer, and data does not flow in circles. -/
namespace DagConsole.Dag

open Relation

/-- One step of data between the operators and the artifacts of a version. -/
inductive Flow (dag : Dag) : OperatorId ⊕ ArtifactId → OperatorId ⊕ ArtifactId → Prop where
  | input {op : Operator} {artifact : ArtifactId} (member : op ∈ dag.operators.values)
      (consumed : artifact ∈ op.inputs) : Flow dag (.inr artifact) (.inl op.id)
  | output {op : Operator} {artifact : ArtifactId} (member : op ∈ dag.operators.values)
      (produced : artifact ∈ op.outputs) : Flow dag (.inl op.id) (.inr artifact)

/-- The structural invariants of a version. -/
structure Sound (dag : Dag) : Prop where
  /-- What an operator consumes or produces is an artifact of the version. -/
  references : ∀ op ∈ dag.operators.values, ∀ artifact ∈ op.inputs ++ op.outputs,
    artifact ∈ dag.artifacts.keys
  /-- No artifact is produced twice, by two operators or by one. -/
  producers : (dag.operators.values.flatMap Operator.outputs).Nodup
  acyclic : Graph.Acyclic dag.Flow

section Producers

variable {producers claimed : FinMap ArtifactId OperatorId} {op : OperatorId}
  {outputs : List ArtifactId} {e : Error}

theorem kind_of_claimOutputs_eq_error (failed : claimOutputs producers op outputs = .error e) :
    e.kind = .invalidDag := by
  induction outputs generalizing producers with
  | nil => cases failed
  | cons artifact rest ih =>
    unfold claimOutputs at failed
    split at failed
    · cases failed
      rfl
    · exact ih failed

/-- Outputs can be claimed when they are distinct and none has a producer. -/
theorem claimOutputs_isOk_iff : (claimOutputs producers op outputs).isOk ↔
    outputs.Nodup ∧ ∀ artifact ∈ outputs, producers.find? artifact = none := by
  induction outputs generalizing producers with
  | nil => simp [claimOutputs, Except.isOk, Except.toBool]
  | cons artifact rest ih =>
    unfold claimOutputs
    cases found : producers.find? artifact with
    | some other => simp [Except.isOk, Except.toBool, found]
    | none =>
      simp only [ih, List.nodup_cons, List.mem_cons, forall_eq_or_imp, found, true_and]
      constructor
      · rintro ⟨distinct, unclaimed⟩
        have absent : artifact ∉ rest := by
          intro member
          have free := unclaimed artifact member
          rw [FinMap.find?_insert_self] at free
          cases free
        refine ⟨⟨absent, distinct⟩, ?_⟩
        intro later member
        have apart : later ≠ artifact := fun same => absent (same ▸ member)
        have free := unclaimed later member
        rwa [FinMap.find?_insert_ne _ _ apart] at free
      · rintro ⟨⟨absent, distinct⟩, unclaimed⟩
        refine ⟨distinct, ?_⟩
        intro later member
        have apart : later ≠ artifact := fun same => absent (same ▸ member)
        rw [FinMap.find?_insert_ne _ _ apart]
        exact unclaimed later member

/-- What has no producer after outputs were claimed is none of them and had no producer before. -/
theorem find?_claimOutputs_eq_none_iff (success : claimOutputs producers op outputs = .ok claimed)
    {artifact : ArtifactId} :
    claimed.find? artifact = none ↔ artifact ∉ outputs ∧ producers.find? artifact = none := by
  induction outputs generalizing producers with
  | nil =>
    cases success
    simp
  | cons first rest ih =>
    unfold claimOutputs at success
    split at success
    · cases success
    · rw [ih success]
      by_cases same : artifact = first
      · subst artifact
        simp [FinMap.find?_insert_self]
      · simp [FinMap.find?_insert_ne _ _ same, same]

end Producers

section Operators

variable {artifacts : FinMap ArtifactId Artifact} {producers : FinMap ArtifactId OperatorId}
  {operators : List Operator} {e : Error}

theorem kind_of_checkOperators_eq_error (failed : checkOperators artifacts producers operators = .error e) :
    e.kind = .invalidDag := by
  induction operators generalizing producers with
  | nil => cases failed
  | cons op rest ih =>
    unfold checkOperators at failed
    split at failed
    · cases failed
      rfl
    · cases claim : claimOutputs producers op.id op.outputs with
      | error other =>
        rw [claim] at failed
        cases failed
        exact kind_of_claimOutputs_eq_error claim
      | ok claimed =>
        rw [claim] at failed
        exact ih failed

/-- The operators pass when their references resolve and their outputs, taken together, are distinct and
have no other producers. -/
theorem checkOperators_eq_ok_iff : checkOperators artifacts producers operators = .ok () ↔
    (∀ op ∈ operators, ∀ artifact ∈ op.inputs ++ op.outputs, artifact ∈ artifacts.keys) ∧
      (operators.flatMap Operator.outputs).Nodup ∧
      ∀ artifact ∈ operators.flatMap Operator.outputs, producers.find? artifact = none := by
  induction operators generalizing producers with
  | nil => simp [checkOperators]
  | cons op rest ih =>
    rw [List.flatMap_cons, List.nodup_append, List.forall_mem_append, List.forall_mem_cons]
    unfold checkOperators
    cases dangling : (op.inputs ++ op.outputs).find? fun artifact => !artifacts.contains artifact with
    | some artifact =>
      have member := List.mem_of_find?_eq_some dangling
      have unknown := List.find?_some dangling
      simp only [reduceCtorEq, false_iff]
      rintro ⟨⟨known, _⟩, _⟩
      simp [FinMap.contains_iff.mpr (known artifact member)] at unknown
    | none =>
      have known : ∀ artifact ∈ op.inputs ++ op.outputs, artifact ∈ artifacts.keys := by
        intro artifact member
        have present := List.find?_eq_none.mp dangling artifact member
        simpa [FinMap.contains_iff] using present
      have claimable : (claimOutputs producers op.id op.outputs).isOk ↔ _ := claimOutputs_isOk_iff
      cases claim : claimOutputs producers op.id op.outputs with
      | error other =>
        rw [claim] at claimable
        constructor
        · intro impossible
          cases impossible
        · rintro ⟨_, ⟨distinct, _⟩, unclaimed, _⟩
          cases claimable.mpr ⟨distinct, unclaimed⟩
      | ok claimed =>
        rw [claim] at claimable
        obtain ⟨distinct, unclaimed⟩ := claimable.mp rfl
        change checkOperators artifacts claimed rest = .ok () ↔ _
        simp only [ih, find?_claimOutputs_eq_none_iff claim]
        constructor
        · rintro ⟨references, distinctRest, free⟩
          refine ⟨⟨known, references⟩, ⟨distinct, distinctRest, ?_⟩, unclaimed, ?_⟩
          · intro artifact member other later same
            exact (free other later).1 (same ▸ member)
          · intro artifact member
            exact (free artifact member).2
        · rintro ⟨⟨_, references⟩, ⟨_, distinctRest, disjoint⟩, _, free⟩
          refine ⟨references, distinctRest, ?_⟩
          intro artifact member
          have unclaimedHere : artifact ∉ op.outputs := by
            intro earlier
            exact disjoint artifact earlier artifact member rfl
          exact ⟨unclaimedHere, free artifact member⟩

end Operators

variable {dag : Dag}

theorem mem_keyedEdges {source target : NodeId} :
    Graph.Along dag.keyedEdges source target ↔
      dag.Leads source target ∧ dag.isKey source ∧ dag.isKey target := by
  simp only [Graph.Along, keyedEdges, List.mem_map, List.mem_filter, Bool.and_eq_true, Prod.mk.injEq]
  constructor
  · rintro ⟨edge, ⟨member, keys⟩, rfl, rfl⟩
    exact ⟨member, keys⟩
  · rintro ⟨member, keys⟩
    exact ⟨⟨source, target⟩, ⟨member, keys⟩, rfl, rfl⟩

theorem validate_eq : dag.validate =
    (checkOperators dag.artifacts .empty dag.operators.values).bind fun _ =>
      if Graph.hasCycle dag.keyedEdges then .error (cyclic dag.id) else .ok () := rfl

theorem kind_of_validate_eq_error {e : Error} (failed : dag.validate = .error e) :
    e.kind = .invalidDag := by
  rw [validate_eq] at failed
  cases checked : checkOperators dag.artifacts .empty dag.operators.values with
  | error other =>
    rw [checked] at failed
    cases failed
    exact kind_of_checkOperators_eq_error checked
  | ok _ =>
    rw [checked, Except.bind] at failed
    split at failed
    · cases failed
      rfl
    · cases failed

/-- What the check accepts, in terms of the graph that it searches for a cycle. -/
theorem validate_eq_ok_iff_keyedEdges : dag.validate = .ok () ↔
    (∀ op ∈ dag.operators.values, ∀ artifact ∈ op.inputs ++ op.outputs,
        artifact ∈ dag.artifacts.keys) ∧
      (dag.operators.values.flatMap Operator.outputs).Nodup ∧
      Graph.Acyclic (Graph.Along dag.keyedEdges) := by
  have passes : checkOperators dag.artifacts .empty dag.operators.values = .ok () ↔ _ :=
    checkOperators_eq_ok_iff
  simp only [FinMap.find?_empty, implies_true, and_true] at passes
  rw [← and_assoc, ← passes, validate_eq, ← Graph.hasCycle_eq_false_iff]
  cases checkOperators dag.artifacts .empty dag.operators.values with
  | error e => simp [Except.bind]
  | ok _ => cases Graph.hasCycle dag.keyedEdges <;> simp [Except.bind]

section Flow

variable (keyed : dag.WellKeyed) (apart : dag.Apart)
  (references : ∀ op ∈ dag.operators.values, ∀ artifact ∈ op.inputs ++ op.outputs,
    artifact ∈ dag.artifacts.keys)

/-- The node that an identifier names: an operator if there is one, else an artifact. -/
def nodeOf (dag : Dag) (id : NodeId) : OperatorId ⊕ ArtifactId :=
  if dag.operators.contains id.operator then .inl id.operator else .inr id.artifact

theorem nodeOf_operator {id : OperatorId} (operator : dag.operators.contains id) :
    dag.nodeOf id.node = .inl id := if_pos operator

include apart in
theorem nodeOf_artifact {id : NodeId} (artifact : id.artifact ∈ dag.artifacts.keys) :
    dag.nodeOf id = .inr id.artifact :=
  if_neg (Bool.eq_false_iff.mp (apart.not_operator (FinMap.contains_iff.mpr artifact)))

include keyed apart references in
theorem flow_of_leads {source target : NodeId} (edge : dag.Leads source target) :
    dag.Flow (dag.nodeOf source) (dag.nodeOf target) := by
  obtain ⟨op, member, ⟨consumed, rfl⟩ | ⟨rfl, produced⟩⟩ := leads_iff.mp edge
  · have known := references op member _ (List.mem_append_left _ consumed)
    rw [nodeOf_artifact apart known, nodeOf_operator (keyed.contains_operator member)]
    exact .input member consumed
  · have known := references op member _ (List.mem_append_right _ produced)
    rw [nodeOf_artifact apart known, nodeOf_operator (keyed.contains_operator member)]
    exact .output member produced

include keyed references in
theorem leads_of_flow {source target : OperatorId ⊕ ArtifactId} (flow : dag.Flow source target) :
    Graph.Along dag.keyedEdges (source.elim Id.node Id.node) (target.elim Id.node Id.node) := by
  cases flow with
  | @input op artifact member consumed =>
    have known := references op member artifact (List.mem_append_left _ consumed)
    refine mem_keyedEdges.mpr ⟨leads_iff.mpr ⟨op, member, .inl ⟨consumed, rfl⟩⟩, ?_, ?_⟩
    · simp [isKey, FinMap.contains_iff.mpr known]
    · exact keyed.isKey_operator member
  | @output op artifact member produced =>
    have known := references op member artifact (List.mem_append_right _ produced)
    refine mem_keyedEdges.mpr ⟨leads_iff.mpr ⟨op, member, .inr ⟨rfl, produced⟩⟩, ?_, ?_⟩
    · exact keyed.isKey_operator member
    · simp [isKey, FinMap.contains_iff.mpr known]

include keyed apart references in
/-- As long as identifiers tell operators and artifacts apart, it makes no difference whether a cycle is
looked for among identifiers or among nodes. -/
theorem acyclic_keyedEdges_iff :
    Graph.Acyclic (Graph.Along dag.keyedEdges) ↔ Graph.Acyclic dag.Flow := by
  constructor
  · intro acyclic
    exact acyclic.of_lift _ fun _ _ flow => .single (leads_of_flow keyed references flow)
  · intro acyclic
    refine acyclic.of_lift dag.nodeOf fun source target edge => .single ?_
    exact flow_of_leads keyed apart references (mem_keyedEdges.mp edge).1

end Flow

theorem validate_eq_ok_iff (keyed : dag.WellKeyed) (apart : dag.Apart) :
    dag.validate = .ok () ↔ dag.Sound := by
  rw [validate_eq_ok_iff_keyedEdges]
  constructor
  · rintro ⟨references, producers, acyclic⟩
    exact ⟨references, producers, (acyclic_keyedEdges_iff keyed apart references).mp acyclic⟩
  · rintro ⟨references, producers, acyclic⟩
    exact ⟨references, producers, (acyclic_keyedEdges_iff keyed apart references).mpr acyclic⟩

/-- The check accepts exactly the sound versions, and refuses every other one as invalid. -/
theorem validate_decides_soundness (keyed : dag.WellKeyed) (apart : dag.Apart) :
    (dag.validate = .ok () ↔ dag.Sound) ∧
      (¬ dag.Sound → ∃ e, dag.validate = .error e ∧ e.kind = .invalidDag) := by
  have accepts := validate_eq_ok_iff keyed apart
  refine ⟨accepts, ?_⟩
  intro unsound
  cases outcome : dag.validate with
  | error e => exact ⟨e, rfl, kind_of_validate_eq_error outcome⟩
  | ok _ => exact absurd (accepts.mp outcome) unsound

/-- A table is extracted and checked. -/
def checkedTable : Dag :=
  let extract : Operator := { id := ⟨1⟩, name := "extract", spec := ⟨.extract, .empty⟩, outputs := [⟨3⟩] }
  let check : Operator :=
    { id := ⟨2⟩, name := "check", spec := ⟨.check, .empty⟩, inputs := [⟨3⟩], outputs := [⟨4⟩] }
  ({ id := ⟨5⟩, workflow := ⟨6⟩ } : Dag)
    |>.withOperator extract |>.withArtifact { id := ⟨3⟩, name := "table", type := .table }
    |>.withOperator check |>.withArtifact { id := ⟨4⟩, name := "passed", type := .bool }

theorem sound_checkedTable : checkedTable.WellKeyed ∧ checkedTable.Apart ∧ checkedTable.Sound :=
  ⟨by decide, by decide, (validate_decides_soundness (by decide) (by decide)).1.mp rfl⟩

end DagConsole.Dag

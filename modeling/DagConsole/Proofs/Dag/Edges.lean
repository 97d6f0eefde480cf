import DagConsole.Dag.Validity
import DagConsole.Proofs.FinMap
import Mathlib.Logic.Relation

/-! The edges of a version, and how its maps name the nodes that they join. -/
namespace DagConsole

namespace Id

variable {kind : IdKind}

@[simp] theorem operator_self (id : OperatorId) : id.operator = id := rfl

@[simp] theorem artifact_self (id : ArtifactId) : id.artifact = id := rfl

@[simp] theorem operator_artifact (id : Id kind) : id.artifact.operator = id.operator := rfl

@[simp] theorem artifact_node (id : Id kind) : id.node.artifact = id.artifact := rfl

@[simp] theorem artifact_operator (id : Id kind) : id.operator.artifact = id.artifact := rfl

end Id

instance : Std.LawfulEqOrd DagEdge where
  compare_self {edge} := by
    change compareLex (compareOn DagEdge.source) (compareOn DagEdge.target) edge edge = .eq
    exact Std.ReflCmp.compare_self
  eq_of_compare {one other} same := by
    obtain ⟨sources, targets⟩ := compareLex_eq_eq.mp same
    cases one; cases other
    exact congr (congrArg DagEdge.mk (Std.LawfulEqOrd.eq_of_compare sources))
      (Std.LawfulEqOrd.eq_of_compare targets)

namespace Dag

/-- Every operator and every artifact is stored under its own identifier. -/
structure WellKeyed (dag : Dag) : Prop where
  operators : dag.operators.KeyedBy Operator.id
  artifacts : dag.artifacts.KeyedBy Artifact.id

instance (dag : Dag) : Decidable dag.WellKeyed :=
  decidable_of_iff (dag.operators.KeyedBy Operator.id ∧ dag.artifacts.KeyedBy Artifact.id)
    ⟨fun keyed => ⟨keyed.1, keyed.2⟩, fun keyed => ⟨keyed.1, keyed.2⟩⟩

/-- No operator shares its identifier with an artifact. -/
def Apart (dag : Dag) : Prop := ∀ id ∈ dag.operators.keys, dag.artifacts.contains id.artifact = false

instance (dag : Dag) : Decidable dag.Apart :=
  inferInstanceAs (Decidable (∀ id ∈ dag.operators.keys, _))

theorem WellKeyed.withOperator {dag : Dag} (keyed : dag.WellKeyed) (op : Operator) :
    (dag.withOperator op).WellKeyed := ⟨keyed.operators.insert op, keyed.artifacts⟩

theorem WellKeyed.withArtifact {dag : Dag} (keyed : dag.WellKeyed) (artifact : Artifact) :
    (dag.withArtifact artifact).WellKeyed := ⟨keyed.operators, keyed.artifacts.insert artifact⟩

/-- One step along the edges of a version. -/
def Leads (dag : Dag) (source target : NodeId) : Prop := ⟨source, target⟩ ∈ dag.edges

theorem mem_edgesAt {op : Operator} {source target : NodeId} :
    ⟨source, target⟩ ∈ edgesAt op ↔
      (source.artifact ∈ op.inputs ∧ target = op.id.node) ∨
        (source = op.id.node ∧ target.artifact ∈ op.outputs) := by
  simp only [edgesAt, List.mem_append, List.mem_map, DagEdge.mk.injEq]
  constructor
  · rintro (⟨artifact, member, rfl, rfl⟩ | ⟨artifact, member, rfl, rfl⟩)
    · exact .inl ⟨member, rfl⟩
    · exact .inr ⟨rfl, member⟩
  · rintro (⟨member, rfl⟩ | ⟨rfl, member⟩)
    · exact .inl ⟨source.artifact, member, rfl, rfl⟩
    · exact .inr ⟨target.artifact, member, rfl, rfl⟩

theorem mem_edgesOf {operators : List Operator} {edge : DagEdge} :
    edge ∈ edgesOf operators ↔ ∃ op ∈ operators, edge ∈ edgesAt op := by
  simp [edgesOf, FinMap.mem_keys_ofList]

/-- An edge leads from an input to the operator that consumes it, or from an operator to its output. -/
theorem leads_iff {dag : Dag} {source target : NodeId} :
    dag.Leads source target ↔ ∃ op ∈ dag.operators.values,
      (source.artifact ∈ op.inputs ∧ target = op.id.node) ∨
        (source = op.id.node ∧ target.artifact ∈ op.outputs) := by
  simp only [Leads, edges, mem_edgesOf, mem_edgesAt]

/-- The kind of a node is told by the operator stored under its identifier, or else by the artifact. -/
theorem nodeType?_eq_some_iff {dag : Dag} {id : NodeId} {type : NodeType} : dag.nodeType? id = some type ↔
    (∃ op, dag.operators.find? id.operator = some op ∧ type = .ofOperator op.type) ∨
      (dag.operators.find? id.operator = none ∧
        ∃ artifact, dag.artifacts.find? id.artifact = some artifact ∧ type = .ofArtifact artifact.type) := by
  unfold nodeType?
  cases dag.operators.find? id.operator with
  | some op => simp [eq_comm]
  | none => simp [eq_comm]

/-- The kinds of the nodes that a version has are known, and no others. -/
theorem isSome_nodeType?_iff {dag : Dag} {id : NodeId} : (dag.nodeType? id).isSome ↔ dag.isKey id := by
  unfold nodeType? isKey FinMap.contains
  cases dag.operators.find? id.operator <;> simp

theorem WellKeyed.contains_operator {dag : Dag} (keyed : dag.WellKeyed) {op : Operator}
    (member : op ∈ dag.operators.values) : dag.operators.contains op.id :=
  FinMap.contains_of_find? (keyed.operators.find?_key member)

theorem WellKeyed.isKey_operator {dag : Dag} (keyed : dag.WellKeyed) {op : Operator}
    (member : op ∈ dag.operators.values) : dag.isKey op.id.node :=
  Bool.or_eq_true_iff.mpr (.inl (keyed.contains_operator member))

theorem Apart.not_operator {dag : Dag} (apart : dag.Apart) {id : ArtifactId}
    (artifact : dag.artifacts.contains id) : dag.operators.contains id.operator = false := by
  apply Bool.eq_false_iff.mpr
  intro operator
  have absent := apart id.operator (FinMap.contains_iff.mp operator)
  rw [Id.artifact_operator] at absent
  exact Bool.false_ne_true (absent.symm.trans artifact)

end Dag

end DagConsole

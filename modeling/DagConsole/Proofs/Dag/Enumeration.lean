import DagConsole.Proofs.Dag.Validity
import DagConsole.Proofs.Sorting
import Mathlib.Data.List.Destutter

/-! Versions whose maps are visited in whatever order: sorting their edges removes the order, and whether they pass the
check does not depend on it. -/
namespace DagConsole

namespace FinMap

universe u v

variable {κ : Type u} {α : Type v} [Ord κ]

/-- A map as it is visited: its entries, in any order. -/
structure Visit (m : FinMap κ α) where
  entries : List (κ × α)
  perm : entries.Perm m.entries

namespace Visit

variable {m : FinMap κ α} (visit : m.Visit)

def keys : List κ := visit.entries.map Prod.fst

def values : List α := visit.entries.map Prod.snd

theorem values_perm : visit.values.Perm m.values := visit.perm.map Prod.snd

theorem keys_perm : visit.keys.Perm m.keys := visit.perm.map Prod.fst

/-- A map filled with what is visited. -/
def toMap [Std.TransOrd κ] : FinMap κ α := .ofList visit.entries

@[simp] theorem toMap_eq [Std.TransOrd κ] [Std.LawfulEqOrd κ] : visit.toMap = m := ofList_eq_of_perm_entries visit.perm

end Visit

end FinMap

namespace Dag

section Edges

variable {operators others : List Operator}

/-- The edges at some operators, sorted, and of neighbours that are the same only one. -/
def sortedEdges (operators : List Operator) : List DagEdge :=
  (Sorting.sortBy (fun a b => (compare a b).isLE) (operators.flatMap edgesAt)).destutter (· ≠ ·)

theorem sortedEdges_eq (operators : List Operator) : sortedEdges operators = edgesOf operators := by
  let list := operators.flatMap edgesAt
  let noGreater (a b : DagEdge) : Prop := (compare a b).isLE
  have antisymm : Std.Antisymm noGreater := ⟨fun _ _ => Sorting.isLE_antisymm⟩
  have sorted : (Sorting.sortBy (fun a b => (compare a b).isLE) list).Pairwise noGreater :=
    Sorting.pairwise_sortBy (Sorting.isLE_total compare) (fun _ _ _ => Std.TransCmp.isLE_trans) list
  rw [sortedEdges, sorted.destutter_eq_dedup]
  apply FinMap.eq_of_ascending fun edge => edge
  · have distinct := List.nodup_dedup (Sorting.sortBy (fun a b => (compare a b).isLE) list)
    exact Sorting.ascending_of_sorted (fun edge => edge) (sorted.sublist (List.dedup_sublist _)) (by rwa [List.map_id'])
  · exact List.pairwise_map.mpr (FinMap.ascending _)
  · intro edge
    rw [List.mem_dedup, (Sorting.perm_sortBy _ list).mem_iff, mem_edgesOf, List.mem_flatMap]

theorem edgesOf_eq_of_perm (same : operators.Perm others) : edgesOf operators = edgesOf others := by
  have permuted := (same.flatMap_right edgesAt).map fun edge => (edge, ())
  have consistent : FinMap.Consistent ((operators.flatMap edgesAt).map fun edge => (edge, ())) :=
    fun _ _ _ _ same => Prod.ext same rfl
  rw [edgesOf, edgesOf, FinMap.ofList_eq_of_perm consistent permuted]

end Edges

/-- The orders in which the maps of a version are visited. -/
structure Visit (dag : Dag) where
  operators : dag.operators.Visit
  artifacts : dag.artifacts.Visit

namespace Visit

variable {dag : Dag} (visit : dag.Visit)

def edges : List DagEdge := sortedEdges visit.operators.values

theorem edges_eq : visit.edges = dag.edges :=
  (sortedEdges_eq _).trans (edgesOf_eq_of_perm visit.operators.values_perm)

/-! ### The check -/

/-- The identifiers under which operators and artifacts are stored. -/
def ids : List NodeId := visit.operators.keys.map Id.node ++ visit.artifacts.keys.map Id.node

/-- The nodes of the graph that is searched for a cycle, numbered as they are visited. -/
def numbers : FinMap NodeId Nat := .ofList visit.ids.zipIdx

/-- The edges of that graph: those between nodes that have a number. -/
def graph : List (Nat × Nat) := visit.edges.filterMap fun edge => do
  return (← visit.numbers.find? edge.source, ← visit.numbers.find? edge.target)

def validate : Outcome Unit := do
  checkOperators dag.artifacts .empty visit.operators.values
  if Graph.hasCycle visit.graph then .error (cyclic dag.id) else .ok ()

theorem mem_ids {id : NodeId} : id ∈ visit.ids ↔ dag.isKey id := by
  simp only [ids, List.mem_append, List.mem_map, visit.operators.keys_perm.mem_iff, visit.artifacts.keys_perm.mem_iff,
    isKey, Bool.or_eq_true, FinMap.contains_iff]
  constructor
  · rintro (⟨key, member, rfl⟩ | ⟨key, member, rfl⟩)
    · exact .inl member
    · exact .inr member
  · rintro (operator | artifact)
    · exact .inl ⟨id.operator, operator, rfl⟩
    · exact .inr ⟨id.artifact, artifact, rfl⟩

theorem isSome_number_iff {id : NodeId} : (visit.numbers.find? id).isSome ↔ dag.isKey id := by
  change visit.numbers.contains id ↔ _
  rw [numbers, FinMap.contains_ofList, List.zipIdx_map_fst, mem_ids]

/-- A number is the number of one node only. -/
theorem getElem?_of_number {id : NodeId} {number : Nat} (found : visit.numbers.find? id = some number) :
    visit.ids[number]? = some id := List.mk_mem_zipIdx_iff_getElem?.mp (FinMap.mem_of_find?_ofList found)

theorem mem_graph {one other : Nat} : Graph.Along visit.graph one other ↔ ∃ source target,
    dag.Leads source target ∧ visit.numbers.find? source = some one ∧ visit.numbers.find? target = some other := by
  simp only [Graph.Along, graph, List.mem_filterMap, visit.edges_eq]
  constructor
  · rintro ⟨edge, member, both⟩
    obtain ⟨first, source, rest⟩ := Option.bind_eq_some_iff.mp both
    obtain ⟨second, target, same⟩ := Option.bind_eq_some_iff.mp rest
    cases same
    exact ⟨edge.source, edge.target, member, source, target⟩
  · rintro ⟨source, target, edge, first, second⟩
    exact ⟨⟨source, target⟩, edge, by simp [first, second]⟩

/-- Numbering the nodes neither opens a cycle nor closes one. -/
theorem acyclic_graph_iff :
    Graph.Acyclic (Graph.Along visit.graph) ↔ Graph.Acyclic (Graph.Along dag.keyedEdges) := by
  constructor
  · intro acyclic
    refine acyclic.of_lift (fun id => (visit.numbers.find? id).getD 0) fun source target edge => .single ?_
    obtain ⟨leads, start, stop⟩ := mem_keyedEdges.mp edge
    obtain ⟨one, first⟩ := Option.isSome_iff_exists.mp (visit.isSome_number_iff.mpr start)
    obtain ⟨other, second⟩ := Option.isSome_iff_exists.mp (visit.isSome_number_iff.mpr stop)
    refine visit.mem_graph.mpr ⟨source, target, leads, ?_, ?_⟩
    · rw [first, Option.getD_some]
    · rw [second, Option.getD_some]
  · intro acyclic
    refine acyclic.of_lift (fun number => visit.ids[number]?.getD default) fun one other edge => .single ?_
    obtain ⟨source, target, leads, first, second⟩ := visit.mem_graph.mp edge
    rw [visit.getElem?_of_number first, visit.getElem?_of_number second]
    have start := visit.isSome_number_iff.mp (Option.isSome_of_mem first)
    have stop := visit.isSome_number_iff.mp (Option.isSome_of_mem second)
    exact mem_keyedEdges.mpr ⟨leads, start, stop⟩

theorem checkOperators_eq_ok_iff : checkOperators dag.artifacts .empty visit.operators.values = .ok () ↔
    checkOperators dag.artifacts .empty dag.operators.values = .ok () := by
  have same := visit.operators.values_perm
  have outputs := same.flatMap_right Operator.outputs
  rw [Dag.checkOperators_eq_ok_iff, Dag.checkOperators_eq_ok_iff, outputs.nodup_iff]
  simp only [same.mem_iff, outputs.mem_iff]

/-- Whether a version passes does not depend on the order in which it is visited. -/
theorem validate_eq_ok_iff : visit.validate = .ok () ↔ dag.validate = .ok () := by
  have operators := visit.checkOperators_eq_ok_iff
  have cycles : Graph.hasCycle visit.graph = Graph.hasCycle dag.keyedEdges := by
    rw [Bool.eq_iff_iff, ← Bool.not_eq_false, ← Bool.not_eq_false, Graph.hasCycle_eq_false_iff,
      Graph.hasCycle_eq_false_iff, visit.acyclic_graph_iff]
  have both {first second : Outcome Unit} :
      (first.bind fun _ => second) = .ok () ↔ first = .ok () ∧ second = .ok () := by
    cases first <;> simp [Except.bind]
  change (Except.bind _ _) = _ ↔ (Except.bind _ _) = _
  rw [cycles, both, both, operators]

end Visit

end Dag

end DagConsole

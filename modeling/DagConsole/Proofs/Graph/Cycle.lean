import DagConsole.Graph.Cycle
import Mathlib.Data.Fintype.Card
import Mathlib.Data.Set.Finite.Basic
import Mathlib.Logic.Relation
import Mathlib.Order.WellFounded

/-! Peeling decides whether a finite list of edges contains a directed cycle. -/
namespace DagConsole.Graph

open Relation

variable {α : Type}

/-- A directed path leads from no node back to itself. -/
def Acyclic (step : α → α → Prop) : Prop := ∀ node, ¬ TransGen step node node

/-- One step along a list of edges. -/
def Along (edges : List (α × α)) (source target : α) : Prop := (source, target) ∈ edges

theorem Along.mono {edges others : List (α × α)} (subset : edges ⊆ others) :
    TransGen (Along edges) ≤ TransGen (Along others) :=
  TransGen.mono fun _ _ member => subset member

/-- A relation that is followed by an acyclic one, step by step, is acyclic. -/
theorem Acyclic.of_lift {β : Type} {step : α → α → Prop} {other : β → β → Prop}
    (acyclic : Acyclic other) (f : α → β) (lift : ∀ a b, step a b → TransGen other (f a) (f b)) :
    Acyclic step :=
  fun node cycle => acyclic (f node) (TransGen.lift' f lift _ _ cycle)

variable [DecidableEq α]

theorem mem_peel {edges : List (α × α)} {edge : α × α} :
    edge ∈ peel edges ↔ edge ∈ edges ∧ ∃ source, (source, edge.1) ∈ edges := by
  simp [peel]

theorem peel_subset (edges : List (α × α)) : peel edges ⊆ edges := List.filter_subset_self _

/-- A path that starts where some edge ends loses none of its edges. -/
theorem path_peel {edges : List (α × α)} {source start target : α} (entered : (source, start) ∈ edges)
    (path : TransGen (Along edges) start target) : TransGen (Along (peel edges)) start target := by
  induction path with
  | single edge => exact .single (mem_peel.mpr ⟨edge, source, entered⟩)
  | tail earlier edge ih =>
    obtain ⟨previous, _, into⟩ := TransGen.tail'_iff.mp earlier
    exact ih.tail (mem_peel.mpr ⟨edge, previous, into⟩)

theorem cycle_peel {edges : List (α × α)} {node : α} (cycle : TransGen (Along edges) node node) :
    TransGen (Along (peel edges)) node node := by
  obtain ⟨previous, _, into⟩ := TransGen.tail'_iff.mp cycle
  exact path_peel into cycle

theorem core_subset (rounds : Nat) (edges : List (α × α)) : core rounds edges ⊆ edges := by
  induction rounds generalizing edges with
  | zero => exact List.Subset.refl _
  | succ rounds ih =>
    unfold core
    dsimp only
    split
    · exact List.Subset.refl _
    · exact List.Subset.trans (ih _) (peel_subset edges)

theorem cycle_core (rounds : Nat) {edges : List (α × α)} {node : α}
    (cycle : TransGen (Along edges) node node) : TransGen (Along (core rounds edges)) node node := by
  induction rounds generalizing edges with
  | zero => exact cycle
  | succ rounds ih =>
    unfold core
    dsimp only
    split
    · exact cycle
    · exact ih (cycle_peel cycle)

/-- With a round for every edge, peeling goes on until nothing changes. -/
theorem peel_core {rounds : Nat} {edges : List (α × α)} (enough : edges.length ≤ rounds) :
    peel (core rounds edges) = core rounds edges := by
  induction rounds generalizing edges with
  | zero =>
    have empty : edges = [] := List.eq_nil_of_length_eq_zero (Nat.le_zero.mp enough)
    subst empty
    rfl
  | succ rounds ih =>
    have shorter : (peel edges).length ≤ edges.length := List.length_filter_le _ _
    unfold core
    dsimp only
    split
    · rename_i same
      exact List.filter_sublist.eq_of_length same
    · rename_i removed
      exact ih (by omega)

/-- Edges that all have a predecessor hold a cycle unless there are none: going back along
predecessors never ends, and there are finitely many nodes to visit. -/
theorem empty_of_peel_eq {edges : List (α × α)} (fixed : peel edges = edges)
    (acyclic : Acyclic (Along edges)) : edges = [] := by
  let sources := {node : α // node ∈ edges.map Prod.fst}
  let before (a b : sources) : Prop := TransGen (Along edges) a.1 b.1
  have : IsTrans sources before := ⟨fun _ _ _ first second => first.trans second⟩
  have : Std.Irrefl before := ⟨fun node => acyclic node.1⟩
  have : Finite sources := (edges.map Prod.fst).finite_toSet
  have wellFounded : WellFounded before := Finite.wellFounded_of_trans_of_irrefl before
  apply List.eq_nil_iff_forall_not_mem.mpr
  intro edge member
  -- Among the sources there is one that no other source leads to, but some edge enters it.
  obtain ⟨first, _, least⟩ := wellFounded.has_min Set.univ
    ⟨⟨edge.1, List.mem_map.mpr ⟨edge, member, rfl⟩⟩, trivial⟩
  obtain ⟨next, out, same⟩ := List.mem_map.mp first.2
  rw [← fixed] at out
  obtain ⟨_, previous, into⟩ := mem_peel.mp out
  rw [same] at into
  exact least ⟨previous, List.mem_map.mpr ⟨_, into, rfl⟩⟩ trivial (.single into)

theorem hasCycle_eq_false_iff {edges : List (α × α)} :
    hasCycle edges = false ↔ Acyclic (Along edges) := by
  simp only [hasCycle, Bool.not_eq_false', List.isEmpty_iff]
  constructor
  · intro empty node cycle
    have kept := cycle_core edges.length cycle
    rw [empty] at kept
    obtain ⟨_, _, edge⟩ := TransGen.tail'_iff.mp kept
    cases edge
  · intro acyclic
    exact empty_of_peel_eq (peel_core (Nat.le_refl _))
      fun node cycle => acyclic node (Along.mono (core_subset _ edges) _ _ cycle)

end DagConsole.Graph

/-! Directed cycles in a finite list of edges, found by peeling off the edges that lie on none. -/
namespace DagConsole.Graph

variable {α : Type} [DecidableEq α]

/-- Keeps the edges that some edge leads into. -/
def peel (edges : List (α × α)) : List (α × α) :=
  edges.filter fun edge => edges.any fun before => before.2 == edge.1

/-- Peels until nothing changes, at most a given number of times. -/
def core : Nat → List (α × α) → List (α × α)
  | 0, edges => edges
  | rounds + 1, edges =>
    let kept := peel edges
    if kept.length = edges.length then edges else core rounds kept

/-- Whether the edges contain a directed cycle: each round of peeling removes an edge or leaves only
edges that have a predecessor, and a finite set of those holds a cycle unless it is empty. -/
def hasCycle (edges : List (α × α)) : Bool := !(core edges.length edges).isEmpty

end DagConsole.Graph

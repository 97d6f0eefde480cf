/-! Stable sorting by insertion. The recursion is on the list, so sorted lists can be evaluated in proofs. -/
namespace DagConsole.Sorting

variable {α : Type}

/-- Puts an element in front of the first one that it may precede. -/
def insertBy (mayPrecede : α → α → Bool) (a : α) : List α → List α
  | [] => [a]
  | b :: rest => if mayPrecede a b then a :: b :: rest else b :: insertBy mayPrecede a rest

/-- Sorts a list; elements that may precede each other keep their order. -/
def sortBy (mayPrecede : α → α → Bool) (list : List α) : List α := list.foldr (insertBy mayPrecede) []

end DagConsole.Sorting

import DagConsole.Text.Blank
import DagConsole.Text.Numeral

/-! Charts: sets of code points, and maps from code points to texts, written as words in
hexadecimal. -/
namespace DagConsole.Text

/-- The code points from one to another, both included. -/
structure CodeRange where
  first : Nat
  last : Nat
deriving DecidableEq

namespace CodeRange

def contains (range : CodeRange) (n : Nat) : Bool := range.first ≤ n && n ≤ range.last

/-- Reads a code point, or two with a hyphen between them. -/
def ofWord? (word : List Char) : Option CodeRange := do
  let first ← hexNumber? (word.takeWhile (· != '-'))
  match word.dropWhile (· != '-') with
  | [] => return ⟨first, first⟩
  | _ :: last => return ⟨first, ← hexNumber? last⟩

end CodeRange

structure CodeSet where
  ranges : List CodeRange

namespace CodeSet

/-- Reads ranges between blanks. -/
def ofChart (chart : String) : CodeSet := ⟨(words chart.toList).filterMap CodeRange.ofWord?⟩

def contains (set : CodeSet) (n : Nat) : Bool := set.ranges.any (·.contains n)

end CodeSet

/-- The texts that consecutive code points stand for. -/
structure CodeRun where
  first : Nat
  images : Array (List Nat)

def CodeRun.image? (run : CodeRun) (n : Nat) : Option (List Nat) :=
  if run.first ≤ n then run.images[n - run.first]? else none

structure CodeMap where
  runs : List CodeRun

namespace CodeMap

/-- Takes up a word of a chart, in front of the images and the runs after it. A word with a colon at
its end tells the code point of the image after it, and points join the parts of an image. -/
def takeWord (word : List Char) : List (List Nat) × List CodeRun → List (List Nat) × List CodeRun
  | (images, runs) =>
    if word.getLast? = some ':' then
      match hexNumber? word.dropLast with
      | some first => ([], ⟨first, images.toArray⟩ :: runs)
      | none => ([], runs)
    else ((word.splitOn '.').filterMap hexNumber? :: images, runs)

def ofChart (chart : String) : CodeMap := ⟨((words chart.toList).foldr takeWord ([], [])).2⟩

/-- The text that a code point stands for. -/
def image? (map : CodeMap) (n : Nat) : Option (List Nat) := map.runs.findSome? (·.image? n)

/-- A code point that stands for a text. -/
def origin? (map : CodeMap) (image : List Nat) : Option Nat :=
  map.runs.findSome? fun run => (run.images.findIdx? (· == image)).map (run.first + ·)

end CodeMap

end DagConsole.Text

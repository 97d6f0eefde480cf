import DagConsole.Identifier

/-! Canvas coordinates, as the platform computes them for a version. -/
namespace DagConsole

open Number (Binary32)

structure Position where
  x : Binary32 := ⟨0⟩
  y : Binary32 := ⟨0⟩
deriving DecidableEq, Inhabited

namespace Position

def origin : Position := {}

/-- A coordinate beyond single precision is written as null. -/
def coordinate (x : Binary32) : Json := if x.isFinite then .float x.toBinary64 else .null

def toJson (p : Position) : Json := .ofFields [("x", coordinate p.x), ("y", coordinate p.y)]

def decode : Decoder Position := fun doc => do
  let fields ← Decoder.fields ["x", "y"] doc
  return { x := ← fields.required "x" Decoder.single, y := ← fields.required "y" Decoder.single }

end Position

/-- The positions of the nodes of one version. -/
structure Layout where
  operators : FinMap OperatorId Position := .empty
  artifacts : FinMap ArtifactId Position := .empty
deriving DecidableEq, Inhabited

namespace Layout

/-- The position of a node: as an operator if it has one, else as an artifact. -/
def position? (l : Layout) (id : NodeId) : Option Position :=
  (l.operators.find? id.operator).or (l.artifacts.find? id.artifact)

/-- The number of positions. -/
def size (l : Layout) : Nat := l.operators.size + l.artifacts.size

def isEmpty (l : Layout) : Bool := l.size == 0

def toJson (l : Layout) : Json :=
  .ofFields [("operator_positions", l.operators.toJson Position.toJson),
    ("artifact_positions", l.artifacts.toJson Position.toJson)]

def decode : Decoder Layout := fun doc => do
  let fields ← Decoder.fields ["operator_positions", "artifact_positions"] doc
  return {
    operators := ←
      fields.withDefault "operator_positions" .empty (Decoder.map Id.ofText? Position.decode)
    artifacts := ←
      fields.withDefault "artifact_positions" .empty (Decoder.map Id.ofText? Position.decode) }

end Layout

end DagConsole

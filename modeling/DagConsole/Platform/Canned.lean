import DagConsole.Platform.Request
import DagConsole.Text.Casing

/-! A platform in memory that serves prepared answers, for demonstrations and rehearsals. -/
namespace DagConsole

open Number (Binary32)

structure CannedPlatform where
  workflows : FinMap WorkflowId Snapshot := .empty
  artifactResults : FinMap DagResultId (FinMap ArtifactId ArtifactResult) := .empty
  operatorResults : FinMap DagResultId (FinMap OperatorId OperatorResult) := .empty
  /-- The layout served in place of a generated one. -/
  layout : Option Layout := none
  /-- How long every answer takes, in milliseconds. -/
  delay : Option Nat := none
  /-- The operations that fail, each with the kind of its error; the latest entry of one counts. -/
  failures : List (Request.Kind × ErrorKind) := []
  /-- The operations requested so far, latest first. -/
  calls : List Request.Kind := []
  triggered : List (WorkflowId × RunParameters) := []
  edits : List (WorkflowId × WorkflowUpdate) := []
deriving Inhabited

namespace CannedPlatform

def withArtifactResult (p : CannedPlatform) (run : DagResultId) (id : ArtifactId)
    (result : ArtifactResult) : CannedPlatform :=
  let results := (p.artifactResults.find? run).getD .empty
  { p with artifactResults := p.artifactResults.insert run (results.insert id result) }

def withOperatorResult (p : CannedPlatform) (run : DagResultId) (id : OperatorId)
    (result : OperatorResult) : CannedPlatform :=
  let results := (p.operatorResults.find? run).getD .empty
  { p with operatorResults := p.operatorResults.insert run (results.insert id result) }

/-- Makes every later request of an operation fail. -/
def fail (kind : Request.Kind) (error : ErrorKind) (p : CannedPlatform) : CannedPlatform :=
  { p with failures := (kind, error) :: p.failures }

/-- Lets an operation succeed again. -/
def recover (kind : Request.Kind) (p : CannedPlatform) : CannedPlatform :=
  { p with failures := p.failures.filter fun failure => failure.1 != kind }

def setDelay (delay : Option Nat) (p : CannedPlatform) : CannedPlatform := { p with delay }

def callCount (p : CannedPlatform) (kind : Request.Kind) : Nat := p.calls.count kind

def hasWorkflow (p : CannedPlatform) (id : WorkflowId) : Bool := p.workflows.contains id

/-- The distance between neighbouring nodes of a generated layout. -/
def spacing : Nat := 200

/-- Places identifiers in a row, in ascending order and evenly spaced. -/
def row {kind : IdKind} {α : Type} (y : Nat) (nodes : FinMap (Id kind) α) :
    FinMap (Id kind) Position :=
  .ofList (nodes.keys.zipIdx.map fun (id, index) =>
    (id, ⟨Binary32.ofNat (index * spacing), Binary32.ofNat y⟩))

/-- Two rows, the operators above the artifacts. -/
def gridLayout (request : PositioningRequest) : Layout :=
  ⟨row 0 request.operators, row spacing request.artifacts⟩

def injectedFailure (kind : Request.Kind) (error : ErrorKind) : Error :=
  ⟨error, some s!"injected failure: {Text.capitalized (Enumerated.name kind)}", none⟩

def unknownWorkflow (id : WorkflowId) : Error := .notFound s!"workflow {id} does not exist"

/-- Answers a request that is not made to fail. -/
def serve (p : CannedPlatform) : (request : Request) → request.Answer × CannedPlatform
  | .getWorkflow id =>
    match p.workflows.find? id with
    | some snapshot => (.ok snapshot, p)
    | none => (.error (unknownWorkflow id), p)
  | .getArtifactResult run id =>
    match (p.artifactResults.find? run).bind (·.find? id) with
    | some result => (.ok result, p)
    | none => (.error (.notFound s!"no result for artifact {id}"), p)
  | .getOperatorResult run id =>
    match (p.operatorResults.find? run).bind (·.find? id) with
    | some result => (.ok result, p)
    | none => (.error (.notFound s!"no result for operator {id}"), p)
  | .getPositions request => (.ok (p.layout.getD (gridLayout request)), p)
  | .triggerRun id parameters => (.ok (), { p with triggered := p.triggered ++ [(id, parameters)] })
  | .editWorkflow id update => (.ok (), { p with edits := p.edits ++ [(id, update)] })
  | .deleteWorkflow id =>
    if p.workflows.contains id then (.ok (), { p with workflows := p.workflows.erase id })
    else (.error (unknownWorkflow id), p)

/-- Counts a request and answers it. -/
def answer (request : Request) (p : CannedPlatform) : request.Answer × CannedPlatform :=
  let p := { p with calls := request.kind :: p.calls }
  match p.failures.lookup request.kind with
  | some error => (.error (injectedFailure request.kind error), p)
  | none => p.serve request

def platform : Platform CannedPlatform := ⟨answer⟩

end CannedPlatform

end DagConsole

import DagConsole.Timestamp.Reader

/-! How far the execution of a run or of one of its nodes has come. -/
namespace DagConsole

inductive ExecutionStatus where
  | unknown
  | registered
  | pending
  | running
  | succeeded
  | failed
  | canceled
deriving DecidableEq, Inhabited

namespace ExecutionStatus

instance : Enumerated ExecutionStatus where
  members := [.unknown, .registered, .pending, .running, .succeeded, .failed, .canceled]
  name
    | .unknown => "unknown"
    | .registered => "registered"
    | .pending => "pending"
    | .running => "running"
    | .succeeded => "succeeded"
    | .failed => "failed"
    | .canceled => "canceled"

/-- Whether execution has finished, with success or not. -/
def isTerminal : ExecutionStatus → Bool
  | .succeeded | .failed | .canceled => true
  | _ => false

/-- Whether execution is on its way and has no outcome yet. -/
def isPending : ExecutionStatus → Bool
  | .registered | .pending | .running => true
  | _ => false

def toJson (status : ExecutionStatus) : Json := .string (Enumerated.name status)

end ExecutionStatus

/-- Who is to blame for a failure. -/
inductive FailureType where
  /-- The platform. -/
  | system
  /-- User code, which fails the run. -/
  | userFatal
  /-- User code, which does not fail the run. -/
  | userNonFatal
deriving DecidableEq, Inhabited

instance : Enumerated FailureType where
  members := [.system, .userFatal, .userNonFatal]
  name
    | .system => "system"
    | .userFatal => "user_fatal"
    | .userNonFatal => "user_non_fatal"

/-- What is known of a failure: its context, such as a stack trace, and a hint for the user. -/
structure ExecError where
  context : String := ""
  tip : String := ""
deriving DecidableEq, Inhabited

namespace ExecError

def toJson (e : ExecError) : Json := .ofFields [("context", .string e.context), ("tip", .string e.tip)]

def decode : Decoder ExecError := fun doc => do
  let fields ← Decoder.fields ["context", "tip"] doc
  return {
    context := ← fields.withDefault "context" "" Decoder.string
    tip := ← fields.withDefault "tip" "" Decoder.string }

end ExecError

/-- When execution entered each stage. -/
structure ExecTimestamps where
  registered : Option Timestamp := none
  pending : Option Timestamp := none
  running : Option Timestamp := none
  finished : Option Timestamp := none
deriving DecidableEq, Inhabited

namespace ExecTimestamps

def toJson (t : ExecTimestamps) : Json :=
  let field (name : String) (time : Option Timestamp) : List (String × Json) :=
    Json.optional name (time.map Timestamp.toJson)
  .ofFields (field "registered_at" t.registered ++ field "pending_at" t.pending ++
    field "running_at" t.running ++ field "finished_at" t.finished)

def decode : Decoder ExecTimestamps := fun doc => do
  let fields ← Decoder.fields ["registered_at", "pending_at", "running_at", "finished_at"] doc
  return {
    registered := ← fields.optional "registered_at" Timestamp.decode
    pending := ← fields.optional "pending_at" Timestamp.decode
    running := ← fields.optional "running_at" Timestamp.decode
    finished := ← fields.optional "finished_at" Timestamp.decode }

end ExecTimestamps

structure ExecState where
  status : ExecutionStatus := .unknown
  failureType : Option FailureType := none
  error : Option ExecError := none
  timestamps : ExecTimestamps := {}
deriving DecidableEq, Inhabited

namespace ExecState

/-- A state with a status and no details. -/
def ofStatus (status : ExecutionStatus) : ExecState := { status }

def toJson (s : ExecState) : Json :=
  .ofFields ([("status", s.status.toJson), ("timestamps", s.timestamps.toJson)] ++
    Json.optional "failure_type" (s.failureType.map fun type => .string (Enumerated.name type)) ++
    Json.optional "error" (s.error.map ExecError.toJson))

def decode : Decoder ExecState := fun doc => do
  let fields ← Decoder.fields ["status", "failure_type", "error", "timestamps"] doc
  return {
    status := ← fields.withDefault "status" .unknown Decoder.member
    failureType := ← fields.optional "failure_type" Decoder.member
    error := ← fields.optional "error" ExecError.decode
    timestamps := ← fields.withDefault "timestamps" {} ExecTimestamps.decode }

end ExecState

/-- What user code wrote while it ran. -/
structure Logs where
  stdout : String := ""
  stderr : String := ""
deriving DecidableEq, Inhabited

namespace Logs

def toJson (l : Logs) : Json := .ofFields [("stdout", .string l.stdout), ("stderr", .string l.stderr)]

def decode : Decoder Logs := fun doc => do
  let fields ← Decoder.fields ["stdout", "stderr"] doc
  return {
    stdout := ← fields.withDefault "stdout" "" Decoder.string
    stderr := ← fields.withDefault "stderr" "" Decoder.string }

end Logs

end DagConsole

import DagConsole.Identifier

/-! Operators: the computation steps of a workflow. -/
namespace DagConsole

inductive OperatorType where
  /-- Reads data from an integration. -/
  | extract
  /-- Writes data to an integration. -/
  | load
  /-- Runs user code. -/
  | function
  /-- Computes a number. -/
  | metric
  /-- Evaluates a condition. -/
  | check
  /-- Holds a parameter of the workflow. -/
  | param
  /-- A metric that the platform computes. -/
  | systemMetric
deriving DecidableEq, Inhabited

instance : Enumerated OperatorType where
  members := [.extract, .load, .function, .metric, .check, .param, .systemMetric]
  name
    | .extract => "extract"
    | .load => "load"
    | .function => "function"
    | .metric => "metric"
    | .check => "check"
    | .param => "param"
    | .systemMetric => "system_metric"

def OperatorType.toJson (type : OperatorType) : Json := .string (Enumerated.name type)

/-- What a failing check does. -/
inductive CheckLevel where
  /-- It fails the run. -/
  | error
  /-- It is reported and the run goes on. -/
  | warning
deriving DecidableEq, Inhabited

instance : Enumerated CheckLevel where
  members := [.error, .warning]
  name
    | .error => "error"
    | .warning => "warning"

/-- The level of a check that names none. -/
def CheckLevel.default : CheckLevel := .warning

def CheckLevel.toJson (level : CheckLevel) : Json := .string (Enumerated.name level)

/-- The kind of an operator and the other fields of its specification, by name. -/
structure OperatorSpec where
  kind : OperatorType
  params : FinMap String Json := .empty
deriving Inhabited

namespace OperatorSpec

def withParam (s : OperatorSpec) (key : String) (value : Json) : OperatorSpec :=
  { s with params := s.params.insert key value }

/-- The field named like the kind of the operator. -/
def payload (s : OperatorSpec) : Option Json := s.params.find? (Enumerated.name s.kind)

/-- The level of a check operator: the one its payload names, else the default. -/
def checkLevel (s : OperatorSpec) : Option CheckLevel :=
  if s.kind = .check then
    let named := do
      let level ← (← (← s.payload).member? "level").asString?
      Enumerated.ofName? level
    some (named.getD .default)
  else none

/-- The integration that an extract or load operator talks to. -/
def integration (s : OperatorSpec) : Option String :=
  if s.kind = .extract ∨ s.kind = .load then do (← (← s.payload).member? "service").asString?
  else none

/-- The kind under `type` beside the other fields; a field of that name takes its place. -/
def toJson (s : OperatorSpec) : Json := .ofFields (("type", s.kind.toJson) :: s.params.entries)

/-- Reads an object with one field `type`; all other fields become parameters. -/
def decode : Decoder OperatorSpec
  | .object members => do
    let (kinds, others) := members.partition fun member => member.1 == "type"
    match kinds with
    | [(_, kind)] => return ⟨← Decoder.member kind, ← Decoder.valueMap (.object others)⟩
    | _ => none
  | _ => none

end OperatorSpec

/-- A computation step, with the artifacts it consumes and produces. -/
structure Operator where
  id : OperatorId
  name : String
  description : Option String := none
  spec : OperatorSpec
  inputs : List ArtifactId := []
  outputs : List ArtifactId := []
deriving Inhabited

namespace Operator

def type (op : Operator) : OperatorType := op.spec.kind

def toJson (op : Operator) : Json :=
  .ofFields ([("id", op.id.toJson), ("name", .string op.name), ("spec", op.spec.toJson),
    ("inputs", .array (op.inputs.map Id.toJson)), ("outputs", .array (op.outputs.map Id.toJson))] ++
    Json.optional "description" (op.description.map .string))

def decode : Decoder Operator := fun doc => do
  let fields ← Decoder.fields ["id", "name", "description", "spec", "inputs", "outputs"] doc
  return {
    id := ← fields.required "id" Id.decode
    name := ← fields.required "name" Decoder.string
    description := ← fields.optional "description" Decoder.string
    spec := ← fields.required "spec" OperatorSpec.decode
    inputs := ← fields.withDefault "inputs" [] (Decoder.list Id.decode)
    outputs := ← fields.withDefault "outputs" [] (Decoder.list Id.decode) }

end Operator

/-- An operator whose fields are being collected. -/
structure OperatorDraft where
  id : Option OperatorId := none
  name : Option String := none
  description : Option String := none
  spec : Option OperatorSpec := none
  inputs : Option (List ArtifactId) := none
  outputs : Option (List ArtifactId) := none

/-- The operator of a draft, or the name of its first required field that is missing. -/
def OperatorDraft.build (draft : OperatorDraft) : Except String Operator := do
  let id ← draft.id.elim (throw "id") pure
  let name ← draft.name.elim (throw "name") pure
  let spec ← draft.spec.elim (throw "spec") pure
  return { id, name, description := draft.description, spec,
           inputs := draft.inputs.getD [], outputs := draft.outputs.getD [] }

end DagConsole

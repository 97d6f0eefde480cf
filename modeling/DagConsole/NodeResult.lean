import DagConsole.Artifact
import DagConsole.Execution
import DagConsole.Number.Numeral
import DagConsole.Table
import DagConsole.Text.Blank

/-! What a run left at an artifact or an operator. -/
namespace DagConsole

open Number (Binary64 readFloat?)

/-- How the platform wrote the value of an artifact down. -/
inductive SerializationType where
  | string
  | table
  | json
  | bytes
  | image
  | pickle
deriving DecidableEq, Inhabited

instance : Enumerated SerializationType where
  members := [.string, .table, .json, .bytes, .image, .pickle]
  name
    | .string => "string"
    | .table => "table"
    | .json => "json"
    | .bytes => "bytes"
    | .image => "image"
    | .pickle => "pickle"

def SerializationType.toJson (type : SerializationType) : Json := .string (Enumerated.name type)

/-- The value of an artifact in one run; its content is absent until the value exists. -/
structure ArtifactResult where
  type : ArtifactType := .untyped
  serialization : SerializationType
  content? : Option String := none
  execState : ExecState := {}
deriving DecidableEq, Inhabited

namespace ArtifactResult

/-- A result that has its value. -/
def ofContent (type : ArtifactType) (serialization : SerializationType) (content : String) :
    ArtifactResult :=
  ⟨type, serialization, some content, .ofStatus .succeeded⟩

def content (r : ArtifactResult) : Outcome String :=
  match r.content? with
  | some content => .ok content
  | none =>
    let status := Enumerated.name r.execState.status
    .error ⟨.pendingResult, some s!"artifact result is {status} and has no content", none⟩

/-- The content as the outcome of a check. -/
def asBool (r : ArtifactResult) : Option Bool :=
  r.content?.bind fun content =>
    let word := Text.trim content
    if word = "true" ∨ word = "True" then some true
    else if word = "false" ∨ word = "False" then some false
    else none

/-- The content as the value of a metric. -/
def asNumber (r : ArtifactResult) : Option Binary64 :=
  r.content?.bind fun content => readFloat? (Text.trimBlanks content.toList)

/-- The content as a table. -/
def asTable (r : ArtifactResult) : Outcome TableData :=
  if r.serialization = .table then do TableData.parse (← r.content)
  else
    let type := Enumerated.name r.serialization
    .error (.invalidInput s!"artifact is serialized as {type}, not table")

def toJson (r : ArtifactResult) : Json :=
  .ofFields ([("artifact_type", r.type.toJson), ("serialization_type", r.serialization.toJson),
    ("exec_state", r.execState.toJson)] ++
    Json.optional "content_serialized" (r.content?.map .string))

def decode : Decoder ArtifactResult := fun doc => do
  let fields ← Decoder.fields
    ["artifact_type", "serialization_type", "content_serialized", "exec_state"] doc
  return {
    type := ← fields.withDefault "artifact_type" .untyped Decoder.member
    serialization := ← fields.required "serialization_type" Decoder.member
    content? := ← fields.optional "content_serialized" Decoder.string
    execState := ← fields.withDefault "exec_state" {} ExecState.decode }

end ArtifactResult

/-- How an operator fared in one run. -/
structure OperatorResult where
  execState : ExecState := {}
  logs : Option Logs := none
deriving DecidableEq, Inhabited

namespace OperatorResult

def toJson (r : OperatorResult) : Json :=
  .ofFields (("exec_state", r.execState.toJson) :: Json.optional "logs" (r.logs.map Logs.toJson))

def decode : Decoder OperatorResult := fun doc => do
  let fields ← Decoder.fields ["exec_state", "logs"] doc
  return {
    execState := ← fields.withDefault "exec_state" {} ExecState.decode
    logs := ← fields.optional "logs" Logs.decode }

end OperatorResult

end DagConsole

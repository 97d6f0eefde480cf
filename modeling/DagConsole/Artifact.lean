import DagConsole.Identifier

/-! Artifacts: the values that flow between operators. -/
namespace DagConsole

inductive ArtifactType where
  | untyped
  | string
  | bool
  | numeric
  | dict
  | tuple
  | list
  | table
  | json
  | bytes
  | image
  | picklable
deriving DecidableEq, Inhabited

instance : Enumerated ArtifactType where
  members := [.untyped, .string, .bool, .numeric, .dict, .tuple, .list, .table, .json, .bytes,
    .image, .picklable]
  name
    | .untyped => "untyped"
    | .string => "string"
    | .bool => "bool"
    | .numeric => "numeric"
    | .dict => "dict"
    | .tuple => "tuple"
    | .list => "list"
    | .table => "table"
    | .json => "json"
    | .bytes => "bytes"
    | .image => "image"
    | .picklable => "picklable"

def ArtifactType.toJson (type : ArtifactType) : Json := .string (Enumerated.name type)

/-- A value node of a workflow, produced or consumed by operators. -/
structure Artifact where
  id : ArtifactId
  name : String
  description : Option String := none
  type : ArtifactType := .untyped
deriving DecidableEq, Inhabited

namespace Artifact

def toJson (a : Artifact) : Json :=
  .ofFields ([("id", a.id.toJson), ("name", .string a.name), ("type", a.type.toJson)] ++
    Json.optional "description" (a.description.map .string))

def decode : Decoder Artifact := fun doc => do
  let fields ← Decoder.fields ["id", "name", "description", "type"] doc
  return {
    id := ← fields.required "id" Id.decode
    name := ← fields.required "name" Decoder.string
    description := ← fields.optional "description" Decoder.string
    type := ← fields.withDefault "type" .untyped Decoder.member }

end Artifact

/-- An artifact whose fields are being collected. -/
structure ArtifactDraft where
  id : Option ArtifactId := none
  name : Option String := none
  description : Option String := none
  type : Option ArtifactType := none

/-- The artifact of a draft, or the name of its first required field that is missing. -/
def ArtifactDraft.build (draft : ArtifactDraft) : Except String Artifact := do
  let id ← draft.id.elim (throw "id") pure
  let name ← draft.name.elim (throw "name") pure
  return { id, name, description := draft.description, type := draft.type.getD .untyped }

end DagConsole

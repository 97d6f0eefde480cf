import DagConsole.Json.Reader
import DagConsole.Store.Basic

/-! The panel that shows the details of the selected node. -/
namespace DagConsole

/-- The ways to show a node in detail. -/
inductive SideSheetView where
  /-- The value of an artifact. -/
  | dataPreview
  /-- An operator in one run. -/
  | operatorResults
  /-- The value of a parameter. -/
  | parameter
deriving DecidableEq, Inhabited

namespace SideSheetView

instance : Enumerated SideSheetView where
  members := [.dataPreview, .operatorResults, .parameter]
  name
    | .dataPreview => "data_preview"
    | .operatorResults => "operator_results"
    | .parameter => "parameter"

/-- The view of each kind of node. -/
def ofNodeType : NodeType → SideSheetView
  | .extractOp | .loadOp | .functionOp | .metricOp | .checkOp => .operatorResults
  | .paramOp => .parameter
  | _ => .dataPreview

end SideSheetView

inductive OperatorTab where
  | overview
  | inputs
  | outputs
  | logs
deriving DecidableEq, Inhabited

instance : Enumerated OperatorTab where
  members := [.overview, .inputs, .outputs, .logs]
  name
    | .overview => "overview"
    | .inputs => "inputs"
    | .outputs => "outputs"
    | .logs => "logs"

/-- The content of an artifact, decoded as far as it can be shown. -/
inductive Preview where
  | table (content : TableData)
  | json (content : Json)
  | text (content : String)
  /-- An image in Base64. -/
  | image (content : String)
  /-- Content that can only be described, by its form and its size in bytes. -/
  | binary (serialization : SerializationType) (size : Nat)

namespace Preview

/-- The preview of a result, once it has content. What cannot be decoded as its form demands is shown
as text. -/
def ofResult? (result : ArtifactResult) : Option Preview :=
  result.content?.map fun content =>
    match result.serialization with
    | .table => match result.asTable with
      | .ok decoded => .table decoded
      | .error _ => .text content
    | .json => match Json.ofText? content with
      | some value => .json value
      | none => .text content
    | .string => .text content
    | .image => .image content
    | .bytes => .binary .bytes content.utf8ByteSize
    | .pickle => .binary .pickle content.utf8ByteSize

def toJson (p : Preview) : Json :=
  let tagged (kind : String) (data : Json) : Json := .ofFields [("kind", .string kind), ("data", data)]
  match p with
  | .table content => tagged "table" content.toJson
  | .json content => tagged "json" content
  | .text content => tagged "text" (.string content)
  | .image content => tagged "image" (.string content)
  | .binary serialization size =>
    tagged "binary" (.ofFields [("serialization_type", serialization.toJson), ("size", .ofNat size)])

end Preview

structure DataPreview where
  artifact : ArtifactId
  type : NodeType
  name : String
  status : LoadingStatus
  serialization : Option SerializationType
  preview : Option Preview

structure OperatorDetails where
  operator : OperatorId
  type : NodeType
  name : String
  checkLevel : Option CheckLevel
  integration : Option String
  tabs : List OperatorTab
  inputs : List ArtifactId
  outputs : List ArtifactId
  status : LoadingStatus
  execStatus : Option ExecutionStatus
  logs : Option Logs

structure ParameterDetails where
  operator : OperatorId
  name : String
  artifact : Option ArtifactId
  status : LoadingStatus
  value : Option Preview

/-- What the panel shows. -/
inductive SideSheet where
  | none
  | dataPreview (content : DataPreview)
  | operatorResults (content : OperatorDetails)
  | parameter (content : ParameterDetails)

namespace SideSheet

/-- The status of a cached value, and the initial one of a value that is not cached. -/
def statusOf {α : Type} (cached : Option (Loadable α)) : LoadingStatus :=
  (cached.map Loadable.status).getD .initial

def ofArtifact (s : Store) (type : NodeType) (id : ArtifactId) (artifact : Artifact) : DataPreview :=
  let cached := s.artifactResults.find? id
  let result := cached.bind Loadable.value?
  { artifact := id, type, name := artifact.name, status := statusOf cached,
    serialization := result.map ArtifactResult.serialization, preview := result.bind Preview.ofResult? }

def ofOperator (s : Store) (type : NodeType) (id : OperatorId) (op : Operator) : OperatorDetails :=
  let cached := s.operatorResults.find? id
  let result := cached.bind Loadable.value?
  { operator := id, type, name := op.name, checkLevel := op.spec.checkLevel,
    integration := op.spec.integration, tabs := Enumerated.members, inputs := op.inputs,
    outputs := op.outputs, status := statusOf cached,
    execStatus := result.map fun result => result.execState.status, logs := result.bind (·.logs) }

def ofParameter (s : Store) (id : OperatorId) (op : Operator) : ParameterDetails :=
  let artifact := op.outputs.head?
  let cached := artifact.bind s.artifactResults.find?
  { operator := id, name := op.name, artifact, status := statusOf cached,
    value := (cached.bind Loadable.value?).bind Preview.ofResult? }

/-- The panel for the selected node; nothing when none is selected or it is not part of the active
version. -/
def ofStore (s : Store) : SideSheet :=
  match s.selection.node, s.activeDag with
  | some node, some dag =>
    match SideSheetView.ofNodeType node.type with
    | .dataPreview =>
      match dag.artifacts.find? node.id.artifact with
      | some artifact => .dataPreview (ofArtifact s node.type node.id.artifact artifact)
      | Option.none => .none
    | .operatorResults =>
      match dag.operators.find? node.id.operator with
      | some op => .operatorResults (ofOperator s node.type node.id.operator op)
      | Option.none => .none
    | .parameter =>
      match dag.operators.find? node.id.operator with
      | some op => .parameter (ofParameter s node.id.operator op)
      | Option.none => .none
  | _, _ => .none

/-- The view that the content is for. -/
def view? : SideSheet → Option SideSheetView
  | .none => Option.none
  | .dataPreview _ => some .dataPreview
  | .operatorResults _ => some .operatorResults
  | .parameter _ => some .parameter

def toJson : SideSheet → Json
  | .none => .ofFields [("view", .string "none")]
  | .dataPreview c =>
    .ofFields ([("view", .string (Enumerated.name SideSheetView.dataPreview)),
      ("artifact_id", c.artifact.toJson), ("node_type", c.type.toJson), ("name", .string c.name),
      ("status", c.status.toJson)] ++
      Json.optional "serialization_type" (c.serialization.map SerializationType.toJson) ++
      Json.optional "preview" (c.preview.map Preview.toJson))
  | .operatorResults c =>
    .ofFields ([("view", .string (Enumerated.name SideSheetView.operatorResults)),
      ("operator_id", c.operator.toJson), ("node_type", c.type.toJson), ("name", .string c.name),
      ("tabs", .array (c.tabs.map fun tab => .string (Enumerated.name tab))),
      ("inputs", .array (c.inputs.map Id.toJson)), ("outputs", .array (c.outputs.map Id.toJson)),
      ("status", c.status.toJson)] ++
      Json.optional "check_level" (c.checkLevel.map CheckLevel.toJson) ++
      Json.optional "integration" (c.integration.map .string) ++
      Json.optional "exec_status" (c.execStatus.map ExecutionStatus.toJson) ++
      Json.optional "logs" (c.logs.map Logs.toJson))
  | .parameter c =>
    .ofFields ([("view", .string (Enumerated.name SideSheetView.parameter)),
      ("operator_id", c.operator.toJson), ("name", .string c.name), ("status", c.status.toJson)] ++
      Json.optional "artifact_id" (c.artifact.map Id.toJson) ++
      Json.optional "value" (c.value.map Preview.toJson))

end SideSheet

end DagConsole

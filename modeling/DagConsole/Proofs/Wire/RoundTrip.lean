import DagConsole.Proofs.Wire.Records

/-! What is written of a value that was read is read as that value again, for everything that has a form in JSON. -/
namespace DagConsole

/-- What is exchanged or kept as JSON. -/
inductive WireType where
  | snapshot
  | dag
  | metadata
  | schedule
  | retention
  | operator
  | operatorSpec
  | artifact
  | run
  | execState
  | artifactResult
  | operatorResult
  | update
  | positioningRequest
  | table
  | loadingStatus
  | config

namespace WireType

abbrev Value : WireType → Type
  | snapshot => Snapshot
  | dag => Dag
  | metadata => WorkflowMetadata
  | schedule => Schedule
  | retention => RetentionPolicy
  | operator => Operator
  | operatorSpec => OperatorSpec
  | artifact => Artifact
  | run => DagResult
  | execState => ExecState
  | artifactResult => ArtifactResult
  | operatorResult => OperatorResult
  | update => WorkflowUpdate
  | positioningRequest => PositioningRequest
  | table => TableData
  | loadingStatus => LoadingStatus
  | config => ApiConfig

def decode : (type : WireType) → Decoder type.Value
  | snapshot => Snapshot.decode
  | dag => Dag.decode
  | metadata => WorkflowMetadata.decode
  | schedule => Schedule.decode
  | retention => RetentionPolicy.decode
  | operator => Operator.decode
  | operatorSpec => OperatorSpec.decode
  | artifact => Artifact.decode
  | run => DagResult.decode
  | execState => ExecState.decode
  | artifactResult => ArtifactResult.decode
  | operatorResult => OperatorResult.decode
  | update => WorkflowUpdate.decode
  | positioningRequest => PositioningRequest.decode
  | table => TableData.decode
  | loadingStatus => LoadingStatus.decode
  | config => ApiConfig.decode

def toJson : (type : WireType) → type.Value → Json
  | snapshot => Snapshot.toJson
  | dag => Dag.toJson
  | metadata => WorkflowMetadata.toJson
  | schedule => Schedule.toJson
  | retention => RetentionPolicy.toJson
  | operator => Operator.toJson
  | operatorSpec => OperatorSpec.toJson
  | artifact => Artifact.toJson
  | run => DagResult.toJson
  | execState => ExecState.toJson
  | artifactResult => ArtifactResult.toJson
  | operatorResult => OperatorResult.toJson
  | update => WorkflowUpdate.toJson
  | positioningRequest => PositioningRequest.toJson
  | table => TableData.toJson
  | loadingStatus => LoadingStatus.toJson
  | config => ApiConfig.toJson

/-- Whatever document a value was read from, it is read again from the one that is written for it. -/
theorem decode_toJson {type : WireType} {doc : Document} {value : type.Value} (read : type.decode doc = some value) :
    type.decode (type.toJson value).toDocument = some value := by
  cases type with
  | snapshot => exact Snapshot.restores read
  | dag => exact Dag.restores read
  | metadata => exact WorkflowMetadata.restores read
  | schedule => exact Schedule.restores read
  | retention => exact RetentionPolicy.restores read
  | operator => exact Operator.restores read
  | operatorSpec => exact OperatorSpec.restores read
  | artifact => exact Artifact.restores read
  | run => exact DagResult.restores read
  | execState => exact ExecState.restores read
  | artifactResult => exact ArtifactResult.restores read
  | operatorResult => exact OperatorResult.restores read
  | update => exact WorkflowUpdate.restores read
  | positioningRequest => exact PositioningRequest.restores read
  | table => exact TableData.restores read
  | loadingStatus => exact LoadingStatus.restores read
  | config => exact ApiConfig.restores read

/-- A version in which an operator is given as a list, its kind as an object, and its identifier in two spellings. -/
theorem decode_toJson_listed :
    let spec : Document := .object [("check", .object [("level", .string "error")]), ("type", .object [("check", .null)])]
    let listed : Document := .array [.string "{00000000-0000-0000-0000-00000000000A}", .string "check", .null, spec]
    let doc : Document := .object [("id", .string "00000000-0000-0000-0000-000000000005"), ("unknown", .invalid),
      ("workflow_id", .string "00000000000000000000000000000006"),
      ("operators", .object [("0000000000000000000000000000000A", listed)])]
    let failing : OperatorSpec := .withParam ⟨.check, .empty⟩ "check" (.ofFields [("level", .string "error")])
    let version : Dag :=
      .withOperator { id := ⟨5⟩, workflow := ⟨6⟩ } { id := ⟨10⟩, name := "check", spec := failing }
    failing.checkLevel = some .error ∧ WireType.dag.decode doc = some version ∧
      WireType.dag.decode (WireType.dag.toJson version).toDocument = some version := by
  intro spec listed doc failing version
  have level : failing.checkLevel = some .error := by
    unfold failing
    rfl
  have read : WireType.dag.decode doc = some version := rfl
  exact ⟨level, read, decode_toJson read⟩

end WireType

end DagConsole

import DagConsole.Client.Config
import DagConsole.Loadable
import DagConsole.Platform.Request
import DagConsole.Proofs.Identifier
import DagConsole.Proofs.Json.Records
import DagConsole.Proofs.Timestamp.Text

/-! What goes over the wire is read back: settings, versions, runs and results, whatever shape they came in. -/
namespace DagConsole

open Decoder

/-! ### Enumerations -/

instance : LawfulEnumerated ArtifactType := ⟨fun type => by cases type <;> rfl⟩

instance : LawfulEnumerated OperatorType := ⟨fun type => by cases type <;> rfl⟩

instance : LawfulEnumerated ExecutionStatus := ⟨fun status => by cases status <;> rfl⟩

instance : LawfulEnumerated FailureType := ⟨fun type => by cases type <;> rfl⟩

instance : LawfulEnumerated SerializationType := ⟨fun type => by cases type <;> rfl⟩

instance : LawfulEnumerated Trigger := ⟨fun trigger => by cases trigger <;> rfl⟩

theorem ArtifactType.restores : Restores member ArtifactType.toJson := member_restores

theorem OperatorType.member_toJson (type : OperatorType) : member type.toJson.toDocument = some type :=
  LawfulEnumerated.ofName?_name type

theorem ExecutionStatus.restores : Restores member ExecutionStatus.toJson := member_restores

theorem SerializationType.restores : Restores member SerializationType.toJson := member_restores

namespace OperatorSpec

/-- Members of which one is named like the kind are read as a kind and parameters. -/
theorem decode_of_members {fields : List (String × Json)} {given : Json} {params : FinMap String Json}
    (kinds : fields.filter (fun field => field.1 == "type") = [("type", given)])
    (others : (fields.filter fun field => !(field.1 == "type")).Perm params.entries) :
    decode (.object (Json.memberDocuments fields)) =
      (member given.toDocument).map fun kind => ⟨kind, params⟩ := by
  have again := valueMap_of_perm others
  rw [← Json.filter_memberDocuments fun name => !(name == "type")] at again
  have kind : (Json.memberDocuments fields).filter (fun member => member.1 == "type") =
      [("type", given.toDocument)] := by
    rw [Json.filter_memberDocuments (· == "type"), kinds]
    rfl
  rw [decode, List.partition_eq_filter_filter]
  simp only [Function.comp_def, kind, again, Option.bind_eq_bind, Option.bind_some, Option.pure_def,
    Option.map_eq_bind]

/-- Beside parameters of other names, what is written under the name of the kind is read as the kind. -/
theorem decode_ofFields {given : Json} {params : FinMap String Json} (fresh : "type" ∉ params.keys) :
    decode (Json.ofFields (("type", given) :: params.entries)).toDocument =
      (member given.toDocument).map fun kind => ⟨kind, params⟩ := by
  obtain ⟨kinds, others⟩ := FinMap.filter_ofList_cons given fresh
  rw [Json.toDocument_ofFields]
  exact decode_of_members kinds others

/-- Members with another name than the kind make up the parameters. -/
theorem fresh_of_parts {members : List (String × Document)} {params : FinMap String Json}
    (gotParams : valueMap (.object (members.filter fun member => !(member.1 == "type"))) = some params) :
    "type" ∉ params.keys := by
  intro repeated
  obtain ⟨entry, inside, same⟩ := List.mem_map.mp repeated
  obtain ⟨member, apart, spelled, _⟩ := member_of_map gotParams inside
  have other := (List.mem_filter.mp apart).2
  rw [(Option.some.inj spelled).trans same] at other
  cases other

/-- No parameter that is read is named like the kind. -/
theorem fresh_of_decode {doc : Document} {spec : OperatorSpec} (read : decode doc = some spec) :
    "type" ∉ spec.params.keys := by
  match doc, read with
  | .object members, read =>
    simp only [decode, List.partition_eq_filter_filter] at read
    split at read
    · simp only [Option.bind_eq_bind, Option.bind_eq_some_iff, Option.pure_def, Option.some.injEq] at read
      obtain ⟨_, _, params, gotParams, rfl⟩ := read
      exact fresh_of_parts gotParams
    · cases read

/-- Without a parameter named like the kind, a specification is read from the value that is written for it. -/
theorem decode_toJson_of_fresh {s : OperatorSpec} (fresh : "type" ∉ s.params.keys) :
    decode s.toJson.toDocument = some s := by
  rw [toJson, decode_ofFields fresh, s.kind.member_toJson, Option.map_some]

theorem restores : Restores decode toJson := fun _ _ read => decode_toJson_of_fresh (fresh_of_decode read)

end OperatorSpec

theorem RetentionPolicy.restores : Restores RetentionPolicy.decode RetentionPolicy.toJson := by
  refine .of_fields (by simp) fun read spell => ?_
  simp only [Option.bind_eq_bind, Option.bind_eq_some_iff, Option.pure_def, Option.some.injEq] at read ⊢
  obtain ⟨latestRuns, gotLatestRuns, rfl⟩ := read
  exact ⟨latestRuns, spell.withDefault int64_restores rfl gotLatestRuns (by simp), rfl⟩

theorem Schedule.restores : Restores Schedule.decode Schedule.toJson := by
  refine .of_fields (by simp) fun read spell => ?_
  simp only [Option.bind_eq_bind, Option.bind_eq_some_iff, Option.pure_def, Option.some.injEq] at read ⊢
  obtain ⟨trigger, gotTrigger, cron, gotCron, disableManualTrigger, gotDisableManualTrigger, paused, gotPaused,
    source, gotSource, rfl⟩ := read
  exact ⟨trigger, spell.withDefault member_restores rfl gotTrigger (by simp),
    cron, spell.withDefault string_restores rfl gotCron (by simp),
    disableManualTrigger, spell.withDefault bool_restores rfl gotDisableManualTrigger (by simp),
    paused, spell.withDefault bool_restores rfl gotPaused (by simp),
    source, spell.optional Id.restores rfl gotSource (by simp), rfl⟩

theorem WorkflowMetadata.restores : Restores WorkflowMetadata.decode WorkflowMetadata.toJson := by
  refine .of_fields (by simp) fun read spell => ?_
  simp only [Option.bind_eq_bind, Option.bind_eq_some_iff, Option.pure_def, Option.some.injEq] at read ⊢
  obtain ⟨name, gotName, description, gotDescription, schedule, gotSchedule, retention, gotRetention,
    created, gotCreated, rfl⟩ := read
  exact ⟨name, spell.required string_restores gotName (by simp),
    description, spell.withDefault string_restores rfl gotDescription (by simp),
    schedule, spell.withDefault Schedule.restores rfl gotSchedule (by simp),
    retention, spell.withDefault RetentionPolicy.restores rfl gotRetention (by simp),
    created, spell.optional Timestamp.restores rfl gotCreated (by simp), rfl⟩

theorem Artifact.restores : Restores Artifact.decode Artifact.toJson := by
  refine .of_fields (by simp) fun read spell => ?_
  simp only [Option.bind_eq_bind, Option.bind_eq_some_iff, Option.pure_def, Option.some.injEq] at read ⊢
  obtain ⟨id, gotId, name, gotName, description, gotDescription, type, gotType, rfl⟩ := read
  exact ⟨id, spell.required Id.restores gotId (by simp), name, spell.required string_restores gotName (by simp),
    description, spell.optional string_restores rfl gotDescription (by simp),
    type, spell.withDefault ArtifactType.restores rfl gotType (by simp), rfl⟩

theorem Operator.restores : Restores Operator.decode Operator.toJson := by
  refine .of_fields (by simp) fun read spell => ?_
  simp only [Option.bind_eq_bind, Option.bind_eq_some_iff, Option.pure_def, Option.some.injEq] at read ⊢
  obtain ⟨id, gotId, name, gotName, description, gotDescription, spec, gotSpec, inputs, gotInputs, outputs, gotOutputs,
    rfl⟩ := read
  exact ⟨id, spell.required Id.restores gotId (by simp), name, spell.required string_restores gotName (by simp),
    description, spell.optional string_restores rfl gotDescription (by simp),
    spec, spell.required OperatorSpec.restores gotSpec (by simp),
    inputs, spell.withDefault (list_restores Id.restores) rfl gotInputs (by simp),
    outputs, spell.withDefault (list_restores Id.restores) rfl gotOutputs (by simp), rfl⟩

theorem Dag.restores : Restores Dag.decode Dag.toJson := by
  refine .of_fields (by simp) fun read spell => ?_
  simp only [Option.bind_eq_bind, Option.bind_eq_some_iff, Option.pure_def, Option.some.injEq] at read ⊢
  obtain ⟨id, gotId, workflow, gotWorkflow, metadata, gotMetadata, operators, gotOperators, artifacts, gotArtifacts,
    rfl⟩ := read
  exact ⟨id, spell.required Id.restores gotId (by simp), workflow, spell.required Id.restores gotWorkflow (by simp),
    metadata, spell.withDefault WorkflowMetadata.restores rfl gotMetadata (by simp),
    operators, spell.withDefault (FinMap.restores Operator.restores) rfl gotOperators (by simp),
    artifacts, spell.withDefault (FinMap.restores Artifact.restores) rfl gotArtifacts (by simp), rfl⟩

theorem ExecError.restores : Restores ExecError.decode ExecError.toJson := by
  refine .of_fields (by simp) fun read spell => ?_
  simp only [Option.bind_eq_bind, Option.bind_eq_some_iff, Option.pure_def, Option.some.injEq] at read ⊢
  obtain ⟨context, gotContext, tip, gotTip, rfl⟩ := read
  exact ⟨context, spell.withDefault string_restores rfl gotContext (by simp),
    tip, spell.withDefault string_restores rfl gotTip (by simp), rfl⟩

theorem ExecTimestamps.restores : Restores ExecTimestamps.decode ExecTimestamps.toJson := by
  refine .of_fields (by simp) fun read spell => ?_
  simp only [Option.bind_eq_bind, Option.bind_eq_some_iff, Option.pure_def, Option.some.injEq] at read ⊢
  obtain ⟨registered, gotRegistered, pending, gotPending, running, gotRunning, finished, gotFinished, rfl⟩ := read
  exact ⟨registered, spell.optional Timestamp.restores rfl gotRegistered (by simp),
    pending, spell.optional Timestamp.restores rfl gotPending (by simp),
    running, spell.optional Timestamp.restores rfl gotRunning (by simp),
    finished, spell.optional Timestamp.restores rfl gotFinished (by simp), rfl⟩

theorem ExecState.restores : Restores ExecState.decode ExecState.toJson := by
  refine .of_fields (by simp) fun read spell => ?_
  simp only [Option.bind_eq_bind, Option.bind_eq_some_iff, Option.pure_def, Option.some.injEq] at read ⊢
  obtain ⟨status, gotStatus, failureType, gotFailureType, error, gotError, timestamps, gotTimestamps, rfl⟩ := read
  exact ⟨status, spell.withDefault ExecutionStatus.restores rfl gotStatus (by simp),
    failureType, spell.optional member_restores rfl gotFailureType (by simp),
    error, spell.optional ExecError.restores rfl gotError (by simp),
    timestamps, spell.withDefault ExecTimestamps.restores rfl gotTimestamps (by simp), rfl⟩

theorem Logs.restores : Restores Logs.decode Logs.toJson := by
  refine .of_fields (by simp) fun read spell => ?_
  simp only [Option.bind_eq_bind, Option.bind_eq_some_iff, Option.pure_def, Option.some.injEq] at read ⊢
  obtain ⟨stdout, gotStdout, stderr, gotStderr, rfl⟩ := read
  exact ⟨stdout, spell.withDefault string_restores rfl gotStdout (by simp),
    stderr, spell.withDefault string_restores rfl gotStderr (by simp), rfl⟩

theorem DagResult.restores : Restores DagResult.decode DagResult.toJson := by
  refine .of_fields (by simp) fun read spell => ?_
  simp only [Option.bind_eq_bind, Option.bind_eq_some_iff, Option.pure_def, Option.some.injEq] at read ⊢
  obtain ⟨id, gotId, dag, gotDag, execState, gotExecState, created, gotCreated, rfl⟩ := read
  exact ⟨id, spell.required Id.restores gotId (by simp), dag, spell.required Id.restores gotDag (by simp),
    execState, spell.withDefault ExecState.restores rfl gotExecState (by simp),
    created, spell.required Timestamp.restores gotCreated (by simp), rfl⟩

theorem ArtifactResult.restores : Restores ArtifactResult.decode ArtifactResult.toJson := by
  refine .of_fields (by simp) fun read spell => ?_
  simp only [Option.bind_eq_bind, Option.bind_eq_some_iff, Option.pure_def, Option.some.injEq] at read ⊢
  obtain ⟨type, gotType, serialization, gotSerialization, content, gotContent, execState, gotExecState, rfl⟩ := read
  exact ⟨type, spell.withDefault ArtifactType.restores rfl gotType (by simp),
    serialization, spell.required SerializationType.restores gotSerialization (by simp),
    content, spell.optional string_restores rfl gotContent (by simp),
    execState, spell.withDefault ExecState.restores rfl gotExecState (by simp), rfl⟩

theorem OperatorResult.restores : Restores OperatorResult.decode OperatorResult.toJson := by
  refine .of_fields (by simp) fun read spell => ?_
  simp only [Option.bind_eq_bind, Option.bind_eq_some_iff, Option.pure_def, Option.some.injEq] at read ⊢
  obtain ⟨execState, gotExecState, logs, gotLogs, rfl⟩ := read
  exact ⟨execState, spell.withDefault ExecState.restores rfl gotExecState (by simp),
    logs, spell.optional Logs.restores rfl gotLogs (by simp), rfl⟩

theorem Snapshot.restores : Restores Snapshot.decode Snapshot.toJson := by
  refine .of_fields (by simp) fun read spell => ?_
  simp only [Option.bind_eq_bind, Option.bind_eq_some_iff, Option.pure_def, Option.some.injEq] at read ⊢
  obtain ⟨dags, gotDags, results, gotResults, rfl⟩ := read
  exact ⟨dags, spell.withDefault (FinMap.restores Dag.restores) rfl gotDags (by simp),
    results, spell.withDefault (list_restores DagResult.restores) rfl gotResults (by simp), rfl⟩

theorem WorkflowUpdate.restores : Restores WorkflowUpdate.decode WorkflowUpdate.toJson := by
  refine .of_fields (by simp) fun read spell => ?_
  simp only [Option.bind_eq_bind, Option.bind_eq_some_iff, Option.pure_def, Option.some.injEq] at read ⊢
  obtain ⟨name, gotName, description, gotDescription, schedule, gotSchedule, retention, gotRetention, rfl⟩ := read
  exact ⟨name, spell.named_field string_restores rfl gotName (by simp),
    description, spell.named_field string_restores rfl gotDescription (by simp),
    schedule, spell.named_field Schedule.restores rfl gotSchedule (by simp),
    retention, spell.named_field RetentionPolicy.restores rfl gotRetention (by simp), rfl⟩

theorem PositioningRequest.restores : Restores PositioningRequest.decode PositioningRequest.toJson := by
  refine .of_fields (by simp) fun read spell => ?_
  simp only [Option.bind_eq_bind, Option.bind_eq_some_iff, Option.pure_def, Option.some.injEq] at read ⊢
  obtain ⟨operators, gotOperators, artifacts, gotArtifacts, rfl⟩ := read
  exact ⟨operators, spell.required (FinMap.restores Operator.restores) gotOperators (by simp),
    artifacts, spell.required (FinMap.restores Artifact.restores) gotArtifacts (by simp), rfl⟩

theorem TableField.restores : Restores TableField.decode TableField.toJson := by
  refine .of_fields (by simp) fun read spell => ?_
  simp only [Option.bind_eq_bind, Option.bind_eq_some_iff, Option.pure_def, Option.some.injEq] at read ⊢
  obtain ⟨name, gotName, type, gotType, rfl⟩ := read
  exact ⟨name, spell.required string_restores gotName (by simp),
    type, spell.withDefault string_restores rfl gotType (by simp), rfl⟩

theorem TableData.restores : Restores TableData.decode TableData.toJson := by
  refine .of_fields (by simp) fun read spell => ?_
  simp only [Option.bind_eq_bind, Option.bind_eq_some_iff, Option.pure_def, Option.some.injEq] at read ⊢
  obtain ⟨fields, gotFields, rows, gotRows, rfl⟩ := read
  exact ⟨fields, spell.required (list_restores TableField.restores) gotFields (by simp),
    rows, spell.required (list_restores valueMap_restores) gotRows (by simp), rfl⟩

theorem ApiConfig.restores : Restores ApiConfig.decode ApiConfig.toJson := by
  refine .of_fields (by simp) fun read spell => ?_
  simp only [Option.bind_eq_bind, Option.bind_eq_some_iff, Option.pure_def, Option.some.injEq] at read ⊢
  obtain ⟨address, gotAddress, https, gotHttps, apiKey, gotApiKey, timeout, gotTimeout, userAgent, gotUserAgent,
    rfl⟩ := read
  exact ⟨address, spell.required string_restores gotAddress (by simp),
    https, spell.withDefault bool_restores rfl gotHttps (by simp),
    apiKey, spell.required string_restores gotApiKey (by simp),
    timeout, spell.withDefault natural64_restores rfl gotTimeout (by simp),
    userAgent, spell.nullable string_restores rfl gotUserAgent (by simp), rfl⟩

/-- A failure is written with its message first. -/
theorem LoadingStatus.toDocument_failed (message : String) :
    (failed message).toJson.toDocument = .object [("error", .string message), ("status", .string "failed")] := by
  have before : compare "error" "status" = .lt := by decide
  have entries : (FinMap.ofList (failed message).jsonFields).entries =
      [("error", .string message), ("status", .string "failed")] := by
    simp [jsonFields, name, error?, Json.optional, FinMap.ofList, FinMap.insert, FinMap.empty, FinMap.insertEntry, before]
  rw [toJson, Json.toDocument_ofFields, entries]
  simp [Json.memberDocuments, Json.toDocument]

theorem LoadingStatus.restores : Restores LoadingStatus.decode LoadingStatus.toJson := by
  intro doc status _
  cases status with
  | initial | loading | succeeded => rfl
  | failed message =>
    rw [ReadsBack, toDocument_failed]
    rfl

end DagConsole

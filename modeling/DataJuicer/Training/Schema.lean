import DataJuicer.Lib.Table
import DataJuicer.Lib.Transaction
import DataJuicer.Training.Models

/-! # The training database

The rows of the tables that the run operations read and write, and the statements they run
on them. A row refers to another by its public reference; a version, which each run has one
of, is known by its run. JSON columns hold the value that is decoded from them.
-/

namespace DataJuicer.Training

/-- The fields of a stage's private specification that a start action needs. -/
structure StageSpec where
  workingDirectory : String
  outputRoot : Option String
  argv : List String
  entrypoint : String
  sensitiveParameters : List String
  parameters : List (String × String)
  runtimeEnvironment : String
  monitoring : String
  datasetManifestPath : Option String
  deriving DecidableEq

structure DatasetManifest where
  text : String
  train : List String
  test : List String

/-- The request of a `start_training_stage` action. -/
structure StartPayload where
  stageRef : String
  stageNumber : ℕ
  versionLabel : String
  familyRef : String
  workingDirectory : String
  outputRoot : String
  outputDirectory : String
  argv : List String
  entrypoint : String
  gpuUuids : List String
  runtimeEnvironment : String
  monitoring : String
  datasetManifestPath : Option String
  datasetManifest : Option DatasetManifest
  datasetReplicas : List String
  redactions : List String

inductive ActionRequest
  | start (payload : StartPayload)
  | stop (runRef : String)

/-- A row of `training_runs`. -/
structure RunRow where
  runRef : String
  modelRef : String
  revisionRef : String
  executionMode : ExecutionMode
  executionControlStatus : Option ControlStatus
  executionWorkerInstanceId : Option String
  executionOwnerEpoch : ℕ
  executionUpdateSeq : ℕ
  executionLastHeartbeatAt : Option Timestamp
  serverRef : String
  gpuUuids : List String
  status : RunStatus
  stateRevision : ℕ
  totalSteps : ℕ
  currentStep : ℕ
  ownerId : Option String
  ownerEpoch : ℕ
  leaseExpiresAt : Option Timestamp
  heartbeatAt : Option Timestamp
  failureCode : Option String
  failureMessage : Option String
  createdAt : Timestamp
  updatedAt : Timestamp
  startedAt : Option Timestamp
  finishedAt : Option Timestamp
  deriving DecidableEq

/-- A row of `model_versions`. -/
structure VersionRow where
  runRef : String
  versionRef : String
  familyRef : String
  versionNumber : ℕ
  versionDate : String
  versionLabel : String
  description : Option String
  createdAt : Timestamp

/-- A row of `dataset_snapshots`. -/
structure SnapshotRow where
  runRef : String
  snapshotRef : String
  manifest : DatasetManifest
  createdAt : Timestamp

/-- A row of `training_stages`. -/
structure StageRow where
  stageRef : String
  runRef : String
  stageNumber : ℕ
  stageName : String
  stageInputSource : StageInputSource
  spec : StageSpec
  outputDirectory : String
  status : StageStatus
  currentStep : ℕ
  totalSteps : ℕ
  failureCode : Option String
  failureMessage : Option String
  createdAt : Timestamp
  updatedAt : Timestamp
  startedAt : Option Timestamp
  finishedAt : Option Timestamp
  deriving DecidableEq

/-- A row of `training_execution_actions`. -/
structure ActionRow where
  actionRef : String
  runRef : String
  stageRef : Option String
  nodeRef : String
  kind : ActionKind
  status : ActionStatus
  request : ActionRequest
  result : Option String
  workerInstanceId : Option String
  claimTokenSha256 : Option String
  leaseExpiresAt : Option Timestamp
  createdAt : Timestamp
  updatedAt : Timestamp
  startedAt : Option Timestamp
  finishedAt : Option Timestamp

/-- A row of `gpu_leases`. -/
structure GpuLeaseRow where
  gpuUuid : String
  runRef : String
  acquiredAt : Timestamp

/-- A row of `port_leases`. -/
structure PortLeaseRow where
  serverRef : String
  masterPort : ℕ
  runRef : String
  acquiredAt : Timestamp

/-- A row of `training_artifacts`; `runRef` is the run of its version. -/
structure ArtifactRow where
  artifactRef : String
  runRef : String
  stageRef : String
  kind : ArtifactKind
  path : String
  simulated : Bool
  createdAt : Timestamp

/-- A row of `training_checkpoints`; `runRef` is the run of its version. -/
structure CheckpointRow where
  checkpointRef : String
  runRef : String
  stageRef : String
  relativePath : String
  step : Option ℤ
  createdAt : Timestamp

/-- A row of `metric_samples`; a measurement is kept as its text. -/
structure MetricRow where
  runRef : String
  seq : ℕ
  stageRef : String
  step : ℕ
  totalSteps : ℕ
  measurements : List (String × String)
  createdAt : Timestamp

/-- A row of `run_logs`. -/
structure LogRow where
  runRef : String
  seq : ℕ
  level : LogLevel
  message : String
  stageRef : Option String
  createdAt : Timestamp

/-- A row of `training_run_log_storage`. -/
structure LogStorageRow where
  runRef : String
  storedLines : ℕ
  storedBytes : ℕ
  truncated : Bool
  updatedAt : Timestamp

inductive IdempotencyScope
  | createRun
  | stopRun
  deriving DecidableEq

/-- A row of `training_idempotency`. -/
structure IdempotencyRow where
  scope : IdempotencyScope
  idempotencyKey : String
  payloadSha256 : String
  responseRef : String
  createdAt : Timestamp

/-- A row of `registered_models` with its family. -/
structure ModelRow where
  modelRef : String
  currentRevision : ℕ
  verified : Bool
  familyRef : String
  familyName : String

/-- A row of `model_revisions`. -/
structure RevisionRow where
  revisionRef : String
  modelRef : String
  revisionNumber : ℕ

/-- A row of `training_nodes`. -/
structure NodeRow where
  nodeRef : String
  status : TrainingNodeStatus
  lastHeartbeatAt : Option Timestamp
  trainingExecutionV1 : Bool
  workerFeatures : List String
  workerTokenSha256 : Option String
  workerInstanceId : Option String

/-- A row of `dataset_replicas` with its manifest. -/
structure ReplicaRow where
  replicaRef : String
  ready : Bool
  nodeRef : String
  releaseRef : String
  datasetDate : String
  localRoot : String
  inventorySha256 : String

instance : Keyed RunRow String := ⟨RunRow.runRef⟩
instance : Keyed VersionRow String := ⟨VersionRow.runRef⟩
instance : Keyed SnapshotRow String := ⟨SnapshotRow.runRef⟩
instance : Keyed StageRow String := ⟨StageRow.stageRef⟩
instance : Keyed ActionRow String := ⟨ActionRow.actionRef⟩
instance : Keyed GpuLeaseRow String := ⟨GpuLeaseRow.gpuUuid⟩
instance : Keyed PortLeaseRow (String × ℕ) := ⟨fun r => (r.serverRef, r.masterPort)⟩
instance : Keyed ArtifactRow String := ⟨ArtifactRow.artifactRef⟩
instance : Keyed CheckpointRow (String × String) := ⟨fun r => (r.stageRef, r.relativePath)⟩
instance : Keyed MetricRow (String × ℕ) := ⟨fun r => (r.runRef, r.seq)⟩
instance : Keyed LogRow (String × ℕ) := ⟨fun r => (r.runRef, r.seq)⟩
instance : Keyed LogStorageRow String := ⟨LogStorageRow.runRef⟩
instance : Keyed IdempotencyRow (IdempotencyScope × String) :=
  ⟨fun r => (r.scope, r.idempotencyKey)⟩
instance : Keyed ModelRow String := ⟨ModelRow.modelRef⟩
instance : Keyed RevisionRow String := ⟨RevisionRow.revisionRef⟩
instance : Keyed NodeRow String := ⟨NodeRow.nodeRef⟩
instance : Keyed ReplicaRow String := ⟨ReplicaRow.replicaRef⟩

/-- The tables that the run operations only read; other operations of the store write them. -/
structure Registry where
  models : Table ModelRow
  revisions : Table RevisionRow
  nodes : Table NodeRow
  replicas : Table ReplicaRow

structure Database where
  runs : Table RunRow
  versions : Table VersionRow
  snapshots : Table SnapshotRow
  stages : Table StageRow
  actions : Table ActionRow
  gpuLeases : Table GpuLeaseRow
  portLeases : Table PortLeaseRow
  artifacts : Table ArtifactRow
  checkpoints : Table CheckpointRow
  metrics : Table MetricRow
  logs : Table LogRow
  logStorage : Table LogStorageRow
  idempotency : Table IdempotencyRow
  registry : Registry

def Database.initial (registry : Registry) : Database where
  runs := .empty
  versions := .empty
  snapshots := .empty
  stages := .empty
  actions := .empty
  gpuLeases := .empty
  portLeases := .empty
  artifacts := .empty
  checkpoints := .empty
  metrics := .empty
  logs := .empty
  logStorage := .empty
  idempotency := .empty
  registry := registry

end DataJuicer.Training

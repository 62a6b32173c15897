import Mathlib.Data.List.MinMax
import DataJuicer.Training.Schema

/-! # Creating, stopping and finishing runs

`create_run` leases the GPUs and the port of a run and queues its first stage, `stop_run`
cancels a queued run and asks for the stop of another, and `_finish_in` gives a run its final
status and drops its leases.
-/

namespace DataJuicer.Training

open Transaction

def runLogMaxLines : ℕ := 100000

def runLogMaxBytes : ℕ := 64 * 1024 * 1024

def runLogTruncatedMessage : String :=
  "Central log storage limit reached. The complete training log remains " ++
    "available on the Training Worker node."

/-- The counters of a run's log; the first line initializes them from the lines stored. -/
def logStorageOf (now : Timestamp) (runRef : String) (db : Database) : LogStorageRow :=
  let lines := db.logs.select fun l => l.runRef = runRef
  (db.logStorage.find? runRef).getD
    { runRef, storedLines := lines.length
      storedBytes := (lines.map fun l => l.message.utf8ByteSize).sum
      truncated := false, updatedAt := now }

def LogStorageRow.OverLimit (s : LogStorageRow) (message : String) : Prop :=
  runLogMaxLines ≤ s.storedLines ∨ runLogMaxBytes < s.storedBytes + message.utf8ByteSize

instance (s : LogStorageRow) (message : String) : Decidable (s.OverLimit message) :=
  inferInstanceAs (Decidable (_ ∨ _))

/-- `COALESCE(MAX(seq),0)+1` -/
def nextSeq (seqs : List ℕ) : ℕ := seqs.foldr max 0 + 1

/-- The line that `_log` stores, when it stores one. -/
def logLine (now : Timestamp) (runRef : String) (level : LogLevel) (message : String)
    (stageRef : Option String) (db : Database) : Option LogRow :=
  let storage := logStorageOf now runRef db
  let seq := nextSeq ((db.logs.select fun l => l.runRef = runRef).map (·.seq))
  if storage.OverLimit message then
    if storage.truncated then none
    else some
      { runRef, seq, level := .warning, message := runLogTruncatedMessage, stageRef
        createdAt := now }
  else some { runRef, seq, level, message, stageRef, createdAt := now }

def Database.log (now : Timestamp) (runRef : String) (level : LogLevel) (message : String)
    (stageRef : Option String) (db : Database) : Database :=
  let storage := logStorageOf now runRef db
  let counters := db.logStorage.insertOrIgnore storage
  { db with
    logs := match logLine now runRef level message stageRef db with
      | none => db.logs
      | some line => db.logs.insertOrIgnore line
    logStorage := match logLine now runRef level message stageRef db with
      | none => counters
      | some line => counters.update (fun s => s.runRef = runRef) fun s =>
          { s with
            storedLines := s.storedLines + 1
            storedBytes := s.storedBytes + line.message.utf8ByteSize
            truncated := s.truncated ∨ storage.OverLimit message
            updatedAt := now } }

/-- The run, its stages and its artifacts, which `_safe_run` projects. -/
structure RunView where
  run : RunRow
  stages : List StageRow
  artifacts : List ArtifactRow

def stagesOf (db : Database) (runRef : String) : List StageRow :=
  db.stages.select fun s => s.runRef = runRef

def artifactsOf (db : Database) (runRef : String) : List ArtifactRow :=
  db.artifacts.select fun a => a.runRef = runRef

def runNotFound : TrainingError := .notFound "run_not_found" "Training run was not found."

def getRunIn (db : Database) (runRef : String) : Except TrainingError RunView :=
  match db.runs.find? runRef with
  | none => .error runNotFound
  | some run => .ok ⟨run, stagesOf db runRef, artifactsOf db runRef⟩

/-- `ORDER BY stage_number LIMIT 1` -/
def firstStage? (stages : List StageRow) : Option StageRow := stages.argmin (·.stageNumber)

/-- `ORDER BY stage_number DESC LIMIT 1` -/
def lastStage? (stages : List StageRow) : Option StageRow := stages.argmax (·.stageNumber)

def nextPending? (db : Database) (runRef : String) : Option StageRow :=
  firstStage? ((stagesOf db runRef).filter fun s => s.status = .pending)

/-- The stage statements of `_finish_in`. -/
def finishStages (now : Timestamp) (runRef : String) (status : FinishStatus)
    (code message : Option String) (t : Table StageRow) : Table StageRow :=
  match status with
  | .succeeded => t
  | .cancelled =>
    t.update (fun s => s.runRef = runRef ∧ s.status.Open) fun s =>
      { s with status := .cancelled, finishedAt := some now, updatedAt := now }
  | .failed | .lost =>
    (t.update (fun s => s.runRef = runRef ∧ s.status.Active) fun s =>
      { s with
        status := status.toStage
        failureCode := s.failureCode.or code
        failureMessage := s.failureMessage.or message
        finishedAt := some now
        updatedAt := now }).update
      (fun s => s.runRef = runRef ∧ s.status = .pending) fun s =>
        { s with status := .skipped, finishedAt := some now, updatedAt := now }

def finishRunRow (now : Timestamp) (status : FinishStatus) (code message : Option String)
    (r : RunRow) : RunRow :=
  { r with
    status := status.toRun
    currentStep := if status = .succeeded then r.totalSteps else r.currentStep
    stateRevision := r.stateRevision + 1
    ownerId := none
    leaseExpiresAt := none
    executionControlStatus :=
      if r.executionMode = .real then some .connected else r.executionControlStatus
    finishedAt := some now
    updatedAt := now
    failureCode := code
    failureMessage := message }

/-- The statements of `_finish_in` before its log line. -/
def finishTables (now : Timestamp) (run : RunRow) (status : FinishStatus)
    (code message : Option String) (db : Database) : Database :=
  { db with
    stages := finishStages now run.runRef status code message db.stages
    runs := db.runs.update (fun r => r.runRef = run.runRef) (finishRunRow now status code message)
    gpuLeases := db.gpuLeases.delete fun l => l.runRef = run.runRef
    portLeases := db.portLeases.delete fun l => l.runRef = run.runRef
    actions := db.actions.update (fun a => a.runRef = run.runRef ∧ a.status = .queued) fun a =>
      { a with status := .cancelled, finishedAt := some now, updatedAt := now } }

def FinishStatus.value : FinishStatus → String
  | .succeeded => "succeeded"
  | .failed => "failed"
  | .cancelled => "cancelled"
  | .lost => "lost"

def closingStage? (runRef : String) (status : FinishStatus) (db : Database) : Option StageRow :=
  let stages := (stagesOf db runRef).filter fun s => s.status = status.toStage
  if status = .succeeded then lastStage? stages else firstStage? stages

def finishIn (now : Timestamp) (run : RunRow) (status : FinishStatus)
    (code message : Option String) (db : Database) : Database :=
  let db := finishTables now run status code message db
  let level : LogLevel := if status = .succeeded ∨ status = .cancelled then .info else .error
  let kind := if run.executionMode = .real then "Real training" else "Simulation"
  db.log now run.runRef level (kind ++ " run " ++ status.value ++ ".")
    ((closingStage? run.runRef status db).map (·.stageRef))

/-- `str.rsplit('/', n)[0]` -/
def parentDirectory (path : String) : String :=
  match path.splitOn "/" with
  | [] | [_] => path
  | parts => "/".intercalate parts.dropLast

def startActionPayload (db : Database) (runRef stageRef : String) :
    Except TrainingError StartPayload := do
  let run ← orRaise .assertionError (db.runs.find? runRef)
  let version ← orRaise .assertionError (db.versions.find? runRef)
  let stage ← orRaise .assertionError (db.stages.find? stageRef)
  let manifest := (db.snapshots.find? runRef).map (·.manifest)
  let spec := stage.spec
  let versionRoot := parentDirectory stage.outputDirectory
  let outputRoot := spec.outputRoot.filter (· ≠ "")
  let secrets := (spec.sensitiveParameters.take 64).filterMap fun name =>
    spec.parameters.lookup name
  return {
    stageRef := stage.stageRef
    stageNumber := stage.stageNumber
    versionLabel := version.versionLabel
    familyRef := version.familyRef
    workingDirectory := spec.workingDirectory
    outputRoot := outputRoot.getD (parentDirectory (parentDirectory versionRoot))
    outputDirectory := stage.outputDirectory
    argv := spec.argv
    entrypoint := spec.entrypoint
    gpuUuids := run.gpuUuids
    runtimeEnvironment := spec.runtimeEnvironment
    monitoring := spec.monitoring
    datasetManifestPath := spec.datasetManifestPath
    datasetManifest := manifest
    datasetReplicas := (manifest.map fun m => m.train ++ m.test).getD []
    redactions := secrets.filter (· ≠ "") }

/-- The row that `_queue_training_action_in` inserts. -/
def queuedAction (now : Timestamp) (actionRef runRef : String) (stageRef : Option String)
    (nodeRef : String) (kind : ActionKind) (request : ActionRequest) : ActionRow where
  actionRef := actionRef
  runRef := runRef
  stageRef := stageRef
  nodeRef := nodeRef
  kind := kind
  status := .queued
  request := request
  result := none
  workerInstanceId := none
  claimTokenSha256 := none
  leaseExpiresAt := none
  createdAt := now
  updatedAt := now
  startedAt := none
  finishedAt := none

def queueTrainingActionIn (a : ActionRow) (db : Database) : Except TrainingError Database := do
  let actions ← orRaise .integrityError (db.actions.insert? a)
  return { db with actions }

def queueStageStart (now : Timestamp) (actionRef : String) (run : RunRow) (stageRef : String)
    (db : Database) : Except TrainingError Database := do
  let payload ← startActionPayload db run.runRef stageRef
  queueTrainingActionIn (queuedAction now actionRef run.runRef (some stageRef) run.serverRef
    .startTrainingStage (.start payload)) db

/-- A replica of a dataset split as the request names it. -/
structure SplitEntry where
  replicaRef : String
  releaseRef : String
  datasetDate : String
  localRoot : String
  inventorySha256 : String

structure DatasetSplits where
  train : List SplitEntry
  test : List SplitEntry

/-- The version of a run, known before its stages are built. -/
structure VersionMeta where
  versionRef : String
  versionNumber : ℕ
  versionDate : String
  versionLabel : String
  snapshotRef : Option String

/-- A stage that the specification builder returns. -/
structure StageInput where
  stageRef : Option String
  stageName : Option String
  stageInputSource : StageInputSource
  spec : StageSpec
  outputDirectory : String
  totalSteps : ℕ

structure RunSpec where
  stages : List StageInput
  datasetManifest : Option DatasetManifest

structure RunData where
  executionMode : String
  gpuUuids : List String
  modelRef : String
  revisionRef : String
  serverRef : String
  datasetSplits : Option DatasetSplits
  requiresMasterPort : Bool
  versionDescription : Option String

/-- The arguments of `create_run`, with the references that it draws. -/
structure RunCreation where
  data : RunData
  runSpecBuilder : String → Option ℕ → VersionMeta → Except TrainingError RunSpec
  idempotencyKey : String
  digest : String
  versionDate : String
  runRef : String
  versionRef : String
  snapshotRef : String
  stageRefs : ℕ → String
  actionRef : String

def idempotencyConflict : TrainingError :=
  .conflict "idempotency_conflict" "Idempotency-Key was already used for another request."

def parseExecutionMode : String → Option ExecutionMode
  | "simulation" => some .simulation
  | "real" => some .real
  | _ => none

def offlineAfterMs : ℕ := 45000

def effectiveNodeStatus (now : Timestamp) (n : NodeRow) : TrainingNodeStatus :=
  if n.status = .online ∨ n.status = .degraded then
    match n.lastHeartbeatAt with
    | none => .offline
    | some t => if t + offlineAfterMs < now then .offline else n.status
  else n.status

def datasetReplicaChanged : TrainingError :=
  .conflict "dataset_replica_changed"
    "A selected dataset date changed before the run was created."

def validateDatasetSplitsIn (reg : Registry) (nodeRef : String) (splits : DatasetSplits) :
    Except TrainingError PUnit := do
  let entries := splits.train ++ splits.test
  raiseIf (entries = []) (.conflict "managed_dataset_training_set_required"
    "Managed training data requires at least one ready training date.")
  raiseIf (∃ e ∈ entries, ∀ r ∈ reg.replicas, r.replicaRef ≠ e.replicaRef) datasetReplicaChanged
  raiseIf (∃ e ∈ entries, ∃ r ∈ reg.replicas, r.replicaRef = e.replicaRef ∧
    (r.ready = false ∨ r.nodeRef ≠ nodeRef ∨ r.releaseRef ≠ e.releaseRef ∨
      r.datasetDate ≠ e.datasetDate ∨ r.localRoot ≠ e.localRoot ∨
      r.inventorySha256 ≠ e.inventorySha256)) datasetReplicaChanged

def selectModel (reg : Registry) (d : RunData) : Except TrainingError ModelRow := do
  let changed : TrainingError := .conflict "model_configuration_changed"
    "The selected model configuration changed before the run was created."
  let model ← orRaise changed (reg.models.find? d.modelRef)
  let revision ← orRaise changed (reg.revisions.find? d.revisionRef)
  raiseIf (revision.modelRef ≠ model.modelRef ∨
    revision.revisionNumber ≠ model.currentRevision) changed
  return model

/-- The node can execute real runs. -/
def NodeRow.Executes (n : NodeRow) : Prop :=
  n.trainingExecutionV1 = true ∨ "training_execution_v1" ∈ n.workerFeatures

instance (n : NodeRow) : Decidable n.Executes := inferInstanceAs (Decidable (_ ∨ _))

def checkRealRun (now : Timestamp) (reg : Registry) (model : ModelRow) (serverRef : String) :
    Except TrainingError PUnit := do
  raiseIf (model.verified = false) (.conflict "real_training_model_not_verified"
    "The current model configuration must be verified before real training.")
  let unavailable : TrainingError := .conflict "real_training_node_unavailable"
    "The selected Training Worker node must be online."
  let node ← orRaise unavailable (reg.nodes.find? serverRef)
  raiseIf (effectiveNodeStatus now node ≠ .online) unavailable
  raiseIf (¬ node.Executes) (.conflict "real_training_worker_upgrade_required"
    "Update the Training Worker before starting real training.")

def findAvailablePort (db : Database) (serverRef : String) : Except TrainingError ℕ :=
  let leased := (db.portLeases.select fun l => l.serverRef = serverRef).map (·.masterPort)
  orRaise (.conflict "master_port_exhausted" "No simulation master port is available.")
    ((List.range' 29500 101).find? fun port => port ∉ leased)

def stageName (number : ℕ) : String :=
  let names := ["一", "二", "三", "四", "五", "六", "七", "八", "九", "十"]
  "第" ++ names.getD (number - 1) "" ++ "阶段"

def newRun (now : Timestamp) (c : RunCreation) (mode : ExecutionMode) (model : ModelRow)
    (stages : List StageInput) : RunRow where
  runRef := c.runRef
  modelRef := model.modelRef
  revisionRef := c.data.revisionRef
  executionMode := mode
  executionControlStatus := if mode = .real then some .unreachable else none
  executionWorkerInstanceId := none
  executionOwnerEpoch := if mode = .real then 1 else 0
  executionUpdateSeq := 0
  executionLastHeartbeatAt := none
  serverRef := c.data.serverRef
  gpuUuids := c.data.gpuUuids
  status := .queued
  stateRevision := 1
  totalSteps := (stages.map fun s => max 1 s.totalSteps).sum
  currentStep := 0
  ownerId := none
  ownerEpoch := 0
  leaseExpiresAt := none
  heartbeatAt := none
  failureCode := none
  failureMessage := none
  createdAt := now
  updatedAt := now
  startedAt := none
  finishedAt := none

def newStage (now : Timestamp) (c : RunCreation) (number : ℕ) (s : StageInput) : StageRow where
  stageRef := s.stageRef.getD (c.stageRefs number)
  runRef := c.runRef
  stageNumber := number
  stageName := s.stageName.getD (stageName number)
  stageInputSource := s.stageInputSource
  spec := s.spec
  outputDirectory := s.outputDirectory
  status := .pending
  currentStep := 0
  totalSteps := max 1 s.totalSteps
  failureCode := none
  failureMessage := none
  createdAt := now
  updatedAt := now
  startedAt := none
  finishedAt := none

def newVersion (now : Timestamp) (c : RunCreation) (model : ModelRow) (m : VersionMeta) :
    VersionRow where
  runRef := c.runRef
  versionRef := m.versionRef
  familyRef := model.familyRef
  versionNumber := m.versionNumber
  versionDate := m.versionDate
  versionLabel := m.versionLabel
  description := c.data.versionDescription
  createdAt := now

/-- The version that `create_run` gives a run of this family. -/
def versionMeta (db : Database) (c : RunCreation) (familyRef : String) : VersionMeta :=
  let number := nextSeq ((db.versions.select fun v => v.familyRef = familyRef).map
    (·.versionNumber))
  { versionRef := c.versionRef
    versionNumber := number
    versionDate := c.versionDate
    versionLabel := "v" ++ toString number ++ "-" ++ c.versionDate
    snapshotRef := if c.data.datasetSplits = none then none else some c.snapshotRef }

def insertStage (r : StageRow) (db : Database) : Except TrainingError Database := do
  let stages ← orRaise .integrityError (db.stages.insert? r)
  return { db with stages }

def insertGpuLease (now : Timestamp) (runRef gpuUuid : String) (db : Database) :
    Except TrainingError Database := do
  let gpuLeases ← orRaise .integrityError (db.gpuLeases.insert? ⟨gpuUuid, runRef, now⟩)
  return { db with gpuLeases }

def insertPortLease (now : Timestamp) (c : RunCreation) (port : Option ℕ) (db : Database) :
    Except TrainingError Database :=
  match port with
  | none => .ok db
  | some port => do
    let lease : PortLeaseRow := ⟨c.data.serverRef, port, c.runRef, now⟩
    let portLeases ← orRaise .integrityError (db.portLeases.insert? lease)
    return { db with portLeases }

def insertSnapshot (now : Timestamp) (c : RunCreation) (m : VersionMeta) (spec : RunSpec)
    (db : Database) : Except TrainingError Database :=
  match m.snapshotRef with
  | none => .ok db
  | some snapshotRef => do
    let manifest ← orRaise (.conflict "dataset_manifest_missing"
      "Managed training data requires a dataset manifest.") spec.datasetManifest
    let snapshots ← orRaise .integrityError
      (db.snapshots.insert? ⟨c.runRef, snapshotRef, manifest, now⟩)
    return { db with snapshots }

def insertIdempotency (r : IdempotencyRow) (db : Database) : Except TrainingError Database := do
  let idempotency ← orRaise .integrityError (db.idempotency.insert? r)
  return { db with idempotency }

def queueFirstStage (now : Timestamp) (c : RunCreation) (run : RunRow) (stages : List StageRow)
    (db : Database) : Except TrainingError Database :=
  match run.executionMode, stages with
  | .real, first :: _ => queueStageStart now c.actionRef run first.stageRef db
  | _, _ => .ok db

def insertRun (now : Timestamp) (c : RunCreation) (model : ModelRow) (mode : ExecutionMode)
    (port : Option ℕ) (m : VersionMeta) (spec : RunSpec) (db : Database) :
    Except TrainingError Database := do
  let run := newRun now c mode model spec.stages
  let stages := spec.stages.mapIdx fun i s => newStage now c (i + 1) s
  let runs ← orRaise .integrityError (db.runs.insert? run)
  let versions ← orRaise .integrityError (db.versions.insert? (newVersion now c model m))
  let db ← insertSnapshot now c m spec { db with runs, versions }
  let db ← forEach insertStage stages db
  let db ← forEach (insertGpuLease now c.runRef) c.data.gpuUuids db
  let db ← insertPortLease now c port db
  let db ← insertIdempotency ⟨.createRun, c.idempotencyKey, c.digest, c.runRef, now⟩ db
  queueFirstStage now c run stages db

def leasePort (db : Database) (d : RunData) : Except TrainingError (Option ℕ) :=
  if d.requiresMasterPort then (findAvailablePort db d.serverRef).map some else .ok none

def checkSplits (reg : Registry) (d : RunData) : Except TrainingError PUnit :=
  match d.datasetSplits with
  | none => .ok ⟨⟩
  | some splits => validateDatasetSplitsIn reg d.serverRef splits

def checkMode (now : Timestamp) (reg : Registry) (mode : ExecutionMode) (model : ModelRow)
    (serverRef : String) : Except TrainingError PUnit :=
  match mode with
  | .simulation => .ok ⟨⟩
  | .real => checkRealRun now reg model serverRef

/-- `create_run` after the lookup of its idempotency key. -/
def createNewRun (now : Timestamp) (c : RunCreation) (mode : ExecutionMode) (db : Database) :
    Except TrainingError (RunView × Database) := do
  let conflicts := (db.gpuLeases.select fun l => l.gpuUuid ∈ c.data.gpuUuids).map (·.gpuUuid)
  raiseIf (conflicts ≠ []) (.conflict "gpu_lease_conflict"
    "One or more GPUs are already leased." (some (.gpuUuids conflicts)))
  let model ← selectModel db.registry c.data
  checkMode now db.registry mode model c.data.serverRef
  checkSplits db.registry c.data
  let port ← leasePort db c.data
  let m := versionMeta db c model.familyRef
  let spec ← c.runSpecBuilder c.runRef port m
  raiseIf (¬ (1 ≤ spec.stages.length ∧ spec.stages.length ≤ 10)) (.conflict
    "invalid_training_stage_count" "A training run must contain between 1 and 10 stages.")
  let db ← insertRun now c model mode port m spec db
  let queued := if mode = .real then "Real training workflow queued."
    else "Simulation workflow queued."
  let db := db.log now c.runRef .info queued none
  let view ← getRunIn db c.runRef
  return (view, db)

def createRun (now : Timestamp) (c : RunCreation) (db : Database) :
    Except TrainingError (RunView × Database) := do
  let mode ← orRaise (.conflict "unsupported_execution_mode"
    "The execution mode is not supported.") (parseExecutionMode c.data.executionMode)
  match db.idempotency.find? (.createRun, c.idempotencyKey) with
  | some idem =>
    raiseIf (idem.payloadSha256 ≠ c.digest) idempotencyConflict
    let view ← getRunIn db idem.responseRef
    return (view, db)
  | none => createNewRun now c mode db

/-- The arguments of `stop_run`, with the reference that it draws. -/
structure StopRequest where
  runRef : String
  expectedRevision : ℕ
  idempotencyKey : String
  digest : String
  actionRef : String

def queueStop (now : Timestamp) (actionRef : String) (run : RunRow) (db : Database) :
    Except TrainingError Database :=
  if run.executionMode = .real ∧ ¬ ∃ a ∈ db.actions,
      a.runRef = run.runRef ∧ a.kind = .stopTrainingRun ∧ a.status.Open then
    queueTrainingActionIn (queuedAction now actionRef run.runRef none run.serverRef
      .stopTrainingRun (.stop run.runRef)) db
  else .ok db

def cancelQueued (now : Timestamp) (run : RunRow) (db : Database) : Database :=
  { db with
    actions := db.actions.update (fun a => a.runRef = run.runRef ∧ a.status = .queued) fun a =>
      { a with status := .cancelled, finishedAt := some now, updatedAt := now } }

def markStopRequested (now : Timestamp) (run : RunRow) (db : Database) : Database :=
  { db with
    runs := db.runs.update (fun r => r.runRef = run.runRef) fun r =>
      { r with status := .stopRequested, stateRevision := r.stateRevision + 1, updatedAt := now } }

def requestStop (now : Timestamp) (actionRef : String) (run : RunRow) (db : Database) :
    Except TrainingError Database :=
  if run.status = .queued then
    .ok (finishIn now run .cancelled none none (cancelQueued now run db))
  else queueStop now actionRef run (markStopRequested now run db)

def stopRun (now : Timestamp) (q : StopRequest) (db : Database) :
    Except TrainingError (RunView × Database) :=
  match db.idempotency.find? (.stopRun, q.idempotencyKey) with
  | some idem => do
    raiseIf (idem.payloadSha256 ≠ q.digest ∨ idem.responseRef ≠ q.runRef) idempotencyConflict
    let view ← getRunIn db idem.responseRef
    return (view, db)
  | none => do
    let run ← orRaise runNotFound (db.runs.find? q.runRef)
    let current := some (Current.run run.runRef run.status run.stateRevision)
    raiseIf (run.stateRevision ≠ q.expectedRevision)
      (.conflict "run_revision_conflict" "The run state changed." current)
    raiseIf run.status.Terminal
      (.conflict "run_already_finished" "The run is already finished." current)
    let db ← requestStop now q.actionRef run db
    let view ← getRunIn db q.runRef
    let db ← insertIdempotency ⟨.stopRun, q.idempotencyKey, q.digest, q.runRef, now⟩ db
    return (view, db)

end DataJuicer.Training

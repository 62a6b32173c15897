import DataJuicer.Training.Actions

/-! # Updates of a real run

`apply_training_run_updates` applies the next numbered batch of a worker's updates to a real
run: what was started, logged, measured and saved, how a stage exited and what the worker
found out about it after a restart.
-/

namespace DataJuicer.Training

open Transaction

structure LogLine where
  message : Option String
  level : Option String

/-- What an `exited` update reports, or a `reconciliation` that amounts to one. -/
structure Exit where
  status : Option String
  failureCode : Option String
  failureMessage : Option String

/-- The kinds of updates with their fields. -/
inductive UpdateBody
  | accepted
  | heartbeat
  | started
  | log (level : Option String) (lines : List LogLine)
  | metric (step : Option ℕ) (totalSteps : Option ℕ) (measurements : List (String × String))
  | checkpoint (relativePath : String) (step : Option ℤ)
  | reconciliation (found : Exit)
  | exited (exit : Exit)

structure TrainingUpdate where
  stageRef : Option String
  body : UpdateBody

/-- The references that the centre draws for one update. -/
structure NewRefs where
  artifact : String
  versionArtifact : String
  action : String
  checkpoint : String

def stageRequired (message : String) : TrainingError :=
  .conflict "training_stage_required" message

def applyStarted (now : Timestamp) (run : RunRow) (stage : StageRow) (db : Database) :
    Database :=
  { db with
    stages := db.stages.update (fun s => s.stageRef = stage.stageRef ∧ s.status.Open)
      (fun s => { s with
        status := .running
        startedAt := s.startedAt.or (some now)
        updatedAt := now })
      fun s => Table.key_self s
    runs := db.runs.update (fun r => r.runRef = run.runRef ∧
        (r.status = .queued ∨ r.status = .preparing ∨ r.status = .running))
      (fun r => { r with
        status := .running
        startedAt := r.startedAt.or (some now)
        stateRevision := r.stateRevision + 1
        updatedAt := now })
      fun r => Table.key_self r
    actions := db.actions.update (fun a => a.runRef = run.runRef ∧
        a.stageRef = some stage.stageRef ∧ a.kind = .startTrainingStage ∧ a.status = .running)
      (fun a => { a with
        status := .succeeded
        result := some "{}"
        claimTokenSha256 := none
        leaseExpiresAt := none
        finishedAt := some now
        updatedAt := now })
      fun a => Table.key_self a }

def parseLogLevel : String → LogLevel
  | "debug" => .debug
  | "warning" => .warning
  | "error" => .error
  | _ => .info

def applyLog (now : Timestamp) (run : RunRow) (stage : StageRow) (level : Option String)
    (lines : List LogLine) (db : Database) : Database :=
  (lines.take 200).foldl (fun db line =>
    let text := String.ofList ((line.message.getD "").toList.take 16384)
    let named := ((line.level.filter (· ≠ "")).or (level.filter (· ≠ ""))).getD "info"
    db.log now run.runRef (parseLogLevel named) text (some stage.stageRef)) db

/-- SQLite keeps an integer in 64 bits; a larger one can be neither bound nor summed up. -/
def Storable (n : ℤ) : Prop := -2 ^ 63 ≤ n ∧ n < 2 ^ 63

instance : DecidablePred Storable := fun _ => inferInstanceAs (Decidable (_ ∧ _))

def progress (now : Timestamp) (stage : StageRow) (step : ℕ) (stages : Table StageRow) :
    Table StageRow :=
  stages.update (fun s => s.stageRef = stage.stageRef) fun s =>
    { s with currentStep := max s.currentStep step, updatedAt := now }

def measuredSteps (stages : Table StageRow) (runRef : String) : ℕ :=
  ((stages.select fun s => s.runRef = runRef).map fun s =>
    if s.status = .succeeded then s.totalSteps else s.currentStep).sum

def applyMetric (now : Timestamp) (run : RunRow) (stage : StageRow) (step totalSteps : Option ℕ)
    (measurements : List (String × String)) (db : Database) : Except TrainingError Database := do
  let seq := nextSeq ((db.metrics.select fun m => m.runRef = run.runRef).map (·.seq))
  let step := step.getD 0
  let totalSteps := (totalSteps.filter (· ≠ 0)).getD stage.totalSteps
  raiseIf (¬ Storable step ∨ ¬ Storable totalSteps) .overflowError
  let stages := progress now stage step db.stages
  let completed := measuredSteps stages run.runRef
  raiseIf (¬ Storable completed) .overflowError
  return { db with
    metrics := db.metrics.insertOrIgnore
      ⟨run.runRef, seq, stage.stageRef, step, totalSteps, measurements, now⟩
    stages := stages
    runs := db.runs.update (fun r => r.runRef = run.runRef) fun r =>
      { r with currentStep := completed, updatedAt := now } }

def SafeCheckpointPath (path : String) : Prop :=
  path ≠ "" ∧ path.startsWith "/" = false ∧
    (∀ part ∈ path.splitOn "/", part ≠ "" ∧ part ≠ "." ∧ part ≠ "..") ∧
    ∀ c ∈ path.toList, c ≠ '\x00' ∧ c ≠ '\r' ∧ c ≠ '\n'

instance (path : String) : Decidable (SafeCheckpointPath path) :=
  have := List.decidableBAll (fun c => c ≠ '\x00' ∧ c ≠ '\r' ∧ c ≠ '\n') path.toList
  inferInstanceAs (Decidable (_ ∧ _ ∧ _ ∧ _))

def applyCheckpoint (now : Timestamp) (refs : NewRefs) (run : RunRow) (stage : StageRow)
    (relativePath : String) (step : Option ℤ) (db : Database) :
    Except TrainingError Database := do
  raiseIf (¬ SafeCheckpointPath relativePath) (.conflict "invalid_checkpoint_path"
    "Checkpoint paths must be safe and relative to the stage output.")
  let version ← orRaise .assertionError (db.versions.find? run.runRef)
  raiseIf (∃ n ∈ step, ¬ Storable n) .overflowError
  return { db with
    checkpoints := db.checkpoints.insertOrIgnore
      ⟨refs.checkpoint, version.runRef, stage.stageRef, relativePath, step, now⟩ }

/-- `str(update.get("status") or default)` -/
def Exit.statusOr (default : String) (e : Exit) : String :=
  (e.status.filter (· ≠ "")).getD default

def exitStatus : String → FinishStatus
  | "succeeded" => .succeeded
  | "cancelled" => .cancelled
  | "lost" => .lost
  | _ => .failed

def settleStarts (now : Timestamp) (run : RunRow) (stage : StageRow) (db : Database) : Database :=
  { db with
    actions := db.actions.update
      (fun a => a.runRef = run.runRef ∧ a.stageRef = some stage.stageRef ∧
        a.kind = .startTrainingStage ∧ a.status.Open) fun a =>
        { a with
          status := .succeeded
          result := a.result.or (some "{}")
          claimTokenSha256 := none
          leaseExpiresAt := none
          finishedAt := a.finishedAt.or (some now)
          updatedAt := now } }

def cancelStage (now : Timestamp) (stage : StageRow) (db : Database) : Database :=
  { db with
    stages := db.stages.update (fun s => s.stageRef = stage.stageRef ∧ s.status.Open) fun s =>
      { s with
        status := .cancelled
        failureCode := none
        failureMessage := none
        finishedAt := some now
        updatedAt := now } }

def closeStage (now : Timestamp) (stage : StageRow) (status : FinishStatus)
    (code message : Option String) (db : Database) : Database :=
  { db with
    stages := db.stages.update (fun s => s.stageRef = stage.stageRef) fun s =>
      { s with
        status := status.toStage
        failureCode := code
        failureMessage := message
        finishedAt := some now
        updatedAt := now } }

def markSucceeded (now : Timestamp) (stage : StageRow) (db : Database) : Database :=
  { db with
    stages := db.stages.update (fun s => s.stageRef = stage.stageRef) fun s =>
      { s with
        status := .succeeded
        currentStep := s.totalSteps
        finishedAt := some now
        updatedAt := now } }

def markPreparing (now : Timestamp) (stage : StageRow) (db : Database) : Database :=
  { db with
    stages := db.stages.update (fun s => s.stageRef = stage.stageRef)
      (fun s => { s with status := .preparing, updatedAt := now }) fun s => Table.key_self s }

def exitStopped (now : Timestamp) (run : RunRow) (stage : StageRow) (db : Database) : Database :=
  finishIn now run .cancelled none none (cancelStage now stage (settleStops now run.runRef db))

def exitUnsuccessful (now : Timestamp) (run : RunRow) (stage : StageRow) (terminal : FinishStatus)
    (e : Exit) (db : Database) : Database :=
  let db := finishIn now run terminal e.failureCode e.failureMessage
    (closeStage now stage terminal e.failureCode e.failureMessage db)
  if terminal = .cancelled then settleStops now run.runRef db else db

def insertArtifact (a : ArtifactRow) (db : Database) : Except TrainingError Database := do
  let artifacts ← orRaise .integrityError (db.artifacts.insert? a)
  return { db with artifacts }

def succeedStage (now : Timestamp) (artifactRef : String) (simulated : Bool) (run : RunRow)
    (stage : StageRow) (db : Database) : Except TrainingError Database := do
  let version ← orRaise .assertionError (db.versions.find? run.runRef)
  insertArtifact ⟨artifactRef, version.runRef, stage.stageRef, .stageOutput,
    stage.outputDirectory, simulated, now⟩ (markSucceeded now stage db)

/-- The run waits for the start of its next stage. -/
def markRunPreparing (now : Timestamp) (run : RunRow) (db : Database) : Database :=
  { db with
    runs := db.runs.update (fun r => r.runRef = run.runRef) fun r =>
      { r with status := .preparing, stateRevision := r.stateRevision + 1, updatedAt := now } }

def advance (now : Timestamp) (refs : NewRefs) (run : RunRow) (next : StageRow)
    (db : Database) : Except TrainingError Database := do
  let db ← queueStageStart now refs.action run next.stageRef (markPreparing now next db)
  return markRunPreparing now run db

/-- The run has no further stage: the output of this one is the model of the version. -/
def complete (now : Timestamp) (refs : NewRefs) (run : RunRow) (stage : StageRow)
    (db : Database) : Except TrainingError Database := do
  let db ← insertArtifact ⟨refs.versionArtifact, run.runRef, stage.stageRef, .versionModel,
    stage.outputDirectory, false, now⟩ db
  let refreshed ← orRaise .assertionError (db.runs.find? run.runRef)
  return finishIn now refreshed .succeeded none none db

def exitSucceeded (now : Timestamp) (refs : NewRefs) (run : RunRow) (stage : StageRow)
    (db : Database) : Except TrainingError Database := do
  let db ← succeedStage now refs.artifact false run stage db
  match nextPending? db run.runRef with
  | some next => advance now refs run next db
  | none => complete now refs run stage db

def applyExited (now : Timestamp) (refs : NewRefs) (run : RunRow) (stage : StageRow) (e : Exit)
    (db : Database) : Except TrainingError Database :=
  let db := settleStarts now run stage db
  if run.status = .stopRequested then .ok (exitStopped now run stage db)
  else match exitStatus (e.statusOr "failed") with
    | .succeeded => exitSucceeded now refs run stage db
    | terminal => .ok (exitUnsuccessful now run stage terminal e db)

/-- The worker does not know what became of the stage. -/
def reconcileUnresolved (now : Timestamp) (run : RunRow) (db : Database) : Database :=
  { db with
    runs := db.runs.update (fun r => r.runRef = run.runRef)
      (fun r => { r with
        executionControlStatus := some .unresolved
        stateRevision := r.stateRevision + 1
        updatedAt := now })
      fun r => Table.key_self r }

def reconcileRunning (now : Timestamp) (run : RunRow) (stage : Option StageRow) (db : Database) :
    Database :=
  { db with
    stages := db.stages.update (fun s => some s.stageRef = stage.map (·.stageRef)) fun s =>
      { s with status := .running, updatedAt := now }
    runs := db.runs.update (fun r => r.runRef = run.runRef) fun r =>
      { r with
        status := .running
        executionControlStatus := some .connected
        updatedAt := now } }

/-- `reconciliation`; an outcome other than these two is handled as an exit. -/
def applyReconciliation (now : Timestamp) (refs : NewRefs) (run : RunRow)
    (stage : Option StageRow) (e : Exit) (db : Database) : Except TrainingError Database :=
  if e.statusOr "unresolved" = "unresolved" then .ok (reconcileUnresolved now run db)
  else if e.statusOr "unresolved" = "running" then .ok (reconcileRunning now run stage db)
  else match stage with
    | none => .error (stageRequired "An exited update requires a stage.")
    | some stage => applyExited now refs run stage e db

def updateStage (db : Database) (run : RunRow) (u : TrainingUpdate) :
    Except TrainingError (Option StageRow) :=
  match u.stageRef with
  | none => .ok none
  | some ref =>
    (orRaise (.conflict "training_stage_not_found" "The training stage was not found.")
      ((db.stages.find? ref).filter fun s => s.runRef = run.runRef)).map some

def applyTrainingUpdateIn (now : Timestamp) (refs : NewRefs) (run : RunRow) (u : TrainingUpdate)
    (db : Database) : Except TrainingError Database := do
  let stage? ← updateStage db run u
  match u.body, stage? with
  | .accepted, _ => return db
  | .heartbeat, _ => return db
  | .started, none => .error (stageRequired "A started update requires a stage.")
  | .started, some stage => return applyStarted now run stage db
  | .log _ _, none => .error (stageRequired "A log update requires a stage.")
  | .log level lines, some stage => return applyLog now run stage level lines db
  | .metric _ _ _, none => .error (stageRequired "A metric update requires a stage.")
  | .metric step total measurements, some stage =>
    applyMetric now run stage step total measurements db
  | .checkpoint _ _, none => .error (stageRequired "A checkpoint update requires a stage.")
  | .checkpoint path step, some stage => applyCheckpoint now refs run stage path step db
  | .reconciliation found, stage? => applyReconciliation now refs run stage? found db
  | .exited _, none => .error (stageRequired "An exited update requires a stage.")
  | .exited exit, some stage => applyExited now refs run stage exit db

def applyUpdate (now : Timestamp) (runRef : String) (u : TrainingUpdate × NewRefs)
    (db : Database) : Except TrainingError Database := do
  let run ← orRaise .assertionError (db.runs.find? runRef)
  applyTrainingUpdateIn now u.2 run u.1 db

/-- The arguments of `apply_training_run_updates`, with the references drawn for each update. -/
structure UpdateBatch where
  runRef : String
  ownerEpoch : ℕ
  workerSeq : ℕ
  updates : List (TrainingUpdate × NewRefs)

def recordBatch (now : Timestamp) (w : WorkerCredential) (b : UpdateBatch) (db : Database) :
    Database :=
  { db with runs := db.runs.update (fun r => r.runRef = b.runRef) fun r =>
      { r with
        executionUpdateSeq := b.workerSeq
        executionWorkerInstanceId := some w.workerInstanceId
        executionLastHeartbeatAt := some now
        executionControlStatus := if r.executionControlStatus = some .unresolved then
          some .unresolved else some .connected
        updatedAt := now } }

def applyTrainingRunUpdates (now : Timestamp) (w : WorkerCredential) (b : UpdateBatch)
    (db : Database) : Except TrainingError (RunView × Database) := do
  authenticateWorker db.registry w
  let run ← orRaise runNotFound ((db.runs.find? b.runRef).filter fun r =>
    r.serverRef = w.nodeRef ∧ r.executionMode = .real)
  raiseIf (run.executionOwnerEpoch ≠ b.ownerEpoch) (.conflict
    "training_run_owner_epoch_conflict" "The Worker no longer owns this training run epoch.")
  if b.workerSeq = run.executionUpdateSeq then
    let view ← getRunIn db b.runRef
    return (view, db)
  else
    raiseIf (b.workerSeq < run.executionUpdateSeq) (.conflict "training_run_update_out_of_order"
      "The Worker update sequence is older than the stored sequence.")
    raiseIf (b.workerSeq ≠ run.executionUpdateSeq + 1) (.conflict "training_run_update_gap"
      "The Worker update sequence contains a gap."
      (some (.expectedWorkerSeq (run.executionUpdateSeq + 1))))
    let db ← forEach (applyUpdate now b.runRef) b.updates db
    let db := recordBatch now w b db
    let view ← getRunIn db b.runRef
    return (view, db)

end DataJuicer.Training

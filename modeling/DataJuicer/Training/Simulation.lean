import DataJuicer.Training.Updates

/-! # Simulated runs

The operations of the simulation worker: it claims a queued run, starts its stages, appends
their steps and finishes them. A run whose worker lost its lease is given up.
-/

namespace DataJuicer.Training

open Transaction

def simulationLeaseMs : ℕ := 10000

def markClaimed (now : Timestamp) (workerId : String) (leaseMs : ℕ) (run : RunRow)
    (db : Database) : Database :=
  { db with
    runs := db.runs.update (fun r => r.runRef = run.runRef) fun r =>
      { r with
        status := .preparing
        stateRevision := r.stateRevision + 1
        ownerId := some workerId
        ownerEpoch := r.ownerEpoch + 1
        leaseExpiresAt := some (now + leaseMs)
        heartbeatAt := some now
        updatedAt := now } }

/-- A claimed run gets its first stage ready. -/
def beginRun (now : Timestamp) (run : RunRow) (db : Database) : Database :=
  match nextPending? db run.runRef with
  | none => finishIn now run .failed (some "training_stages_missing")
      (some "The training workflow has no pending stage.") db
  | some stage => markPreparing now stage db

def claimNextRun (now : Timestamp) (workerId : String) (leaseMs : ℕ) (db : Database) :
    Except TrainingError (Option RunView × Database) :=
  match db.runs.rows.find? fun r => r.executionMode = .simulation ∧ r.status = .queued with
  | none => .ok (none, db)
  | some run => do
    let db := beginRun now run (markClaimed now workerId leaseMs run db)
    let view ← getRunIn db run.runRef
    return (some view, db)

def ownedRun (db : Database) (runRef workerId : String) : Except TrainingError RunRow :=
  orRaise (.conflict "worker_lease_lost" "Worker no longer owns this run.")
    ((db.runs.find? runRef).filter fun r => r.ownerId = some workerId)

def withView (runRef : String) (db : Database) : Except TrainingError (RunView × Database) := do
  let view ← getRunIn db runRef
  return (view, db)

def cancelStopped (now : Timestamp) (run : RunRow) (db : Database) :
    Except TrainingError (RunView × Database) :=
  withView run.runRef (finishIn now run .cancelled none none db)

def startStage (now : Timestamp) (run : RunRow) (stage : StageRow) (db : Database) : Database :=
  let runs := db.runs.update (fun r => r.runRef = run.runRef)
    (fun r => { r with
      status := .running
      stateRevision := r.stateRevision + 1
      startedAt := r.startedAt.or (some now)
      updatedAt := now })
    fun r => Table.key_self r
  let stages := db.stages.update (fun s => s.stageRef = stage.stageRef)
    (fun s => { s with status := .running, startedAt := some now, updatedAt := now })
    fun s => Table.key_self s
  Database.log now run.runRef .info (stage.stageName ++ " simulation started.")
    (some stage.stageRef) { db with runs, stages }

def transitionRunning (now : Timestamp) (runRef workerId : String) (db : Database) :
    Except TrainingError (RunView × Database) := do
  let run ← ownedRun db runRef workerId
  if run.status = .stopRequested then cancelStopped now run db
  else
    raiseIf (¬ (run.status = .preparing ∨ run.status = .running))
      (.conflict "invalid_run_transition" "Run cannot enter running state.")
    let stage ← orRaise (.conflict "invalid_stage_transition" "No stage is ready to start.")
      (firstStage? ((stagesOf db run.runRef).filter fun s => s.status = .preparing))
    withView runRef (startStage now run stage db)

structure StepMetric where
  step : ℕ
  totalSteps : ℕ
  measurements : List (String × String)

/-- The sum of the steps of the stages that succeeded. -/
def completedSteps (db : Database) (runRef : String) : ℕ :=
  (((stagesOf db runRef).filter fun s => s.status = .succeeded).map (·.totalSteps)).sum

def recordStep (now : Timestamp) (run : RunRow) (stage : StageRow) (m : StepMetric)
    (message : String) (db : Database) : Database :=
  let seq := nextSeq ((db.metrics.select fun r => r.runRef = run.runRef).map (·.seq))
  let overall := min run.totalSteps (completedSteps db run.runRef + m.step)
  let metrics := db.metrics.insertOrIgnore
    ⟨run.runRef, seq, stage.stageRef, m.step, m.totalSteps, m.measurements, now⟩
  let stages := db.stages.update (fun s => s.stageRef = stage.stageRef) fun s =>
    { s with currentStep := m.step, updatedAt := now }
  let runs := db.runs.update (fun r => r.runRef = run.runRef) fun r =>
    { r with
      currentStep := overall
      heartbeatAt := some now
      leaseExpiresAt := some (now + simulationLeaseMs)
      updatedAt := now }
  Database.log now run.runRef .info message (some stage.stageRef) { db with metrics, stages, runs }

/-- The stage of the run that a worker names, or its first, with one of these statuses. -/
def activeStage? (db : Database) (runRef : String) (stageRef : Option String)
    (p : StageStatus → Prop) [DecidablePred p] : Option StageRow :=
  let stages := (stagesOf db runRef).filter fun s => p s.status
  match stageRef with
  | none => firstStage? stages
  | some ref => stages.find? fun s => s.stageRef = ref

def appendStep (now : Timestamp) (runRef workerId : String) (m : StepMetric) (message : String)
    (stageRef : Option String) (db : Database) :
    Except TrainingError (RunView × Database) := do
  let run ← ownedRun db runRef workerId
  if run.status = .stopRequested then cancelStopped now run db
  else if run.status ≠ .running then withView runRef db
  else
    let stage ← orRaise (.conflict "worker_stage_lease_lost"
        "Worker no longer owns this stage.") (activeStage? db runRef stageRef (· = .running))
    withView runRef (recordStep now run stage m message db)

/-- The arguments of `finish_stage`. -/
structure StageFinish where
  stageRef : Option String
  status : FinishStatus
  failureCode : Option String
  failureMessage : Option String
  artifactRef : String
  versionArtifactRef : String

/-- A simulated stage ends without success. -/
def failStage (now : Timestamp) (run : RunRow) (stage : StageRow) (q : StageFinish)
    (db : Database) : Database :=
  finishIn now run q.status q.failureCode q.failureMessage
    (closeStage now stage q.status q.failureCode q.failureMessage db)

def renewRun (now : Timestamp) (run : RunRow) (completed : ℕ) (db : Database) : Database :=
  { db with
    runs := db.runs.update (fun r => r.runRef = run.runRef) fun r =>
      { r with
        currentStep := completed
        stateRevision := r.stateRevision + 1
        heartbeatAt := some now
        leaseExpiresAt := some (now + simulationLeaseMs)
        updatedAt := now } }

def prepareNext (now : Timestamp) (run : RunRow) (next : StageRow) (db : Database) : Database :=
  renewRun now run (completedSteps db run.runRef) (markPreparing now next db)

def completeStage (now : Timestamp) (run : RunRow) (stage : StageRow) (q : StageFinish)
    (db : Database) : Except TrainingError Database := do
  let db ← succeedStage now q.artifactRef true run stage db
  let next := nextPending? db run.runRef
  let db := db.log now run.runRef .info (stage.stageName ++ " simulation succeeded.")
    (some stage.stageRef)
  match next with
  | some next => return prepareNext now run next db
  | none =>
    let db ← insertArtifact ⟨q.versionArtifactRef, run.runRef, stage.stageRef, .versionModel,
      stage.outputDirectory, true, now⟩ db
    return finishIn now run .succeeded none none db

/-- `finish_stage`, and `finish_run` when no stage is named. -/
def finishStage (now : Timestamp) (runRef workerId : String) (q : StageFinish) (db : Database) :
    Except TrainingError (RunView × Database) := do
  let run ← ownedRun db runRef workerId
  if run.status = .stopRequested then cancelStopped now run db
  else
    let stage ← orRaise (.conflict "invalid_stage_transition" "The stage is no longer active.")
      (activeStage? db runRef q.stageRef StageStatus.Active)
    if q.status ≠ .succeeded then withView runRef (failStage now run stage q db)
    else
      let db ← completeStage now run stage q db
      withView runRef db

/-- A started simulated run whose lease is over. -/
def RunRow.Stale (now : Timestamp) (r : RunRow) : Prop :=
  r.executionMode = .simulation ∧
    (r.status = .preparing ∨ r.status = .running ∨ r.status = .stopRequested) ∧
    ∃ t ∈ r.leaseExpiresAt, t < now

instance (now : Timestamp) : DecidablePred (RunRow.Stale now) := fun r => by
  unfold RunRow.Stale
  infer_instance

def recoverStaleRuns (now : Timestamp) (db : Database) : ℕ × Database :=
  let rows := db.runs.select (RunRow.Stale now)
  (rows.length, rows.foldl (fun db run =>
    finishIn now run .lost (some "worker_lease_expired")
      (some "The simulation worker lease expired.") db) db)

end DataJuicer.Training

import DataJuicer.Annotation.Statements
import Mathlib.Data.List.MinMax

/-! # Runtime runs and the lease of the annotation writer

One worker at a time claims a queued run and holds the lease `annotation_writer` while it
executes it. A claim first fails the running runs whose lease is lost, each with a quarantine
marker next to the writer lock. `fail_run` ends a run with its failure, and the steps of a run
are its evidence.
-/

namespace DataJuicer.Annotation

open Transaction

def safeRuntimeStepCodes : List String :=
  ["processing_calibration_snapshot", "assemble_finish_temp", "preprocess_create_box",
    "preprocess_odom_convert", "preprocess_resize", "metadata_generate", "map_publish",
    "video_prepare", "initial_annotation", "tracking", "postprocess_input_snapshot",
    "postprocess_metadata", "postprocess_gridmap", "postprocess_projection",
    "postprocess_world_coordinates", "postprocess_speed_direction",
    "postprocess_gridmap_transform", "postprocess_trajectory", "postprocess_final_candidate",
    "postprocess_validate_outputs", "compatibility_publish", "fix_initialize", "fix_apply",
    "fix_candidate", "fix_compatibility_publish"]

inductive DiagnosticKind
  | nonzeroExit
  | timeout
  | cancelled
  | error
  deriving DecidableEq

def stepsOf (db : Database) (runRef : String) : List StepRow :=
  db.steps.select fun s => s.runRef = runRef

/-- `COALESCE(MAX(ordinal), 0) + 1` -/
def nextOrdinal (db : Database) (runRef : String) : ℕ :=
  ((stepsOf db runRef).map StepRow.ordinal).foldr max 0 + 1

def insertStep (step : StepRow) (db : Database) : Except AnnotationError Database := do
  let steps ← orRaise (.integrity "runtime_run_steps.run_id") (db.steps.insert? step)
  return { db with steps }

def startedStep (now : Timestamp) (db : Database) (runRef safeStepCode : String) : StepRow where
  runRef := runRef
  ordinal := nextOrdinal db runRef
  safeStepCode := safeStepCode
  status := .started
  artifactSha256 := none
  returnCode := none
  diagnosticRef := none
  createdAt := now
  updatedAt := now

def unsafeStepCode : AnnotationError := .runtime "runtime step code is not public-safe"

def startRuntimeStep (now : Timestamp) (runRef safeStepCode : String) (db : Database) :
    Except AnnotationError Database := do
  raiseIf (safeStepCode ∉ safeRuntimeStepCodes) unsafeStepCode
  let _ ← runningRun db.toWorkflow runRef
  raiseIf (∃ s ∈ db.steps, s.runRef = runRef ∧ s.safeStepCode = safeStepCode)
    (.runtime "runtime semantic step was already recorded")
  insertStep (startedStep now db runRef safeStepCode) db

/-- Whether the fence was recorded, or the cancellation was requested before. -/
def beginPostprocessingPublication (now : Timestamp) (runRef : String) (db : Database) :
    Except AnnotationError (Bool × Database) := do
  let run ← runningRun db.toWorkflow runRef
  raiseIf (run.kind ≠ .postprocessing)
    (.runtime "publication fence belongs to a different run kind")
  let job ← jobRow db.toWorkflow run.jobRef
  raiseIf (job.status ≠ .postprocessing)
    (.runtime "publication fence requires an active postprocessing job")
  if job.cancelRequested then return (false, db)
  else do
    raiseIf (PublicationFence db runRef)
      (.runtime "postprocessing publication fence was already recorded")
    let db ← insertStep (startedStep now db runRef "compatibility_publish") db
    return (true, db)

/-- The end of a step, as the runtime reports it. -/
inductive StepResult
  | succeeded (returnCode : Option ℤ)
  | failed (returnCode : Option ℤ) (kind : Option DiagnosticKind)

/-- The checks of `finish_runtime_step` on its arguments. -/
def validateStepResult : StepResult → Except AnnotationError Unit
  | .succeeded returnCode =>
    raiseIf (returnCode ≠ some 0)
      (.runtime "successful runtime step must record return code zero")
  | .failed returnCode kind => do
    raiseIf (kind = none) (.runtime "failed runtime step requires a safe diagnostic kind")
    raiseIf (kind = some .nonzeroExit ∧ (returnCode = none ∨ returnCode = some 0))
      (.runtime "nonzero runtime failure requires its actual return code")

def StepResult.apply (now : Timestamp) (diagnosticRef : String) (s : StepRow) : StepResult → StepRow
  | .succeeded returnCode =>
    { s with status := .succeeded, returnCode, diagnosticRef := none, updatedAt := now }
  | .failed returnCode _ =>
    { s with status := .failed, returnCode, diagnosticRef := some diagnosticRef, updatedAt := now }

theorem StepResult.key_apply (now : Timestamp) (ref : String) (s : StepRow) (r : StepResult) :
    key (r.apply now ref s) = key s := by
  cases r <;> rfl

def finishRuntimeStep (now : Timestamp) (runRef safeStepCode : String) (result : StepResult)
    (diagnosticRef : String) (db : Database) : Except AnnotationError Database := do
  raiseIf (safeStepCode ∉ safeRuntimeStepCodes) unsafeStepCode
  validateStepResult result
  let _ ← runningRun db.toWorkflow runRef
  let row ← orRaise (.runtime "runtime semantic step is not active")
    ((db.steps.select fun s => s.runRef = runRef ∧ s.safeStepCode = safeStepCode).head?.filter
      fun s => s.status = .started)
  let steps := db.steps.update (fun s => key s = key row) (result.apply now diagnosticRef ·)
    fun s => result.key_apply now diagnosticRef s
  return { db with steps }

def failActiveRuntimeStep (now : Timestamp) (runRef : String) (returnCode : Option ℤ)
    (kind : DiagnosticKind) (diagnosticRef : String) (db : Database) :
    Except AnnotationError Database := do
  raiseIf (kind = .nonzeroExit ∧ (returnCode = none ∨ returnCode = some 0))
    (.runtime "nonzero runtime failure requires its actual return code")
  let _ ← orRaise runNotFound (db.runs.find? runRef)
  match ((stepsOf db runRef).filter fun s => s.status = .started).argmax StepRow.ordinal with
  | none => return db
  | some row => return { db with steps := db.steps.update (fun s => key s = key row) fun s =>
      { s with
        status := .failed
        returnCode
        diagnosticRef := some diagnosticRef
        updatedAt := now } }

def requireRuntimeStepLedger (db : Database) (runRef : String)
    (declaredSteps : Option (List String)) : Except AnnotationError Unit := do
  let rows := stepsOf db runRef
  raiseIf (rows = []) (.runtime "runtime step ledger is empty")
  raiseIf (∃ s ∈ rows, s.status ≠ .succeeded)
    (.runtime "runtime step ledger is not fully committed")
  raiseIf (∃ s ∈ rows, s.diagnosticRef ≠ none)
    (.runtime "successful runtime step has a diagnostic reference")
  let semantic := rows.filter fun s => s.safeStepCode ≠ "tracking_target_completed"
  raiseIf (∃ s ∈ semantic, s.safeStepCode ∉ safeRuntimeStepCodes)
    (.runtime "runtime step ledger contains an unsafe step")
  raiseIf (∃ s ∈ semantic, s.returnCode ≠ some 0)
    (.runtime "runtime step ledger lacks a successful return code")
  let declared ← orRaise (.runtime "runtime manifest lacks declared command steps") declaredSteps
  raiseIf (semantic.map StepRow.safeStepCode ≠ declared)
    (.runtime "runtime manifest and committed step ledger differ")

/-- The arguments of `fail_run`. -/
structure RunFailure where
  runRef : String
  code : String
  message : String
  retryable : Bool
  privateDetail : Option String

structure FailureRefs where
  failureRef : String
  diagnosticRef : String
  handoffRef : String

namespace Workflow

/-- What `fail_run` writes to the row of its run. -/
def failRunRow (now : Timestamp) (q : RunFailure) (failureRef : String) (w : Workflow) :
    Workflow :=
  { w with runs := w.runs.update (fun r => r.runRef = q.runRef) fun r =>
      { r with
        status := .failed
        failureCode := some q.code
        failureMessage := some q.message
        failureRef := some failureRef
        privateFailureDetail := q.privateDetail
        finishedAt := some now
        updatedAt := now } }

/-- What `fail_run` writes to the row of its run's job. -/
def failJob (now : Timestamp) (q : RunFailure) (failureRef jobRef : String) (w : Workflow) :
    Workflow :=
  w.setJob now jobRef fun j =>
    { j with
      status := .failed
      failureCode := some q.code
      failureMessage := some q.message
      failureRef := some failureRef
      privateFailureDetail := q.privateDetail
      failureRetryable := q.retryable }

def setPublication (publicationRef : String) (w : Workflow) (f : PublicationRow → PublicationRow)
    (hf : ∀ p, (f p).publicationRef = p.publicationRef := by exact fun _ => rfl) : Workflow :=
  { w with publications := w.publications.update (fun p => p.publicationRef = publicationRef) f hf }

end Workflow

/-- `UPDATE trajectory_review_tasks … WHERE id = ?`; the revision is one more. -/
def Database.setReview (now : Timestamp) (reviewRef : String) (db : Database)
    (f : ReviewRow → ReviewRow)
    (hf : ∀ r, (f r).reviewRef = r.reviewRef := by exact fun _ => rfl) : Database :=
  { db with reviews := db.reviews.update (fun r => r.reviewRef = reviewRef) (fun r =>
      { f r with stateRevision := r.stateRevision + 1, updatedAt := now }) hf }

def closeStartedSteps (now : Timestamp) (runRef diagnosticRef : String) (db : Database) :
    Table StepRow :=
  db.steps.update (fun s => s.runRef = runRef ∧ s.status = .started) fun s =>
    { s with status := .failed, diagnosticRef := some diagnosticRef, updatedAt := now }

/-- The failure of a `compatibility_publish` run. -/
def failPublication (now : Timestamp) (q : RunFailure) (failureRef : String) (db : Database) :
    Except AnnotationError Database := do
  let link ← orRaise (.runtime "failed compatibility publication lacks its binding")
    (db.publicationLinks.find? q.runRef)
  let publication ← orRaise (.runtime "failed compatibility publication lacks its binding")
    (db.publications.find? link.publicationRef)
  raiseIf (publication.status ≠ .running)
    (.runtime "failed compatibility publication is not running")
  let w := (db.toWorkflow.failRunRow now q failureRef).setPublication link.publicationRef fun p =>
    { p with status := .failed, failureCode := some q.code, failureRef := some failureRef }
  let Approved (r : ReviewRow) : Prop := r.reviewRef = link.reviewRef ∧ r.status = .approved
  return { db with
    toWorkflow := w.dropRuntimeLease q.runRef
    reviews := db.reviews.update Approved fun r =>
      { r with stateRevision := r.stateRevision + 1, updatedAt := now } }

def failFix (now : Timestamp) (q : RunFailure) (failureRef : String) (db : Database) :
    Except AnnotationError Database := do
  let link ← orRaise (.runtime "failed Fix run lacks its review binding")
    (db.fixLinks.find? q.runRef)
  let db := { db with
    toWorkflow := (db.toWorkflow.failRunRow now q failureRef).dropRuntimeLease q.runRef }
  return db.setReview now link.reviewRef fun r =>
    { r with
      fixFailureCode := some q.code
      fixFailureMessage := some q.message
      fixFailureRef := some failureRef
      fixFailureRetryable := q.retryable }

def emitPostprocessingFailed (now : Timestamp) (q : RunFailure) (refs : FailureRefs)
    (run : RunRow) (db : Database) : Except AnnotationError Database :=
  if run.status = .running then do
    raiseIf (UnsafeText run.jobRef ∨ UnsafeText q.code ∨ UnsafeText refs.failureRef)
      unsafeHandoffPayload
    insertHandoff
      ⟨refs.handoffRef, run.jobRef, none, .postprocessingFailed,
        .failure run.jobRef q.code refs.failureRef q.retryable, now⟩ db
  else return db

def failJobRun (now : Timestamp) (q : RunFailure) (refs : FailureRefs) (run : RunRow)
    (job : JobRow) (db : Database) : Except AnnotationError Database := do
  let w := db.toWorkflow.failRunRow now q refs.failureRef
  let db ←
    if job.status = .cancelled then pure { db with toWorkflow := w }
    else if run.kind = .postprocessing then
      emitPostprocessingFailed now q refs run { db with
        toWorkflow := (w.failJob now q refs.failureRef run.jobRef).moveSegments now run.jobRef
          (· = .postprocessing) .postprocessingFailed }
    else pure { db with toWorkflow := w.failJob now q refs.failureRef run.jobRef }
  return { db with toWorkflow := db.toWorkflow.dropRuntimeLease q.runRef }

def failRunConn (now : Timestamp) (q : RunFailure) (refs : FailureRefs) (db : Database) :
    Except AnnotationError Database := do
  let run ← orRaise runNotFound (db.runs.find? q.runRef)
  let job ← jobRow db.toWorkflow run.jobRef
  if q.code ≠ recoveryRequired ∧ run.status = .running ∧ job.cancelRequested then
    return { db with
      steps := closeStartedSteps now q.runRef refs.diagnosticRef db
      toWorkflow := (db.toWorkflow.finishRun now q.runRef .cancelled).finalizeCancelledJob now
        run.jobRef "cancelled_by_user" }
  else if run.status = .failed ∧ run.failureCode = some recoveryRequired then
    -- The authoritative fail-closed decision is kept.
    return db
  else
    match run.kind with
    | .compatibilityPublish => failPublication now q refs.failureRef db
    | .fix => failFix now q refs.failureRef db
    | _ => failJobRun now q refs run job db

def failRun (now : Timestamp) (q : RunFailure) (refs : FailureRefs) (db : Database) :
    Except AnnotationError Database :=
  failRunConn now q refs db

/-- The marker of the writer that holds the lock. -/
def activeMarkerName : String := ".active"

def quarantineMarkerName (recoveryRef : String) : String := ".quarantine." ++ recoveryRef

/-- `ensure_navigation_writer_quarantine` -/
def ensureQuarantine (recoveryRef token : String) (markers : List Marker) : List Marker :=
  if ∃ m ∈ markers, m.name = quarantineMarkerName recoveryRef then markers
  else markers ++ [⟨quarantineMarkerName recoveryRef, token⟩]

/-- The database and the marker files beside the writer lock. -/
structure Store where
  db : Database
  markers : List Marker

/-- The lease of a run, as a worker of this epoch sees it at this time, is lost. -/
def LeaseLost (now : Timestamp) (epoch : Option String) (w : Workflow) (runRef : String) : Prop :=
  (∀ l ∈ w.runtimeLeases, l.runRef ≠ runRef) ∨
    ∃ l ∈ w.runtimeLeases, l.runRef = runRef ∧
      (l.expiresAt ≤ now ∨ (epoch ≠ none ∧ l.ownerEpoch ≠ none ∧ l.ownerEpoch ≠ epoch))

instance (now : Timestamp) (epoch : Option String) (w : Workflow) :
    DecidablePred (LeaseLost now epoch w) := fun _ => by
  unfold LeaseLost
  infer_instance

/-- The running runs whose lease is lost. -/
def interruptedRuns (now : Timestamp) (epoch : Option String) (w : Workflow) : List RunRow :=
  w.runs.select fun r => r.status = .running ∧ LeaseLost now epoch w r.runRef

/-- The references and the marker tokens that a recovery draws for a run. -/
structure RecoveryRefs where
  refs : String → FailureRefs
  token : String → String

def RecoveryRefs.failureRef (d : RecoveryRefs) (runRef : String) : String :=
  (d.refs runRef).failureRef

def interruption (runRef : String) : RunFailure where
  runRef := runRef
  code := recoveryRequired
  message := recoveryMessage
  retryable := false
  privateDetail := some
    ("The Web process restarted while a runtime run was marked running. " ++
      "No success was inferred from filesystem state.")

def quarantineAll (d : RecoveryRefs) (rows : List RunRow) (markers : List Marker) : List Marker :=
  rows.foldl (fun ms r => ensureQuarantine (d.failureRef r.runRef) (d.token r.runRef) ms) markers

/-- The second loop of `_recover_interrupted_runs_conn`. -/
def failAll (now : Timestamp) (d : RecoveryRefs) : List RunRow → Database →
    Except AnnotationError Database
  | [], db => .ok db
  | r :: rest, db => do
    let db ← failRunConn now (interruption r.runRef) (d.refs r.runRef) db
    failAll now d rest db

def writerLockUnconfigured : AnnotationError :=
  .writerLock "VLA_NAVIGATION_WRITER_LOCK_PATH must be configured explicitly"

/-- `_recover_interrupted_runs_conn` for a nonempty list of runs, with its commit. The markers
are created before the rows are changed and stay when the transaction is rolled back. -/
def recoverRuns (now : Timestamp) (coordinated : Bool) (d : RecoveryRefs) (rows : List RunRow)
    (s : Store) : Except AnnotationError ℕ × Store :=
  if coordinated then
    let markers := quarantineAll d rows s.markers
    match failAll now d rows s.db with
    | .ok db => (.ok rows.length, ⟨db, markers⟩)
    | .error e => (.error e, ⟨s.db, markers⟩)
  else (.error writerLockUnconfigured, s)

def recoverInterruptedRuns (now : Timestamp) (epoch : Option String) (coordinated : Bool)
    (d : RecoveryRefs) (s : Store) : Except AnnotationError ℕ × Store :=
  match interruptedRuns now epoch s.db.toWorkflow with
  | [] => (.ok 0, s)
  | rows => recoverRuns now coordinated d rows s

/-- `_has_recovery_quarantine_conn` -/
def HasRecoveryQuarantine (w : Workflow) : Prop :=
  ∃ j ∈ w.jobs, j.status = .failed ∧ j.failureCode = some recoveryRequired

instance (w : Workflow) : Decidable (HasRecoveryQuarantine w) := by
  unfold HasRecoveryQuarantine
  infer_instance

def Startable (db : Database) (r : RunRow) (j : JobRow) : Prop :=
  match r.kind with
  | .prepare => j.status = .preparing
  | .tracking => j.status = .tracking
  | .postprocessing => j.status = .postprocessing
  | .fix => j.status = .annotated ∧ ∃ l ∈ db.fixLinks, l.runRef = r.runRef ∧
      ∃ t ∈ db.reviews, t.reviewRef = l.reviewRef ∧ t.status = .inProgress
  | .compatibilityPublish => j.status = .annotated ∧
      ∃ l ∈ db.publicationLinks, l.runRef = r.runRef ∧
        ∃ p ∈ db.publications, p.publicationRef = l.publicationRef ∧ p.status = .queued ∧
          ∃ t ∈ db.reviews, t.reviewRef = l.reviewRef ∧ t.status = .approved ∧
            t.approvedFixRevision = some p.fixRevisionRef

instance (db : Database) (r : RunRow) (j : JobRow) : Decidable (Startable db r j) := by
  unfold Startable
  split <;> infer_instance

def Claimable (db : Database) (r : RunRow) : Prop :=
  r.status = .queued ∧ ∃ j ∈ db.jobs, j.jobRef = r.jobRef ∧ Startable db r j

instance (db : Database) : DecidablePred (Claimable db) := fun _ => by
  unfold Claimable
  infer_instance

def nextClaimable? (db : Database) : Option RunRow :=
  (db.runs.select (Claimable db)).argmin RunRow.createdAt

/-- `_active_reserved_bytes_conn` -/
def activeReservedBytes (w : Workflow) (excluding : String) : ℕ :=
  ((w.jobs.select fun j => (j.status ≠ .cancelled ∨
      ∃ r ∈ w.runs, r.jobRef = j.jobRef ∧ r.status = .running) ∧ j.jobRef ≠ excluding).map
    JobRow.reservedBytes).sum

/-- What a worker gets to execute. -/
structure ClaimedRun where
  runRef : String
  kind : RunKind
  jobRef : String
  datasetDate : String
  sourceClips : List String
  stagingRoot : Option String
  calibration : CalibrationSnapshot
  attempt : ℕ
  activeReservedBytes : ℕ

structure Claim where
  workerId : String
  ownerEpoch : Option String
  coordinated : Bool
  leaseMs : ℕ

def writerLeaseKey : String := "annotation_writer"

def startPublication (now : Timestamp) (run : RunRow) (db : Database) :
    Except AnnotationError Database :=
  match run.kind with
  | .compatibilityPublish => do
    let link ← orRaise (.runtime "compatibility publication run lacks its binding")
      (db.publicationLinks.find? run.runRef)
    let w := db.toWorkflow.setPublication link.publicationRef fun p => { p with status := .running }
    return { db with toWorkflow := w }.setReview now link.reviewRef id
  | _ => return db

/-- `DELETE FROM runtime_leases WHERE expires_at <= ?` -/
def dropExpiredLeases (now : Timestamp) (db : Database) : Database :=
  { db with runtimeLeases := db.runtimeLeases.delete fun l => l.expiresAt ≤ now }

def claimRun (now : Timestamp) (c : Claim) (run : RunRow) (db : Database) :
    Except AnnotationError (Option ClaimedRun × Database) := do
  let job ← jobRow db.toWorkflow run.jobRef
  let runtimeLeases ← orRaise (.integrity "runtime_leases.lease_key")
    (db.runtimeLeases.insert?
      ⟨writerLeaseKey, run.runRef, c.workerId, now + c.leaseMs, now, c.ownerEpoch⟩)
  let runs := db.runs.update (fun r => r.runRef = run.runRef) fun r =>
    { r with
      status := .running
      workerId := some c.workerId
      startedAt := some now
      updatedAt := now }
  let db ← startPublication now run { db with runtimeLeases, runs }
  return (some
    { runRef := run.runRef
      kind := run.kind
      jobRef := run.jobRef
      datasetDate := job.datasetDate
      sourceClips := clipsOf db.toWorkflow run.jobRef
      stagingRoot := job.stagingRoot
      calibration := job.calibration
      attempt := run.attempt
      activeReservedBytes := activeReservedBytes db.toWorkflow run.jobRef }, db)

/-- `claim_next_run` when no run was interrupted and nothing is quarantined. -/
def claimQueued (now : Timestamp) (c : Claim) (db : Database) :
    Except AnnotationError (Option ClaimedRun × Database) :=
  let db := dropExpiredLeases now db
  match nextClaimable? db with
  | none => .ok (none, db)
  | some run =>
    if ∃ l ∈ db.runtimeLeases, l.leaseKey = writerLeaseKey then .ok (none, db)
    else claimRun now c run db

def claimNextRun (now : Timestamp) (c : Claim) (d : RecoveryRefs) (s : Store) :
    Except AnnotationError (Option ClaimedRun) × Store :=
  match interruptedRuns now c.ownerEpoch s.db.toWorkflow with
  | [] =>
    if HasRecoveryQuarantine s.db.toWorkflow ∨ (c.coordinated ∧ s.markers ≠ []) then (.ok none, s)
    else
      match claimQueued now c s.db with
      | .ok (claimed, db) => (.ok claimed, { s with db })
      | .error e => (.error e, s)
  | rows =>
    let (result, s) := recoverRuns now c.coordinated d rows s
    (result.map fun _ => none, s)

def renewRunLease (now : Timestamp) (runRef workerId : String) (leaseMs : ℕ) (db : Database) :
    Bool × Database :=
  let Mine (l : RuntimeLeaseRow) : Prop := l.runRef = runRef ∧ l.workerId = workerId
  (db.runtimeLeases.rowcount Mine = 1,
    { db with runtimeLeases := db.runtimeLeases.update Mine fun l =>
        { l with expiresAt := now + leaseMs } })

end DataJuicer.Annotation

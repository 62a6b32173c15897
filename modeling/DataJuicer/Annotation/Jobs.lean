import DataJuicer.Annotation.Statements

/-! # Annotation jobs

The mutations of a whole job: its creation, which takes the lease of each source clip, the
start of Tracking and of postprocessing, cancellation and retry.
-/

namespace DataJuicer.Annotation

open Transaction

def expectedJob (w : Workflow) (jobRef : String) (expectedJobRevision : ℕ) :
    Except AnnotationError JobRow := do
  let job ← jobRow w jobRef
  raiseIf (job.stateRevision ≠ expectedJobRevision) jobRevisionConflict
  return job

structure JobCreation where
  jobRef : String
  datasetDate : String
  sourceClips : List String
  calibration : CalibrationSnapshot
  reservedBytes : ℕ

def scopeConflict : AnnotationError :=
  .conflict "annotation_scope_conflict"
    "One or more selected clips already belong to an annotation job."

def ScopeTaken (w : Workflow) (datasetDate : String) (sourceClips : List String) : Prop :=
  ∃ l ∈ w.sourceLeases, l.datasetDate = datasetDate ∧ l.sourceClip ∈ sourceClips

instance (w : Workflow) (datasetDate : String) (sourceClips : List String) :
    Decidable (ScopeTaken w datasetDate sourceClips) := by
  unfold ScopeTaken
  infer_instance

/-- One round of the loop of `create_job`. -/
def insertClip (now : Timestamp) (c : JobCreation) (ordinal : ℕ) (clip : String) (w : Workflow) :
    Except AnnotationError Workflow := do
  let clips ← orRaise (.integrity "annotation_job_source_clips.job_id")
    (w.clips.insert? ⟨c.jobRef, ordinal, clip⟩)
  let sourceLeases ← orRaise (.integrity "annotation_source_leases.dataset_date")
    (w.sourceLeases.insert? ⟨c.datasetDate, clip, c.jobRef, now⟩)
  return { w with clips, sourceLeases }

def insertClips (now : Timestamp) (c : JobCreation) : ℕ → List String → Workflow →
    Except AnnotationError Workflow
  | _, [], w => .ok w
  | ordinal, clip :: rest, w => do
    let w ← insertClip now c ordinal clip w
    insertClips now c (ordinal + 1) rest w

def JobCreation.row (now : Timestamp) (c : JobCreation) : JobRow where
  jobRef := c.jobRef
  datasetDate := c.datasetDate
  status := .preparing
  completionOutcome := none
  stateRevision := 0
  reservedBytes := c.reservedBytes
  cancelRequested := false
  cancelRequestedAt := none
  calibration := c.calibration
  stagingRoot := none
  failureCode := none
  failureMessage := none
  failureRef := none
  privateFailureDetail := none
  failureRetryable := false
  createdAt := now
  updatedAt := now

/-- The callback of `create_job`. -/
def createJobIn (now : Timestamp) (c : JobCreation) (runRef : String) (db : Database) :
    Except AnnotationError (Reply × Database) := do
  raiseIf (ScopeTaken db.toWorkflow c.datasetDate c.sourceClips) scopeConflict
  let jobs ← orRaise (.integrity "annotation_jobs.job_ref") (db.jobs.insert? (c.row now))
  let w ← insertClips now c 1 c.sourceClips { db.toWorkflow with jobs }
  let w ← w.enqueueRun now c.jobRef runRef .prepare
  let db := { db with toWorkflow := w }
  return (.job (← jobProjection db c.jobRef), db)

def createJob (now : Timestamp) (c : JobCreation) (runRef idempotencyKey : String)
    (db : Database) : Except AnnotationError (Reply × Database) :=
  mutate now idempotencyKey (.createJob c.datasetDate c.sourceClips c.calibration.profileRef
    c.calibration.contentSha256) .manualWeb (createJobIn now c runRef) db

structure JobRequest where
  jobRef : String
  expectedJobRevision : ℕ

def segmentsNotResolved : AnnotationError :=
  .conflict "segments_not_resolved"
    "Every segment must be submitted or skipped before Tracking starts."

def noProcessableSegments : AnnotationError :=
  .conflict "no_processable_segments"
    "Use the no-processable-targets action when every segment is skipped."

/-- `SELECT status FROM annotation_segments WHERE job_id = ?` -/
def Workflow.statuses (w : Workflow) (jobRef : String) : List SegmentStatus :=
  (w.segments.select fun s => s.jobRef = jobRef).map SegmentRow.status

/-- The callback of `start_tracking`. -/
def startTrackingIn (now : Timestamp) (q : JobRequest) (runRef : String) (db : Database) :
    Except AnnotationError (Reply × Database) := do
  let job ← expectedJob db.toWorkflow q.jobRef q.expectedJobRevision
  raiseIf (job.status ≠ JobStatus.waitingInitialAnnotation) invalidJobAction
  let statuses := db.toWorkflow.statuses q.jobRef
  raiseIf (statuses = [] ∨ ∃ s ∈ statuses, s ≠ .submitted ∧ s ≠ .skipped) segmentsNotResolved
  raiseIf (∀ s ∈ statuses, s = .skipped) noProcessableSegments
  let w := (db.toWorkflow.setJob now q.jobRef fun j => { j with status := .tracking }).moveSegments
    now q.jobRef (· = .submitted) .tracking
  let w ← w.enqueueRun now q.jobRef runRef .tracking
  let db := { db with toWorkflow := w }
  return (.job (← jobProjection db q.jobRef), db)

def startTracking (now : Timestamp) (q : JobRequest) (runRef idempotencyKey : String)
    (db : Database) : Except AnnotationError (Reply × Database) :=
  mutate now idempotencyKey (.jobAction .startTracking q.jobRef q.expectedJobRevision) .manualWeb
    (startTrackingIn now q runRef) db

def processableSegmentsRemain : AnnotationError :=
  .conflict "processable_segments_remain"
    "Every segment must be skipped before completing this way."

/-- The callback of `complete_no_processable_targets`. -/
def completeNoProcessableTargetsIn (now : Timestamp) (q : JobRequest) (db : Database) :
    Except AnnotationError (Reply × Database) := do
  let job ← expectedJob db.toWorkflow q.jobRef q.expectedJobRevision
  raiseIf (job.status ≠ JobStatus.waitingInitialAnnotation) invalidJobAction
  let statuses := db.toWorkflow.statuses q.jobRef
  raiseIf (statuses = [] ∨ ∃ s ∈ statuses, s ≠ .skipped) processableSegmentsRemain
  let db ← cancelJobIn now q.jobRef "no_processable_targets" false db
  return (.job (← jobProjection db q.jobRef), db)

def completeNoProcessableTargets (now : Timestamp) (q : JobRequest) (idempotencyKey : String)
    (db : Database) : Except AnnotationError (Reply × Database) :=
  mutate now idempotencyKey
    (.jobAction .completeNoProcessableTargets q.jobRef q.expectedJobRevision) .manualWeb
    (completeNoProcessableTargetsIn now q) db

def recoveryConfirmationRequired : AnnotationError :=
  .conflict "recovery_confirmation_required"
    ("The failed Runtime scope remains quarantined until an operator confirms that the old " ++
      "process group is absent.")

/-- The job failed in a way that only an operator resolves. -/
def JobRow.Quarantined (j : JobRow) : Prop :=
  j.status = .failed ∧ j.failureCode = some recoveryRequired

instance : DecidablePred JobRow.Quarantined := fun _ => inferInstanceAs (Decidable (_ ∧ _))

/-- The callback of `cancel_job`. -/
def cancelJobRequestIn (now : Timestamp) (q : JobRequest) (db : Database) :
    Except AnnotationError (Reply × Database) := do
  let job ← expectedJob db.toWorkflow q.jobRef q.expectedJobRevision
  raiseIf (job.status = .tracked ∨ job.status = .annotated ∨ job.status = .cancelled)
    invalidJobAction
  raiseIf job.Quarantined recoveryConfirmationRequired
  let db ← cancelJobIn now q.jobRef "cancelled_by_user" true db
  return (.job (← jobProjection db q.jobRef), db)

def cancelJob (now : Timestamp) (q : JobRequest) (idempotencyKey : String) (db : Database) :
    Except AnnotationError (Reply × Database) :=
  mutate now idempotencyKey (.jobAction .cancelJob q.jobRef q.expectedJobRevision) .manualWeb
    (cancelJobRequestIn now q) db

def RunKind.resumed : RunKind → JobStatus
  | .tracking => .tracking
  | .postprocessing => .postprocessing
  | _ => .preparing

/-- The segments that a new run of this kind takes up again. -/
def Workflow.resumeSegments (now : Timestamp) (jobRef : String) (w : Workflow) :
    RunKind → Workflow
  | .tracking => w.moveSegments now jobRef (fun s => s = .submitted ∨ s = .tracking) .tracking
  | .postprocessing =>
    w.moveSegments now jobRef
      (fun s => s = .tracked ∨ s = .postprocessing ∨ s = .postprocessingFailed) .postprocessing
  | _ => w

def Workflow.lastKind (w : Workflow) (jobRef : String) : RunKind :=
  ((w.lastRun? jobRef).map RunRow.kind).getD .prepare

/-- What `retry_job` and a confirmed recovery write: the job takes up its last run again. -/
def Workflow.restart (now : Timestamp) (jobRef runRef : String) (w : Workflow) :
    Except AnnotationError Workflow :=
  let kind := w.lastKind jobRef
  ((w.setJob now jobRef fun j =>
    { j with
      status := kind.resumed
      failureCode := none
      failureMessage := none
      failureRef := none
      privateFailureDetail := none
      failureRetryable := false
      cancelRequested := false
      cancelRequestedAt := none }).resumeSegments now jobRef kind).enqueueRun now jobRef runRef kind

/-- The callback of `retry_job`. -/
def retryJobIn (now : Timestamp) (q : JobRequest) (runRef : String) (db : Database) :
    Except AnnotationError (Reply × Database) := do
  let job ← expectedJob db.toWorkflow q.jobRef q.expectedJobRevision
  raiseIf (job.status ≠ .failed ∨ job.failureRetryable = false) invalidJobAction
  let w ← db.toWorkflow.restart now q.jobRef runRef
  let db := { db with toWorkflow := w }
  return (.job (← jobProjection db q.jobRef), db)

def retryJob (now : Timestamp) (q : JobRequest) (runRef idempotencyKey : String)
    (db : Database) : Except AnnotationError (Reply × Database) :=
  mutate now idempotencyKey (.jobAction .retryJob q.jobRef q.expectedJobRevision) .manualWeb
    (retryJobIn now q runRef) db

structure PostprocessingRequest where
  jobRef : String
  expectedJobRevision : ℕ
  spec : PostprocessingSpec
  processingNavigationTaskRef : Option String
  actorKind : ActorKind

def postprocessingInputsNotReady : AnnotationError :=
  .conflict "postprocessing_inputs_not_ready"
    "The tracked annotation inputs are not ready for postprocessing."

def invalidPostprocessingSpec : AnnotationError :=
  .validation "invalid_postprocessing_spec" "The postprocessing decision is inconsistent."

def LocalizationKind.variant : LocalizationKind → String
  | .odom => "cjl_0525_with_gridmap"
  | .ins => "cjl_with_gridmap"

def processingLink? (db : Database) (jobRef taskRef : String) : Option TaskLinkRow :=
  (db.taskLinks.select fun l => l.jobRef = jobRef ∧ l.navigationTaskRef = taskRef ∧
    l.linkKind = .processing).head?

def requireAuthority (db : Database) (jobRef : String) :
    Option String → Except AnnotationError Unit
  | none => .ok ()
  | some taskRef => do
    let link ← orRaise (.validation "invalid_navigation_task_binding"
      "The postprocessing attempt is not linked to this workflow.")
      (processingLink? db jobRef taskRef)
    raiseIf ((db.authorities.find? jobRef).map AuthorityRow.linkRef ≠ some link.linkRef)
      (.conflict "annotation_processing_attempt_superseded"
        "This processing attempt is no longer authoritative.")

/-- The callback of `begin_postprocessing`. -/
def beginPostprocessingIn (now : Timestamp) (q : PostprocessingRequest) (specRef runRef : String)
    (db : Database) : Except AnnotationError (Reply × Database) := do
  let job ← expectedJob db.toWorkflow q.jobRef q.expectedJobRevision
  raiseIf (job.status ≠ .tracked) invalidJobAction
  let statuses := db.toWorkflow.statuses q.jobRef
  raiseIf ((∀ s ∈ statuses, s ≠ .tracked) ∨ ∃ s ∈ statuses, s ≠ .tracked ∧ s ≠ .skipped)
    postprocessingInputsNotReady
  raiseIf (q.spec.trajectoryVariant ≠ q.spec.localizationKind.variant) invalidPostprocessingSpec
  requireAuthority db q.jobRef q.processingNavigationTaskRef
  let specs ← orRaise (.integrity "postprocessing_specs.job_id")
    (db.specs.insert? ⟨q.jobRef, specRef, q.spec, now⟩)
  let w := (db.toWorkflow.moveSegments now q.jobRef (· = .tracked) .postprocessing).setJob now
    q.jobRef fun j => { j with status := .postprocessing }
  let w ← w.enqueueRun now q.jobRef runRef .postprocessing
  let db := { db with toWorkflow := w, specs }
  return (.job (← jobProjection db q.jobRef), db)

def beginPostprocessing (now : Timestamp) (q : PostprocessingRequest)
    (specRef runRef idempotencyKey : String) (db : Database) :
    Except AnnotationError (Reply × Database) :=
  mutate now idempotencyKey (.beginPostprocessing q.jobRef q.expectedJobRevision q.spec
    q.processingNavigationTaskRef) q.actorKind (beginPostprocessingIn now q specRef runRef) db

end DataJuicer.Annotation

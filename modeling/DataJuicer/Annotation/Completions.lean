import DataJuicer.Annotation.Jobs
import DataJuicer.Annotation.Runs

/-! # The completion of runtime runs

A worker commits the result of its run and closes the run in one transaction. A run whose job
is to be cancelled closes it as cancelled instead.
-/

namespace DataJuicer.Annotation

open Transaction

/-- The job is cancelled, or its cancellation was requested while the run was executing. -/
def JobRow.Cancelling (j : JobRow) : Prop := j.status = .cancelled ∨ j.cancelRequested

instance : DecidablePred JobRow.Cancelling := fun _ => inferInstanceAs (Decidable (_ ∨ _))

def Workflow.closeCancelled (now : Timestamp) (runRef jobRef : String) (w : Workflow) : Workflow :=
  (w.finishRun now runRef .cancelled).finalizeCancelledJob now jobRef "cancelled_by_user"

structure PreparedSegment where
  sourceClip : String
  privateSegmentKey : String
  width : ℤ
  height : ℤ

structure PrepareResult where
  runRef : String
  stagingRoot : String
  segments : List PreparedSegment
  commandSteps : Option (List String)

def noSegmentsPrepared (runRef : String) : RunFailure where
  runRef := runRef
  code := "no_segments_prepared"
  message := "No processable segments were prepared."
  retryable := false
  privateDetail := none

def invalidPreparation (runRef : String) : RunFailure where
  runRef := runRef
  code := "invalid_preparation_result"
  message := "The runtime returned an invalid prepared segment set."
  retryable := false
  privateDetail := some
    "Prepared segments contained an unselected source clip or duplicate private segment key."

def PreparedSegment.row (now : Timestamp) (jobRef segmentRef : String) (ordinal : ℕ)
    (s : PreparedSegment) : SegmentRow where
  segmentRef := segmentRef
  jobRef := jobRef
  ordinal := ordinal
  sourceClip := s.sourceClip
  status := SegmentStatus.pendingInitialAnnotation
  stateRevision := 0
  draftRevision := 0
  submittedRevision := none
  privateSegmentKey := s.privateSegmentKey
  firstFrameWidth := s.width
  firstFrameHeight := s.height
  skipReasonCode := none
  skipNote := none
  skipRestoreStatus := none
  skipRestoreSubmittedRevision := none
  createdAt := now
  updatedAt := now

/-- `INSERT INTO annotation_segments`, with its unique constraints. -/
def insertSegment (row : SegmentRow) (segments : Table SegmentRow) :
    Except AnnotationError (Table SegmentRow) := do
  raiseIf (∃ s ∈ segments, s.jobRef = row.jobRef ∧
      (s.ordinal = row.ordinal ∨ s.privateSegmentKey = row.privateSegmentKey))
    (.integrity "annotation_segments.job_id")
  orRaise (.integrity "annotation_segments.segment_ref") (segments.insert? row)

def insertSegments (now : Timestamp) (jobRef : String) (segmentRef : ℕ → String) :
    ℕ → List PreparedSegment → Table SegmentRow → Except AnnotationError (Table SegmentRow)
  | _, [], segments => .ok segments
  | ordinal, s :: rest, segments => do
    let segments ← insertSegment (s.row now jobRef (segmentRef ordinal) ordinal) segments
    insertSegments now jobRef segmentRef (ordinal + 1) rest segments

def InvalidPreparation (w : Workflow) (jobRef : String) (segments : List PreparedSegment) : Prop :=
  (∃ s ∈ segments, s.sourceClip ∉ clipsOf w jobRef) ∨
    ¬ (segments.map PreparedSegment.privateSegmentKey).Nodup

instance (w : Workflow) (jobRef : String) (segments : List PreparedSegment) :
    Decidable (InvalidPreparation w jobRef segments) := inferInstanceAs (Decidable (_ ∨ _))

/-- The references that `complete_prepare` draws. -/
structure PrepareRefs where
  segmentRef : ℕ → String
  handoffRef : String
  failure : FailureRefs

def commitPrepare (now : Timestamp) (q : PrepareResult) (refs : PrepareRefs) (run : RunRow)
    (db : Database) : Except AnnotationError Database := do
  let segments ← insertSegments now run.jobRef refs.segmentRef 1 q.segments db.segments
  let w := { db.toWorkflow with segments }.setJob now run.jobRef fun j =>
    { j with status := JobStatus.waitingInitialAnnotation, stagingRoot := some q.stagingRoot }
  let db ← insertHandoff
    ⟨refs.handoffRef, run.jobRef, none, .initialAnnotationReady,
      .segmentCount run.jobRef q.segments.length, now⟩ { db with toWorkflow := w }
  return { db with toWorkflow := db.toWorkflow.finishRun now q.runRef .succeeded }

def completePrepare (now : Timestamp) (q : PrepareResult) (refs : PrepareRefs) (db : Database) :
    Except AnnotationError Database := do
  let run ← runningRun db.toWorkflow q.runRef
  let job ← jobRow db.toWorkflow run.jobRef
  if job.Cancelling then
    return { db with toWorkflow := db.toWorkflow.closeCancelled now q.runRef run.jobRef }
  else do
    raiseIf (job.status ≠ .preparing) (.runtime "prepare run no longer owns a preparing job")
    requireRuntimeStepLedger db q.runRef q.commandSteps
    if q.segments = [] then failRunConn now (noSegmentsPrepared q.runRef) refs.failure db
    else if InvalidPreparation db.toWorkflow run.jobRef q.segments then
      failRunConn now (invalidPreparation q.runRef) refs.failure db
    else commitPrepare now q refs run db

structure TrackingCheckpoint where
  runRef : String
  segmentRef : String
  targetRef : String
  revisionSha256 : String
  identity : String
  outputDir : String
  pointsPath : String
  artifactSha256 : String

def submittedRevision? (w : Workflow) (segment : SegmentRow) : Option RevisionRow :=
  segment.submittedRevision.bind fun n => w.revisions.find? (segment.segmentRef, n)

def recordTrackingCheckpoint (now : Timestamp) (q : TrackingCheckpoint) (db : Database) :
    Except AnnotationError Database := do
  let run ← runningRun db.toWorkflow q.runRef
  raiseIf (run.kind ≠ .tracking) (.runtime "checkpoint belongs to a non-tracking run")
  let job ← jobRow db.toWorkflow run.jobRef
  raiseIf (job.status ≠ .tracking) (.runtime "checkpoint job is not tracking")
  raiseIf job.cancelRequested
    (.runtime "tracking cancellation was requested before checkpoint commit")
  let segment ← segmentRow db.toWorkflow run.jobRef q.segmentRef
  let revision ← orRaise (.runtime "checkpoint revision does not match submitted annotation")
    ((submittedRevision? db.toWorkflow segment).filter fun r => r.contentSha256 = q.revisionSha256)
  raiseIf (q.targetRef ∉ revision.targets.map DraftAnnotationTarget.targetRef)
    (.runtime "checkpoint target is not in the submitted annotation")
  let row : CheckpointRow :=
    { jobRef := run.jobRef
      segmentRef := q.segmentRef
      targetRef := q.targetRef
      revisionSha256 := q.revisionSha256
      runRef := q.runRef
      identity := q.identity
      outputDir := q.outputDir
      pointsPath := q.pointsPath
      artifactSha256 := q.artifactSha256
      createdAt := now }
  match db.checkpoints.find? (key row) with
  | some existing => do
    raiseIf (existing.identity ≠ q.identity ∨ existing.outputDir ≠ q.outputDir ∨
        existing.pointsPath ≠ q.pointsPath ∨ existing.artifactSha256 ≠ q.artifactSha256)
      (.runtime "committed tracking checkpoint is immutable")
    return db
  | none => do
    let checkpoints ← orRaise (.integrity "tracking_checkpoints.job_id")
      (db.checkpoints.insert? row)
    insertStep { startedStep now db q.runRef "tracking_target_completed" with
      status := .succeeded, artifactSha256 := some q.artifactSha256 } { db with checkpoints }

def trackedTargets (db : Database) (jobRef : String) (segment : SegmentRow) :
    Except AnnotationError ℕ := do
  let revision ← orRaise (.runtime "tracking segment revision is missing")
    (submittedRevision? db.toWorkflow segment)
  raiseIf (db.checkpoints.rowcount (fun c => c.jobRef = jobRef ∧
      c.segmentRef = segment.segmentRef ∧ c.revisionSha256 = revision.contentSha256) ≠
        revision.targets.length)
    (.runtime "tracking checkpoints are incomplete")
  return revision.targets.length

def completeTracking (now : Timestamp) (runRef : String) (commandSteps : Option (List String))
    (handoffRef : String) (db : Database) : Except AnnotationError Database := do
  let run ← runningRun db.toWorkflow runRef
  let job ← jobRow db.toWorkflow run.jobRef
  if job.Cancelling then
    return { db with toWorkflow := db.toWorkflow.closeCancelled now runRef run.jobRef }
  else do
    raiseIf (job.status ≠ .tracking) (.runtime "tracking run no longer owns a tracking job")
    requireRuntimeStepLedger db runRef commandSteps
    let expected ← (db.segments.select fun s => s.jobRef = run.jobRef ∧
      s.status = .tracking).mapM (trackedTargets db run.jobRef)
    raiseIf (expected.sum = 0) (.runtime "tracking has no submitted targets")
    let w := (db.toWorkflow.moveSegments now run.jobRef (· = .tracking) .tracked).setJob now
      run.jobRef fun j => { j with status := .tracked, reservedBytes := 0 }
    let db ← insertHandoff
      ⟨handoffRef, run.jobRef, none, .trackingCompleted,
        .trackedCount run.jobRef ((w.statuses run.jobRef).filter (· = .tracked)).length, now⟩
      { db with toWorkflow := w }
    return { db with toWorkflow := db.toWorkflow.finishRun now runRef .succeeded }

def completeCancelledRun (now : Timestamp) (runRef : String) (db : Database) :
    Except AnnotationError Database := do
  let run ← orRaise runNotFound (db.runs.find? runRef)
  if run.status = .cancelled then return db
  else do
    raiseIf (run.status ≠ .running) runNotRunning
    let job ← jobRow db.toWorkflow run.jobRef
    raiseIf (job.cancelRequested = false)
      (.runtime "runtime cancellation lacks a durable cancel request")
    return { db with toWorkflow := db.toWorkflow.closeCancelled now runRef run.jobRef }

/-- The result for one segment; the state is the canonical text of an object. -/
structure TrajectoryResult where
  segmentRef : Option String
  state : Option String
  contentSha256 : Option String
  artifactPath : Option String
  compatibilityPath : Option String
  artifactSha256 : Option String
  artifactManifestRef : Option String

def resultScopeMismatch : AnnotationError :=
  .validation "postprocessing_result_scope_mismatch"
    "Postprocessing results must cover every eligible segment in order."

def invalidTrajectoryArtifact : AnnotationError :=
  .validation "invalid_trajectory_artifact"
    "A trajectory result lacks its immutable artifact evidence."

/-- The references of the rows that one result creates. -/
structure TrajectoryRefs where
  trajectoryRef : String
  reviewRef : String

def trajectoryRow (now : Timestamp) (jobRef segmentRef : String) (refs : TrajectoryRefs)
    (item : TrajectoryResult) (db : Database) : Except AnnotationError TrajectoryRow := do
  let state ← orRaise (.validation "invalid_trajectory_result"
    "A trajectory result must contain an object state.") item.state
  let stateSha := Sha256.hexdigest state
  raiseIf (item.contentSha256 ≠ none ∧ item.contentSha256 ≠ some stateSha)
    (.validation "trajectory_result_hash_mismatch"
      "A trajectory result does not match its declared state hash.")
  let artifactPath ← orRaise invalidTrajectoryArtifact (item.artifactPath.filter IsAbsolute)
  let compatibilityPath ←
    orRaise invalidTrajectoryArtifact (item.compatibilityPath.filter IsAbsolute)
  let artifactSha256 ← orRaise invalidTrajectoryArtifact (item.artifactSha256.filter ValidSha256)
  let artifactManifestRef ← orRaise invalidTrajectoryArtifact
    (item.artifactManifestRef.filter fun r => "artifact_manifest_".toList <+: r.toList)
  return {
    revisionRef := refs.trajectoryRef
    jobRef
    segmentRef
    revisionNumber := ((db.trajectories.select fun t => t.segmentRef = segmentRef).map
      TrajectoryRow.revisionNumber).foldr max 0 + 1
    contentSha256 := stateSha
    artifactPath
    compatibilityPath
    artifactSha256
    state
    artifactManifestRef
    createdAt := now }

def newReview (now : Timestamp) (refs : TrajectoryRefs) : ReviewRow where
  reviewRef := refs.reviewRef
  trajectoryRef := refs.trajectoryRef
  status := .pending
  stateRevision := 0
  activeFixDraft := none
  approvedFixRevision := none
  fixFailureCode := none
  fixFailureMessage := none
  fixFailureRef := none
  fixFailureRetryable := false
  createdAt := now
  updatedAt := now

/-- One round of the loop of `_complete_postprocessing_conn`. -/
def insertTrajectory (now : Timestamp) (jobRef segmentRef : String) (refs : TrajectoryRefs)
    (item : TrajectoryResult) (db : Database) : Except AnnotationError Database := do
  let row ← trajectoryRow now jobRef segmentRef refs item db
  let trajectories ← orRaise (.integrity "trajectory_revisions.revision_ref")
    (db.trajectories.insert? row)
  let reviews ← orRaise (.integrity "trajectory_review_tasks.review_ref")
    (db.reviews.insert? (newReview now refs))
  return { db with
    trajectories
    reviews
    segments := db.segments.update (fun s => s.segmentRef = segmentRef) fun s =>
      { s with status := .annotated, stateRevision := s.stateRevision + 1, updatedAt := now } }

def insertTrajectories (now : Timestamp) (jobRef : String) (refs : ℕ → TrajectoryRefs) :
    ℕ → List (String × TrajectoryResult) → Database → Except AnnotationError Database
  | _, [], db => .ok db
  | n, (segmentRef, item) :: rest, db => do
    let db ← insertTrajectory now jobRef segmentRef (refs n) item db
    insertTrajectories now jobRef refs (n + 1) rest db

/-- The references that the completion of postprocessing draws. -/
structure PostprocessingRefs where
  trajectory : ℕ → TrajectoryRefs
  fixReadyRef : String
  completedRef : String

def completePostprocessingConn (now : Timestamp) (jobRef : String)
    (trajectories : List TrajectoryResult) (refs : PostprocessingRefs) (db : Database) :
    Except AnnotationError Database := do
  let expected := ((segmentsOf db.toWorkflow jobRef).filter fun s =>
    s.status = .postprocessing).map SegmentRow.segmentRef
  raiseIf (expected = [] ∨ trajectories.map (fun t => t.segmentRef.getD "") ≠ expected)
    resultScopeMismatch
  let db ← insertTrajectories now jobRef refs.trajectory 0 (expected.zip trajectories) db
  let w := db.toWorkflow.setJob now jobRef fun j =>
    { j with status := .annotated, completionOutcome := some "postprocessing_complete" }
  let payload : HandoffPayload := .reviewCount jobRef expected.length
  let db ← insertHandoff ⟨refs.fixReadyRef, jobRef, none, .fixReady, payload, now⟩
    { db with toWorkflow := w }
  insertHandoff ⟨refs.completedRef, jobRef, none, .postprocessingCompleted, payload, now⟩ db

def bindManifest (manifestRef : String) (item : TrajectoryResult) :
    Except AnnotationError TrajectoryResult := do
  raiseIf (item.artifactManifestRef ≠ none ∧ item.artifactManifestRef ≠ some manifestRef)
    (.runtime "trajectory result references a different manifest")
  return { item with artifactManifestRef := some manifestRef }

def manifestRefOf (suffix : String) : String := "artifact_manifest_" ++ suffix

def completePostprocessingRun (now : Timestamp) (runRef : String)
    (trajectories : List TrajectoryResult) (commandSteps : Option (List String))
    (manifest : String) (refs : PostprocessingRefs) (db : Database) :
    Except AnnotationError Database := do
  let run ← runningRun db.toWorkflow runRef
  raiseIf (run.kind ≠ .postprocessing)
    (.runtime "postprocessing completion belongs to a different run kind")
  let job ← jobRow db.toWorkflow run.jobRef
  if job.Cancelling then
    return { db with toWorkflow := db.toWorkflow.closeCancelled now runRef run.jobRef }
  else do
    raiseIf (job.status ≠ .postprocessing)
      (.runtime "postprocessing run no longer owns its annotation job")
    requireRuntimeStepLedger db runRef commandSteps
    let items ← trajectories.mapM (bindManifest (manifestRefOf manifest))
    let db ← completePostprocessingConn now run.jobRef items refs db
    return { db with toWorkflow := db.toWorkflow.finishRun now runRef .succeeded }

structure PostprocessingResult where
  jobRef : String
  expectedJobRevision : ℕ
  trajectories : List TrajectoryResult
  actorKind : ActorKind

def TrajectoryResult.public (t : TrajectoryResult) : PublicTrajectory :=
  ⟨t.segmentRef, t.contentSha256, t.artifactManifestRef⟩

def postprocessingRun? (w : Workflow) (jobRef : String) : Option RunRow :=
  (w.runs.select fun r => r.jobRef = jobRef ∧ r.kind = .postprocessing).argmax RunRow.attempt

/-- The callback of `complete_postprocessing`. -/
def completePostprocessingIn (now : Timestamp) (q : PostprocessingResult)
    (refs : PostprocessingRefs) (db : Database) : Except AnnotationError (Reply × Database) := do
  let job ← expectedJob db.toWorkflow q.jobRef q.expectedJobRevision
  raiseIf (job.status ≠ .postprocessing) invalidJobAction
  let run ← orRaise (.conflict "postprocessing_run_unavailable"
    "The postprocessing Runtime run cannot be finalized.")
    ((postprocessingRun? db.toWorkflow q.jobRef).filter fun r => r.status.Open)
  let db ← completePostprocessingConn now q.jobRef q.trajectories refs db
  let db := { db with toWorkflow := db.toWorkflow.finishRun now run.runRef .succeeded }
  return (.job (← jobProjection db q.jobRef), db)

def completePostprocessing (now : Timestamp) (q : PostprocessingResult)
    (refs : PostprocessingRefs) (idempotencyKey : String) (db : Database) :
    Except AnnotationError (Reply × Database) :=
  mutate now idempotencyKey (.completePostprocessing q.jobRef q.expectedJobRevision
    (q.trajectories.map TrajectoryResult.public)) q.actorKind
    (completePostprocessingIn now q refs) db

end DataJuicer.Annotation

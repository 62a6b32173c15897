import DataJuicer.Annotation.Runs

/-! # Trajectory reviews and their publication

A reviewer edits the Fix draft of a trajectory, has revisions of it generated by `fix` runs and
approves one of them, which a `compatibility_publish` run then publishes.
-/

namespace DataJuicer.Annotation

open Transaction

def expectedReview (db : Database) (reviewRef : String) (expectedReviewRevision : ℕ) :
    Except AnnotationError ReviewRow := do
  let review ← reviewRow db reviewRef
  raiseIf (review.stateRevision ≠ expectedReviewRevision) reviewRevisionConflict
  return review

def reviewJob? (db : Database) (review : ReviewRow) : Option String :=
  (db.trajectories.find? review.trajectoryRef).map TrajectoryRow.jobRef

/-- A revision of the review's draft is queued or being generated. -/
def FixRunActive (db : Database) (reviewRef : String) : Prop :=
  ∃ l ∈ db.fixLinks, l.reviewRef = reviewRef ∧
    ∃ r ∈ db.runs, r.runRef = l.runRef ∧ r.status.Open

instance (db : Database) (reviewRef : String) : Decidable (FixRunActive db reviewRef) := by
  unfold FixRunActive
  infer_instance

def fixRuntimeAlreadyActive (message : String) : AnnotationError :=
  .conflict "fix_runtime_already_active" message

def fixDraftRevisionConflict : AnnotationError :=
  .conflict "fix_draft_revision_conflict" "The Fix draft changed; refresh before retrying."

def fixRuntimeHashMismatch : AnnotationError :=
  .validation "fix_runtime_hash_mismatch"
    "The Fix runtime result does not match its declared hash."

def foreignKey {α : Type} (constraint : String) (row : Option α) : Except AnnotationError α :=
  orRaise (.integrity constraint) row

structure FixSession where
  reviewRef : String
  expectedReviewRevision : ℕ
  calibration : CalibrationSnapshot
  differenceReason : Option String
  initialState : String
  initialStateSha256 : String
  draftRef : String

/-- The callback of `create_fix_session`. -/
def createFixSessionIn (now : Timestamp) (q : FixSession) (db : Database) :
    Except AnnotationError (Reply × Database) := do
  let review ← expectedReview db q.reviewRef q.expectedReviewRevision
  raiseIf (review.status ≠ .pending ∨ review.activeFixDraft ≠ none) invalidReviewAction
  let jobRef ← foreignKey "trajectory_revisions.job_id" (reviewJob? db review)
  let job ← jobRow db.toWorkflow jobRef
  raiseIf (job.calibration.profileRef ≠ q.calibration.profileRef ∧
      q.differenceReason.getD "" = "")
    (.validation "fix_calibration_reason_required"
      "A reason is required when Fix calibration differs from processing.")
  let actualSha := Sha256.hexdigest q.initialState
  raiseIf (actualSha ≠ q.initialStateSha256) fixRuntimeHashMismatch
  raiseIf (∃ d ∈ db.fixDrafts, d.reviewRef = q.reviewRef) (.integrity "fix_drafts.review_id")
  let fixDrafts ← orRaise (.integrity "fix_drafts.draft_ref") (db.fixDrafts.insert?
    { draftRef := q.draftRef
      reviewRef := q.reviewRef
      calibration := q.calibration
      differenceReason := q.differenceReason
      baseTrajectoryRef := review.trajectoryRef
      draftRevision := 1
      originalState := q.initialState
      state := q.initialState
      contentSha256 := actualSha
      createdAt := now
      updatedAt := now })
  let db := { db with fixDrafts }.setReview now q.reviewRef fun r =>
    { r with status := .inProgress, activeFixDraft := some q.draftRef }
  return (.review (← reviewProjection db q.reviewRef), db)

def FixSession.request (q : FixSession) : Request :=
  .createFixSession q.reviewRef q.expectedReviewRevision q.calibration.profileRef
    q.calibration.contentSha256 q.differenceReason

def createFixSession (now : Timestamp) (q : FixSession) (idempotencyKey : String)
    (db : Database) : Except AnnotationError (Reply × Database) :=
  mutate now idempotencyKey q.request .manualWeb (createFixSessionIn now q) db

structure FixCommand where
  reviewRef : String
  expectedReviewRevision : ℕ
  expectedDraftRevision : ℕ
  command : String
  resultState : String
  resultSha256 : String

def activeDraft (db : Database) (review : ReviewRow) : Except AnnotationError FixDraftRow := do
  let draftRef ← orRaise invalidReviewAction review.activeFixDraft
  foreignKey "trajectory_review_tasks.active_fix_draft_id" (db.fixDrafts.find? draftRef)

/-- The callback of `apply_fix_command_result`. -/
def applyFixCommandIn (now : Timestamp) (q : FixCommand) (db : Database) :
    Except AnnotationError (Reply × Database) := do
  let review ← expectedReview db q.reviewRef q.expectedReviewRevision
  raiseIf (review.status ≠ .inProgress ∨ review.activeFixDraft = none) invalidReviewAction
  raiseIf (FixRunActive db q.reviewRef)
    (fixRuntimeAlreadyActive "The Fix draft is frozen while a revision is generated.")
  let draft ← activeDraft db review
  raiseIf (draft.draftRevision ≠ q.expectedDraftRevision) fixDraftRevisionConflict
  let actualSha := Sha256.hexdigest q.resultState
  raiseIf (actualSha ≠ q.resultSha256) fixRuntimeHashMismatch
  let fixDrafts := db.fixDrafts.update (fun d => d.draftRef = draft.draftRef) fun d =>
    { d with
      draftRevision := q.expectedDraftRevision + 1
      state := q.resultState
      contentSha256 := actualSha
      updatedAt := now }
  let db := { db with fixDrafts }.setReview now q.reviewRef id fun r => Table.key_self r
  return (.review (← reviewProjection db q.reviewRef), db)

def applyFixCommand (now : Timestamp) (q : FixCommand) (idempotencyKey : String)
    (db : Database) : Except AnnotationError (Reply × Database) :=
  mutate now idempotencyKey (.applyFixCommand q.reviewRef q.expectedReviewRevision
    q.expectedDraftRevision q.command) .manualWeb (applyFixCommandIn now q) db

structure FixRevisionRequest where
  reviewRef : String
  expectedReviewRevision : ℕ
  expectedDraftRevision : ℕ

/-- The failure of an earlier revision is forgotten. -/
def ReviewRow.clearFixFailure (r : ReviewRow) : ReviewRow :=
  { r with
    fixFailureCode := none
    fixFailureMessage := none
    fixFailureRef := none
    fixFailureRetryable := false }

/-- The callback of `create_fix_revision`. -/
def createFixRevisionIn (now : Timestamp) (q : FixRevisionRequest) (runRef revisionRef : String)
    (db : Database) : Except AnnotationError (Reply × Database) := do
  let review ← expectedReview db q.reviewRef q.expectedReviewRevision
  raiseIf (review.status ≠ .inProgress ∨ review.activeFixDraft = none) invalidReviewAction
  let draft ← activeDraft db review
  raiseIf (draft.draftRevision ≠ q.expectedDraftRevision) fixDraftRevisionConflict
  raiseIf (∃ l ∈ db.fixLinks, l.reviewRef = q.reviewRef ∧
      ∃ r ∈ db.runs, r.runRef = l.runRef ∧ r.kind = .fix ∧ r.status.Open)
    (fixRuntimeAlreadyActive "A Fix revision is already being generated.")
  let number := ((db.fixRevisions.select fun f => f.reviewRef = q.reviewRef).map
    FixRevisionRow.revisionNumber).foldr max 0 + 1
  let jobRef ← foreignKey "trajectory_revisions.job_id" (reviewJob? db review)
  let w ← db.toWorkflow.enqueueRun now jobRef runRef .fix
  let fixLinks ← orRaise (.integrity "runtime_run_review_links.run_id") (db.fixLinks.insert?
    ⟨runRef, q.reviewRef, draft.draftRef, draft.draftRevision, revisionRef, number, now⟩)
  let db := { db with fixLinks, toWorkflow := w }.setReview now q.reviewRef
    ReviewRow.clearFixFailure
  return (.review (← reviewProjection db q.reviewRef), db)

def createFixRevision (now : Timestamp) (q : FixRevisionRequest)
    (runRef revisionRef idempotencyKey : String) (db : Database) :
    Except AnnotationError (Reply × Database) :=
  mutate now idempotencyKey (.createFixRevision q.reviewRef q.expectedReviewRevision
    q.expectedDraftRevision) .manualWeb (createFixRevisionIn now q runRef revisionRef) db

structure FixResult where
  runRef : String
  candidateSegmentRoot : String
  candidateTreeSha256 : String
  fixTrajectorySha256 : String
  commandSteps : Option (List String)
  manifestRef : String
  handoffRef : String

def completeFixRun (now : Timestamp) (q : FixResult) (db : Database) :
    Except AnnotationError Database := do
  let run ← runningRun db.toWorkflow q.runRef
  raiseIf (run.kind ≠ .fix) (.runtime "Fix completion belongs to another run kind")
  let missing : AnnotationError := .runtime "Fix completion lacks its review binding"
  let link ← orRaise missing (db.fixLinks.find? q.runRef)
  let review ← orRaise missing (db.reviews.find? link.reviewRef)
  let draft ← orRaise missing (db.fixDrafts.find? link.fixDraftRef)
  raiseIf (review.status ≠ .inProgress ∨ draft.draftRevision ≠ link.sourceDraftRevision)
    (.runtime "Fix completion no longer owns its draft")
  raiseIf (¬ IsAbsolute q.candidateSegmentRoot ∨ ¬ ValidSha256 q.candidateTreeSha256 ∨
      ¬ ValidSha256 q.fixTrajectorySha256)
    (.runtime "Fix completion artifact identity is invalid")
  requireRuntimeStepLedger db q.runRef q.commandSteps
  let fixRevisions ← orRaise (.integrity "fix_revisions.revision_ref") (db.fixRevisions.insert?
    { revisionRef := link.plannedRevisionRef
      reviewRef := link.reviewRef
      revisionNumber := link.plannedRevisionNumber
      baseTrajectoryRef := draft.baseTrajectoryRef
      sourceDraftRevision := link.sourceDraftRevision
      state := draft.state
      contentSha256 := q.fixTrajectorySha256
      artifactPath := q.candidateSegmentRoot
      artifactSha256 := q.candidateTreeSha256
      artifactManifestRef := q.manifestRef
      runRef := q.runRef
      createdAt := now })
  let db ← insertHandoff
    ⟨q.handoffRef, run.jobRef, some link.reviewRef, .fixRevisionSubmitted,
      .fixRevision link.reviewRef link.plannedRevisionRef, now⟩
    ({ db with fixRevisions }.setReview now link.reviewRef ReviewRow.clearFixFailure)
  return { db with toWorkflow := db.toWorkflow.finishRun now q.runRef .succeeded }

structure DecisionRequest where
  operation : ReviewDecision
  reviewRef : String
  expectedReviewRevision : ℕ
  reason : String

def ReviewDecision.Allowed (s : ReviewStatus) : ReviewDecision → Prop
  | .returned => s = .inProgress
  | .discarded => s = .pending ∨ s = .inProgress ∨ s = .returned

instance (s : ReviewStatus) (d : ReviewDecision) : Decidable (d.Allowed s) := by
  cases d <;> unfold ReviewDecision.Allowed <;> infer_instance

def ReviewDecision.status : ReviewDecision → ReviewStatus
  | .returned => .returned
  | .discarded => .discarded

def ReviewDecision.name : ReviewDecision → String
  | .returned => "returned"
  | .discarded => "discarded"

def ReviewDecision.handoffKind : ReviewDecision → HandoffKind
  | .returned => .reviewReturned
  | .discarded => .reviewCompleted

def reviewFrozen : AnnotationError :=
  fixRuntimeAlreadyActive "The review is frozen while a Fix revision is generated."

/-- The callback of `decide_review`. -/
def decideReviewIn (now : Timestamp) (q : DecisionRequest) (handoffRef : String) (db : Database) :
    Except AnnotationError (Reply × Database) := do
  let review ← expectedReview db q.reviewRef q.expectedReviewRevision
  raiseIf (FixRunActive db q.reviewRef) reviewFrozen
  raiseIf (¬ q.operation.Allowed review.status) invalidReviewAction
  let jobRef ← foreignKey "trajectory_revisions.job_id" (reviewJob? db review)
  let db ← insertHandoff
    ⟨handoffRef, jobRef, some q.reviewRef, q.operation.handoffKind,
      .decision q.reviewRef q.operation.name, now⟩
    (db.setReview now q.reviewRef fun r => { r with status := q.operation.status })
  return (.review (← reviewProjection db q.reviewRef), db)

def decideReview (now : Timestamp) (q : DecisionRequest) (handoffRef idempotencyKey : String)
    (db : Database) : Except AnnotationError (Reply × Database) :=
  mutate now idempotencyKey (.decideReview q.operation q.reviewRef q.expectedReviewRevision
    q.reason) .manualWeb (decideReviewIn now q handoffRef) db

structure ResumeRequest where
  reviewRef : String
  expectedReviewRevision : ℕ
  calibrationProfileRef : String
  calibrationContentSha256 : String
  differenceReason : Option String

/-- The callback of `resume_returned_review`. -/
def resumeReturnedReviewIn (now : Timestamp) (q : ResumeRequest) (db : Database) :
    Except AnnotationError (Reply × Database) := do
  let review ← expectedReview db q.reviewRef q.expectedReviewRevision
  raiseIf (review.status ≠ .returned ∨ review.activeFixDraft = none) invalidReviewAction
  let db := db.setReview now q.reviewRef fun r => { r with status := .inProgress }
  return (.review (← reviewProjection db q.reviewRef), db)

def resumeReturnedReview (now : Timestamp) (q : ResumeRequest) (idempotencyKey : String)
    (db : Database) : Except AnnotationError (Reply × Database) :=
  mutate now idempotencyKey (.createFixSession q.reviewRef q.expectedReviewRevision
    q.calibrationProfileRef q.calibrationContentSha256 q.differenceReason) .manualWeb
    (resumeReturnedReviewIn now q) db

/-- The references that a queued publication draws. -/
structure PublicationRefs where
  publicationRef : String
  runRef : String

def enqueueCompatibilityPublication (now : Timestamp) (jobRef reviewRef fixRevisionRef : String)
    (refs : PublicationRefs) (db : Database) : Except AnnotationError Database := do
  let attempt := ((db.publications.select fun p => p.reviewRef = reviewRef).map
    PublicationRow.attempt).foldr max 0 + 1
  let w ← db.toWorkflow.enqueueRun now jobRef refs.runRef .compatibilityPublish
  let publications ← orRaise (.integrity "compatibility_publications.publication_ref")
    (w.publications.insert?
      { publicationRef := refs.publicationRef
        reviewRef
        fixRevisionRef
        attempt
        status := .queued
        contentSha256 := none
        artifactPath := none
        artifactManifestRef := none
        failureCode := none
        failureRef := none
        createdAt := now })
  let publicationLinks ← orRaise (.integrity "runtime_run_publication_links.run_id")
    (db.publicationLinks.insert? ⟨refs.runRef, refs.publicationRef, reviewRef, now⟩)
  return { db with toWorkflow := { w with publications }, publicationLinks }

structure ApproveRequest where
  reviewRef : String
  expectedReviewRevision : ℕ
  fixRevisionRef : String

def fixRevisionJob? (db : Database) (f : FixRevisionRow) : Option String :=
  (db.trajectories.find? f.baseTrajectoryRef).map TrajectoryRow.jobRef

/-- The callback of `approve_fix_revision`. -/
def approveFixRevisionIn (now : Timestamp) (q : ApproveRequest) (refs : PublicationRefs)
    (db : Database) : Except AnnotationError (Reply × Database) := do
  let review ← expectedReview db q.reviewRef q.expectedReviewRevision
  raiseIf (FixRunActive db q.reviewRef) reviewFrozen
  raiseIf (review.status ≠ .inProgress ∧ review.status ≠ .returned) invalidReviewAction
  let notFound : AnnotationError := .notFound "Fix revision not found"
  let revision ← orRaise notFound
    ((db.fixRevisions.find? q.fixRevisionRef).filter fun f => f.reviewRef = q.reviewRef)
  let jobRef ← orRaise notFound (fixRevisionJob? db revision)
  raiseIf ((review.activeFixDraft.bind fun d => db.fixDrafts.find? d).map
      FixDraftRow.draftRevision ≠ some revision.sourceDraftRevision)
    (.conflict "fix_revision_stale"
      "Generate a Fix preview for the latest draft before approval.")
  raiseIf (∃ p ∈ db.publications, p.reviewRef = q.reviewRef ∧ p.status.Open)
    (.conflict "compatibility_publication_active"
      "The approved Fix revision is already queued for publication.")
  let db ← enqueueCompatibilityPublication now jobRef q.reviewRef q.fixRevisionRef refs
    (db.setReview now q.reviewRef fun r =>
      { r with status := .approved, approvedFixRevision := some q.fixRevisionRef })
  return (.review (← reviewProjection db q.reviewRef), db)

def approveFixRevision (now : Timestamp) (q : ApproveRequest) (refs : PublicationRefs)
    (idempotencyKey : String) (db : Database) : Except AnnotationError (Reply × Database) :=
  mutate now idempotencyKey (.approveReview q.reviewRef q.expectedReviewRevision
    q.fixRevisionRef) .manualWeb (approveFixRevisionIn now q refs) db

structure RetryPublication where
  reviewRef : String
  expectedReviewRevision : ℕ

def publicationRetryUnavailable : AnnotationError :=
  .conflict "publication_retry_unavailable"
    "There is no failed compatibility publication to retry."

def latestPublication? (w : Workflow) (reviewRef : String) : Option PublicationRow :=
  (w.publications.select fun p => p.reviewRef = reviewRef).argmax PublicationRow.attempt

/-- The callback of `retry_compatibility_publication`. -/
def retryPublicationIn (now : Timestamp) (q : RetryPublication) (refs : PublicationRefs)
    (db : Database) : Except AnnotationError (Reply × Database) := do
  let review ← expectedReview db q.reviewRef q.expectedReviewRevision
  raiseIf (review.status ≠ .approved ∨ review.approvedFixRevision = none) invalidReviewAction
  let latest ← orRaise publicationRetryUnavailable
    ((latestPublication? db.toWorkflow q.reviewRef).filter fun p =>
      p.status = .failed ∧ some p.fixRevisionRef = review.approvedFixRevision)
  let revision ← orRaise publicationRetryUnavailable (db.fixRevisions.find? latest.fixRevisionRef)
  let jobRef ← orRaise publicationRetryUnavailable (fixRevisionJob? db revision)
  let db ← enqueueCompatibilityPublication now jobRef q.reviewRef latest.fixRevisionRef refs db
  let db := db.setReview now q.reviewRef id fun r => Table.key_self r
  return (.review (← reviewProjection db q.reviewRef), db)

def retryCompatibilityPublication (now : Timestamp) (q : RetryPublication)
    (refs : PublicationRefs) (idempotencyKey : String) (db : Database) :
    Except AnnotationError (Reply × Database) :=
  mutate now idempotencyKey (.retryPublication q.reviewRef q.expectedReviewRevision) .manualWeb
    (retryPublicationIn now q refs) db

structure PublicationResult where
  runRef : String
  contentSha256 : String
  /-- The published file and its directory. -/
  artifactPath : String
  artifactParent : String
  commandSteps : Option (List String)
  manifestRef : String
  handoffRef : String

def completeCompatibilityPublication (now : Timestamp) (q : PublicationResult) (db : Database) :
    Except AnnotationError Database := do
  let run ← runningRun db.toWorkflow q.runRef
  raiseIf (run.kind ≠ .compatibilityPublish)
    (.runtime "compatibility publication completion belongs to another run kind")
  let missing : AnnotationError :=
    .runtime "compatibility publication completion lacks its binding"
  let link ← orRaise missing (db.publicationLinks.find? q.runRef)
  let publication ← orRaise missing (db.publications.find? link.publicationRef)
  let review ← orRaise missing (db.reviews.find? link.reviewRef)
  let revision ← orRaise missing (db.fixRevisions.find? publication.fixRevisionRef)
  let trajectory ← orRaise missing (db.trajectories.find? revision.baseTrajectoryRef)
  raiseIf (publication.status ≠ .running ∨ review.status ≠ .approved ∨
      review.approvedFixRevision ≠ some publication.fixRevisionRef)
    (.runtime "compatibility publication completion lost its approval")
  raiseIf (¬ ValidSha256 q.contentSha256 ∨ q.contentSha256 ≠ revision.contentSha256 ∨
      ¬ IsAbsolute q.artifactPath ∨ q.artifactParent ≠ trajectory.compatibilityPath)
    (.runtime "compatibility publication artifact identity is invalid")
  requireRuntimeStepLedger db q.runRef q.commandSteps
  let w := db.toWorkflow.setPublication link.publicationRef fun p =>
    { p with
      status := .succeeded
      contentSha256 := some q.contentSha256
      artifactPath := some q.artifactPath
      artifactManifestRef := some q.manifestRef }
  let db ← insertHandoff
    ⟨q.handoffRef, run.jobRef, some link.reviewRef, .reviewCompleted,
      .decision link.reviewRef "approved", now⟩
    ({ db with toWorkflow := w }.setReview now link.reviewRef id fun r => Table.key_self r)
  return { db with toWorkflow := db.toWorkflow.finishRun now q.runRef .succeeded }

end DataJuicer.Annotation

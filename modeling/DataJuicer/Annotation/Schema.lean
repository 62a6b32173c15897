import DataJuicer.Lib.PyText
import DataJuicer.Lib.Table
import DataJuicer.Lib.Transaction
import DataJuicer.Annotation.Models

/-! # The annotation database

The rows of the tables that the store's operations read and write. A row refers to another
by its public reference, and the order of a table is the order of its row ids. JSON columns
hold the value that is decoded from them, and a digest of a request holds the request.
-/

namespace DataJuicer.Annotation

structure CalibrationSnapshot where
  profileRef : String
  label : String
  contentSha256 : String
  privateSnapshotDir : String
  deriving DecidableEq

inductive LocalizationKind
  | odom
  | ins
  deriving DecidableEq

inductive GridmapDecision
  | copyExistingGridmap
  | generateFromPcd
  | skipIfProjectionReady
  deriving DecidableEq

structure PostprocessingSpec where
  localizationKind : LocalizationKind
  gridmapDecision : GridmapDecision
  trajectoryVariant : String
  planSha256 : String
  observationsSha256 : String
  deriving DecidableEq

inductive SegmentAction
  | reopen
  | skip
  | unskip
  deriving DecidableEq

inductive JobAction
  | startTracking
  | completeNoProcessableTargets
  | cancelJob
  | retryJob
  deriving DecidableEq

inductive ReviewDecision
  | returned
  | discarded
  deriving DecidableEq

structure PublicTrajectory where
  segmentRef : Option String
  contentSha256 : Option String
  artifactManifestRef : Option String
  deriving DecidableEq

/-- The operation and the payload that a receipt is bound to. -/
inductive Request
  | createJob (datasetDate : String) (sourceClips : List String)
      (calibrationProfileRef calibrationContentSha256 : String)
  | saveDraft (jobRef segmentRef : String) (expectedSegmentRevision : ℕ)
      (expectedDraftRevision : Option ℕ) (targets : List DraftAnnotationTarget)
  | submitSegment (jobRef segmentRef : String)
      (expectedSegmentRevision expectedDraftRevision : ℕ)
  | segmentAction (operation : SegmentAction) (jobRef segmentRef : String)
      (expectedSegmentRevision : ℕ) (reasonCode note : Option String)
  | jobAction (operation : JobAction) (jobRef : String) (expectedJobRevision : ℕ)
  | beginPostprocessing (jobRef : String) (expectedJobRevision : ℕ) (spec : PostprocessingSpec)
      (processingNavigationTaskRef : Option String)
  | completePostprocessing (jobRef : String) (expectedJobRevision : ℕ)
      (trajectories : List PublicTrajectory)
  | createFixSession (reviewRef : String) (expectedReviewRevision : ℕ)
      (calibrationProfileRef calibrationContentSha256 : String) (differenceReason : Option String)
  | applyFixCommand (reviewRef : String) (expectedReviewRevision expectedDraftRevision : ℕ)
      (command : String)
  | createFixRevision (reviewRef : String) (expectedReviewRevision expectedDraftRevision : ℕ)
  | decideReview (operation : ReviewDecision) (reviewRef : String)
      (expectedReviewRevision : ℕ) (reason : String)
  | approveReview (reviewRef : String) (expectedReviewRevision : ℕ) (fixRevisionRef : String)
  | retryPublication (reviewRef : String) (expectedReviewRevision : ℕ)
  | resetUnreleasedDataset (datasetDate resetRef : String)
  | linkNavigationTask (jobRef : String) (reviewRef : Option String) (navigationTaskRef : String)
      (parentNavigationTaskRef : Option String) (linkKind : LinkKind)
  deriving DecidableEq

/-- `_segment_projection` -/
structure SegmentView where
  segmentRef : String
  ordinal : ℕ
  sourceClip : String
  status : SegmentStatus
  stateRevision : ℕ
  draftRevision : Option ℕ
  submittedRevision : Option ℕ
  frameSize : ℤ × ℤ
  draft : Option (ℕ × List DraftAnnotationTarget)
  skipReason : Option (String × Option String)

structure FailureView where
  code : String
  message : Option String
  retryable : Bool
  errorRef : Option String

/-- `_job_projection` -/
structure JobView where
  jobRef : String
  datasetDate : String
  sourceClips : List String
  status : JobStatus
  completionOutcome : Option String
  cancelRequested : Bool
  stateRevision : ℕ
  calibration : CalibrationSnapshot
  total : ℕ
  counts : List (SegmentStatus × ℕ)
  readyForTracking : Bool
  readyForNoProcessableTargets : Bool
  failure : Option FailureView
  createdAt : Timestamp
  updatedAt : Timestamp
  segments : List SegmentView

/-- The status part of `_review_projection`. -/
structure ReviewView where
  reviewRef : String
  status : ReviewStatus
  stateRevision : ℕ

/-- What an operation answers, as its receipt keeps it. -/
inductive Reply
  | job (view : JobView)
  | segment (view : SegmentView)
  | review (view : ReviewView)
  | reset (retiredJobCount releasedSourceClipCount : ℕ)
  | linked (kind : LinkKind)

/-- A row of `annotation_jobs`, with its calibration snapshot. -/
structure JobRow where
  jobRef : String
  datasetDate : String
  status : JobStatus
  completionOutcome : Option String
  stateRevision : ℕ
  reservedBytes : ℕ
  cancelRequested : Bool
  cancelRequestedAt : Option Timestamp
  calibration : CalibrationSnapshot
  stagingRoot : Option String
  failureCode : Option String
  failureMessage : Option String
  failureRef : Option String
  privateFailureDetail : Option String
  failureRetryable : Bool
  createdAt : Timestamp
  updatedAt : Timestamp
  deriving DecidableEq

/-- A row of `annotation_job_source_clips`. -/
structure ClipRow where
  jobRef : String
  ordinal : ℕ
  sourceClip : String

/-- A row of `annotation_source_leases`. -/
structure SourceLeaseRow where
  datasetDate : String
  sourceClip : String
  jobRef : String
  acquiredAt : Timestamp

/-- A row of `annotation_segments`. -/
structure SegmentRow where
  segmentRef : String
  jobRef : String
  ordinal : ℕ
  sourceClip : String
  status : SegmentStatus
  stateRevision : ℕ
  draftRevision : ℕ
  submittedRevision : Option ℕ
  privateSegmentKey : String
  firstFrameWidth : ℤ
  firstFrameHeight : ℤ
  skipReasonCode : Option String
  skipNote : Option String
  skipRestoreStatus : Option SegmentStatus
  skipRestoreSubmittedRevision : Option ℕ
  createdAt : Timestamp
  updatedAt : Timestamp

/-- A row of `initial_annotation_drafts`. -/
structure DraftRow where
  segmentRef : String
  draftRevision : ℕ
  targets : List DraftAnnotationTarget
  contentSha256 : String
  updatedAt : Timestamp

/-- A row of `initial_annotation_revisions`. -/
structure RevisionRow where
  segmentRef : String
  revisionNumber : ℕ
  targets : List DraftAnnotationTarget
  contentSha256 : String
  createdAt : Timestamp

/-- A row of `runtime_runs`. -/
structure RunRow where
  runRef : String
  jobRef : String
  kind : RunKind
  status : RunStatus
  attempt : ℕ
  workerId : Option String
  startedAt : Option Timestamp
  finishedAt : Option Timestamp
  failureCode : Option String
  failureMessage : Option String
  failureRef : Option String
  privateFailureDetail : Option String
  createdAt : Timestamp
  updatedAt : Timestamp

/-- A row of `runtime_run_steps`. -/
structure StepRow where
  runRef : String
  ordinal : ℕ
  safeStepCode : String
  status : StepStatus
  artifactSha256 : Option String
  returnCode : Option ℤ
  diagnosticRef : Option String
  createdAt : Timestamp
  updatedAt : Timestamp

/-- A row of `runtime_leases`. -/
structure RuntimeLeaseRow where
  leaseKey : String
  runRef : String
  workerId : String
  expiresAt : Timestamp
  acquiredAt : Timestamp
  ownerEpoch : Option String

/-- A row of `tracking_checkpoints`. -/
structure CheckpointRow where
  jobRef : String
  segmentRef : String
  targetRef : String
  revisionSha256 : String
  runRef : String
  identity : String
  outputDir : String
  pointsPath : String
  artifactSha256 : String
  createdAt : Timestamp

/-- A row of `postprocessing_specs`. -/
structure SpecRow where
  jobRef : String
  specRef : String
  spec : PostprocessingSpec
  createdAt : Timestamp

/-- A row of `trajectory_revisions`. -/
structure TrajectoryRow where
  revisionRef : String
  jobRef : String
  segmentRef : String
  revisionNumber : ℕ
  contentSha256 : String
  artifactPath : String
  compatibilityPath : String
  artifactSha256 : String
  state : String
  artifactManifestRef : String
  createdAt : Timestamp

/-- A row of `trajectory_review_tasks`. -/
structure ReviewRow where
  reviewRef : String
  trajectoryRef : String
  status : ReviewStatus
  stateRevision : ℕ
  activeFixDraft : Option String
  approvedFixRevision : Option String
  fixFailureCode : Option String
  fixFailureMessage : Option String
  fixFailureRef : Option String
  fixFailureRetryable : Bool
  createdAt : Timestamp
  updatedAt : Timestamp

/-- A row of `fix_drafts`, with its calibration snapshot. -/
structure FixDraftRow where
  draftRef : String
  reviewRef : String
  calibration : CalibrationSnapshot
  differenceReason : Option String
  baseTrajectoryRef : String
  draftRevision : ℕ
  originalState : String
  state : String
  contentSha256 : String
  createdAt : Timestamp
  updatedAt : Timestamp

/-- A row of `runtime_run_review_links`. -/
structure FixLinkRow where
  runRef : String
  reviewRef : String
  fixDraftRef : String
  sourceDraftRevision : ℕ
  plannedRevisionRef : String
  plannedRevisionNumber : ℕ
  createdAt : Timestamp

structure FixRevisionRow where
  revisionRef : String
  reviewRef : String
  revisionNumber : ℕ
  baseTrajectoryRef : String
  sourceDraftRevision : ℕ
  state : String
  contentSha256 : String
  artifactPath : String
  artifactSha256 : String
  artifactManifestRef : String
  runRef : String
  createdAt : Timestamp

/-- A row of `compatibility_publications`. -/
structure PublicationRow where
  publicationRef : String
  reviewRef : String
  fixRevisionRef : String
  attempt : ℕ
  status : PublicationStatus
  contentSha256 : Option String
  artifactPath : Option String
  artifactManifestRef : Option String
  failureCode : Option String
  failureRef : Option String
  createdAt : Timestamp

/-- A row of `runtime_run_publication_links`. -/
structure PublicationLinkRow where
  runRef : String
  publicationRef : String
  reviewRef : String
  createdAt : Timestamp

/-- A row of `workflow_handoffs`. -/
structure HandoffRow where
  handoffRef : String
  jobRef : String
  reviewRef : Option String
  kind : HandoffKind
  payload : HandoffPayload
  createdAt : Timestamp

inductive DeliveryStatus
  | running
  | delivered
  | retry
  deriving DecidableEq

/-- A row of `workflow_handoff_deliveries`. -/
structure DeliveryRow where
  handoffRef : String
  status : DeliveryStatus
  workerId : String
  attempts : ℕ
  leaseExpiresAt : Option Timestamp
  lastError : Option String
  updatedAt : Timestamp

/-- A row of `annotation_task_links`. -/
structure TaskLinkRow where
  linkRef : String
  jobRef : String
  reviewRef : Option String
  navigationTaskRef : String
  parentNavigationTaskRef : Option String
  linkKind : LinkKind
  createdAt : Timestamp

/-- A row of `annotation_processing_authorities`. -/
structure AuthorityRow where
  jobRef : String
  linkRef : String
  revision : ℕ
  updatedAt : Timestamp

/-- A row of `workflow_handoff_processing_links`. -/
structure ProcessingLinkRow where
  handoffRef : String
  linkRef : String
  createdAt : Timestamp

/-- A row of `annotation_mutation_receipts`. -/
structure ReceiptRow where
  idempotencyKey : String
  request : Request
  response : Reply
  actorKind : ActorKind
  createdAt : Timestamp

instance : Keyed JobRow String := ⟨JobRow.jobRef⟩
instance : Keyed ClipRow (String × String) := ⟨fun r => (r.jobRef, r.sourceClip)⟩
instance : Keyed SourceLeaseRow (String × String) := ⟨fun r => (r.datasetDate, r.sourceClip)⟩
instance : Keyed SegmentRow String := ⟨SegmentRow.segmentRef⟩
instance : Keyed DraftRow String := ⟨DraftRow.segmentRef⟩
instance : Keyed RevisionRow (String × ℕ) := ⟨fun r => (r.segmentRef, r.revisionNumber)⟩
instance : Keyed RunRow String := ⟨RunRow.runRef⟩
instance : Keyed StepRow (String × ℕ) := ⟨fun r => (r.runRef, r.ordinal)⟩
instance : Keyed RuntimeLeaseRow String := ⟨RuntimeLeaseRow.leaseKey⟩
instance : Keyed CheckpointRow (String × String × String × String) :=
  ⟨fun r => (r.jobRef, r.segmentRef, r.targetRef, r.revisionSha256)⟩
instance : Keyed SpecRow String := ⟨SpecRow.jobRef⟩
instance : Keyed TrajectoryRow String := ⟨TrajectoryRow.revisionRef⟩
instance : Keyed ReviewRow String := ⟨ReviewRow.reviewRef⟩
instance : Keyed FixDraftRow String := ⟨FixDraftRow.draftRef⟩
instance : Keyed FixLinkRow String := ⟨FixLinkRow.runRef⟩
instance : Keyed FixRevisionRow String := ⟨FixRevisionRow.revisionRef⟩
instance : Keyed PublicationRow String := ⟨PublicationRow.publicationRef⟩
instance : Keyed PublicationLinkRow String := ⟨PublicationLinkRow.runRef⟩
instance : Keyed HandoffRow String := ⟨HandoffRow.handoffRef⟩
instance : Keyed DeliveryRow String := ⟨DeliveryRow.handoffRef⟩
instance : Keyed TaskLinkRow String := ⟨TaskLinkRow.linkRef⟩
instance : Keyed AuthorityRow String := ⟨AuthorityRow.jobRef⟩
instance : Keyed ProcessingLinkRow String := ⟨ProcessingLinkRow.handoffRef⟩
instance : Keyed ReceiptRow String := ⟨ReceiptRow.idempotencyKey⟩

/-- A quarantine or active marker file, known by its name and its random token. -/
structure Marker where
  name : String
  token : String
  deriving DecidableEq

/-- `disposition` of `operator_confirm_recovery` -/
inductive Disposition
  | retry
  | abandon
  deriving DecidableEq

structure RecoveryRequest where
  disposition : Disposition
  jobRef : String
  expectedJobRevision : ℕ
  operatorReference : PyStr
  globalQuarantineActionRef : String
  deriving DecidableEq

/-- A row of `annotation_operator_actions`. -/
structure OperatorActionRow where
  idempotencyKey : String
  request : RecoveryRequest
  response : JobView
  createdAt : Timestamp

/-- A row of `writer_quarantine_actions`. -/
structure QuarantineActionRow where
  idempotencyKey : String
  actionRef : String
  operatorReference : PyStr
  expectedMarkers : List Marker
  createdAt : Timestamp

/-- A row of `writer_quarantine_action_completions`. -/
structure CompletionRow where
  actionRef : String
  markerWasPresent : Bool
  completedAt : Timestamp

/-- A row of `writer_quarantine_action_recoveries`. -/
structure RecoveryRow where
  actionRef : String
  failureRef : String

instance : Keyed OperatorActionRow String := ⟨OperatorActionRow.idempotencyKey⟩
instance : Keyed QuarantineActionRow String := ⟨QuarantineActionRow.idempotencyKey⟩
instance : Keyed CompletionRow String := ⟨CompletionRow.actionRef⟩
instance : Keyed RecoveryRow (String × String) := ⟨fun r => (r.actionRef, r.failureRef)⟩

/-- The tables of the workflow itself: its jobs, segments and runs, and what they own. -/
structure Workflow where
  jobs : Table JobRow
  clips : Table ClipRow
  sourceLeases : Table SourceLeaseRow
  segments : Table SegmentRow
  drafts : Table DraftRow
  revisions : Table RevisionRow
  runs : Table RunRow
  runtimeLeases : Table RuntimeLeaseRow
  publications : Table PublicationRow
  handoffs : Table HandoffRow

structure Database extends Workflow where
  steps : Table StepRow
  checkpoints : Table CheckpointRow
  specs : Table SpecRow
  trajectories : Table TrajectoryRow
  reviews : Table ReviewRow
  fixDrafts : Table FixDraftRow
  fixLinks : Table FixLinkRow
  fixRevisions : Table FixRevisionRow
  publicationLinks : Table PublicationLinkRow
  deliveries : Table DeliveryRow
  taskLinks : Table TaskLinkRow
  authorities : Table AuthorityRow
  processingLinks : Table ProcessingLinkRow
  receipts : Table ReceiptRow
  operatorActions : Table OperatorActionRow
  quarantineActions : Table QuarantineActionRow
  completions : Table CompletionRow
  recoveries : Table RecoveryRow
  releasedDates : List String
  historicalDates : List String

def Database.initial : Database where
  jobs := .empty
  clips := .empty
  sourceLeases := .empty
  segments := .empty
  revisions := .empty
  runs := .empty
  runtimeLeases := .empty
  reviews := .empty
  publications := .empty
  handoffs := .empty
  drafts := .empty
  steps := .empty
  checkpoints := .empty
  specs := .empty
  trajectories := .empty
  fixDrafts := .empty
  fixLinks := .empty
  fixRevisions := .empty
  publicationLinks := .empty
  deliveries := .empty
  taskLinks := .empty
  authorities := .empty
  processingLinks := .empty
  receipts := .empty
  operatorActions := .empty
  quarantineActions := .empty
  completions := .empty
  recoveries := .empty
  releasedDates := []
  historicalDates := []

end DataJuicer.Annotation

import DataJuicer.Annotation.Schema
import Mathlib.Data.List.Sort

/-! # Statements that several operations run

The private methods of the store by which its operations read and write: the rows of a job,
the projections, the runs that are queued and finished, the cancellation of a job and the
receipts of its mutations.
-/

namespace DataJuicer.Annotation

open Transaction

def jobRow (w : Workflow) (jobRef : String) : Except AnnotationError JobRow :=
  orRaise jobNotFound (w.jobs.find? jobRef)

def segmentsOf (w : Workflow) (jobRef : String) : List SegmentRow :=
  (w.segments.select fun s => s.jobRef = jobRef).insertionSort fun a b => a.ordinal ≤ b.ordinal

def segmentRow (w : Workflow) (jobRef segmentRef : String) : Except AnnotationError SegmentRow :=
  orRaise segmentNotFound ((w.segments.find? segmentRef).filter fun s => s.jobRef = jobRef)

def runningRun (w : Workflow) (runRef : String) : Except AnnotationError RunRow :=
  orRaise runNotRunning ((w.runs.find? runRef).filter fun r => r.status = .running)

def reviewRow (db : Database) (reviewRef : String) : Except AnnotationError ReviewRow :=
  orRaise reviewNotFound (db.reviews.find? reviewRef)

theorem jobRow_eq_ok {w : Workflow} {ref : String} {j : JobRow} :
    jobRow w ref = .ok j ↔ j ∈ w.jobs ∧ j.jobRef = ref := by
  simp only [jobRow, orRaise_eq_ok]
  exact Table.find?_eq_some_iff

theorem segmentRow_eq_ok {w : Workflow} {jobRef ref : String} {s : SegmentRow} :
    segmentRow w jobRef ref = .ok s ↔ (s ∈ w.segments ∧ s.segmentRef = ref) ∧
      s.jobRef = jobRef := by
  have h : w.segments.find? ref = some s ↔ s ∈ w.segments ∧ s.segmentRef = ref :=
    Table.find?_eq_some_iff
  simp only [segmentRow, orRaise_eq_ok, Option.filter_eq_some_iff, h, decide_eq_true_eq]

theorem runningRun_eq_ok {w : Workflow} {ref : String} {r : RunRow} :
    runningRun w ref = .ok r ↔ (r ∈ w.runs ∧ r.runRef = ref) ∧ r.status = .running := by
  have h : w.runs.find? ref = some r ↔ r ∈ w.runs ∧ r.runRef = ref := Table.find?_eq_some_iff
  simp only [runningRun, orRaise_eq_ok, Option.filter_eq_some_iff, h, decide_eq_true_eq]

def clipsOf (w : Workflow) (jobRef : String) : List String :=
  ((w.clips.select fun c => c.jobRef = jobRef).insertionSort fun a b =>
    a.ordinal ≤ b.ordinal).map ClipRow.sourceClip

/-- A cancelled job does not show the segments that its runtime was working on as active. -/
def projectedStatus (job : JobStatus) (s : SegmentRow) : SegmentStatus :=
  if s.status = .tracking ∧ job = .cancelled ∧ s.submittedRevision ≠ none then .submitted
  else s.status

/-- `_segment_projection` -/
def segmentView (db : Database) (includeDraft : Bool) (job : JobStatus) (s : SegmentRow) :
    SegmentView where
  segmentRef := s.segmentRef
  ordinal := s.ordinal
  sourceClip := s.sourceClip
  status := projectedStatus job s
  stateRevision := s.stateRevision
  draftRevision := if s.draftRevision = 0 then none else some s.draftRevision
  submittedRevision := s.submittedRevision
  frameSize := (s.firstFrameWidth, s.firstFrameHeight)
  draft := if includeDraft then
    (db.drafts.find? s.segmentRef).map fun d => (d.draftRevision, d.targets) else none
  skipReason := if includeDraft then
    (s.skipReasonCode.filter fun code => code ≠ "").map fun code => (code, s.skipNote) else none

def allStatuses : List SegmentStatus :=
  [SegmentStatus.pendingInitialAnnotation, .draft, .submitted, .skipped, .tracking, .tracked,
    .postprocessing,
    .annotated, .postprocessingFailed]

def countOf (segments : List SegmentView) (status : SegmentStatus) : ℕ :=
  (segments.filter fun s => s.status = status).length

/-- `ready_for_tracking` of `_job_projection`. -/
def readyForTracking (job : JobStatus) (segments : List SegmentView) : Bool :=
  job = JobStatus.waitingInitialAnnotation ∧
    (0 < segments.length ∧
      countOf segments .submitted + countOf segments .skipped = segments.length) ∧
    0 < countOf segments .submitted

/-- `_job_projection` of a job's row. -/
def jobView (db : Database) (job : JobRow) : JobView :=
  let segments := (segmentsOf db.toWorkflow job.jobRef).map (segmentView db false job.status)
  { jobRef := job.jobRef
    datasetDate := job.datasetDate
    sourceClips := clipsOf db.toWorkflow job.jobRef
    status := job.status
    completionOutcome := job.completionOutcome
    cancelRequested := job.cancelRequested
    stateRevision := job.stateRevision
    calibration := job.calibration
    total := segments.length
    counts := allStatuses.map fun s => (s, countOf segments s)
    readyForTracking := readyForTracking job.status segments
    readyForNoProcessableTargets := job.status = JobStatus.waitingInitialAnnotation ∧
      0 < segments.length ∧ countOf segments .skipped = segments.length
    failure := (job.failureCode.filter fun code => code ≠ "").map fun code =>
      ⟨code, job.failureMessage, job.failureRetryable, job.failureRef⟩
    createdAt := job.createdAt
    updatedAt := job.updatedAt
    segments }

def jobProjection (db : Database) (jobRef : String) : Except AnnotationError JobView := do
  let job ← jobRow db.toWorkflow jobRef
  return jobView db job

/-- `_segment_projection` of a segment that is read again, with its draft. -/
def segmentProjection (db : Database) (jobRef segmentRef : String) :
    Except AnnotationError SegmentView := do
  let job ← jobRow db.toWorkflow jobRef
  let segment ← segmentRow db.toWorkflow jobRef segmentRef
  return segmentView db true job.status segment

/-- The status part of `_review_projection`. -/
def reviewProjection (db : Database) (reviewRef : String) : Except AnnotationError ReviewView := do
  let review ← reviewRow db reviewRef
  return ⟨review.reviewRef, review.status, review.stateRevision⟩

namespace Workflow

variable (now : Timestamp) (jobRef runRef : String) (w : Workflow)

/-- `UPDATE annotation_jobs … WHERE id = ?`; the revision is one more. -/
def setJob (f : JobRow → JobRow) (hf : ∀ j, (f j).jobRef = j.jobRef := by exact fun _ => rfl) :
    Workflow :=
  { w with jobs := w.jobs.update (fun j => j.jobRef = jobRef) (fun j =>
      { f j with stateRevision := j.stateRevision + 1, updatedAt := now }) hf }

def touchJob : Workflow := w.setJob now jobRef id

/-- `UPDATE annotation_segments SET status = ? WHERE job_id = ? AND status IN (…)` -/
def moveSegments (pre : SegmentStatus → Prop) [DecidablePred pre] (status : SegmentStatus) :
    Workflow :=
  { w with segments := w.segments.update (fun s => s.jobRef = jobRef ∧ pre s.status) fun s =>
      { s with status, stateRevision := s.stateRevision + 1, updatedAt := now } }

def nextAttempt (kind : RunKind) : ℕ :=
  ((w.runs.select fun r => r.jobRef = jobRef ∧ r.kind = kind).map RunRow.attempt).foldr max 0 + 1

def enqueueRun (kind : RunKind) : Except AnnotationError Workflow := do
  let runs ← orRaise (.integrity "runtime_runs.run_ref") (w.runs.insert?
    { runRef, jobRef, kind
      status := .queued
      attempt := w.nextAttempt jobRef kind
      workerId := none
      startedAt := none
      finishedAt := none
      failureCode := none
      failureMessage := none
      failureRef := none
      privateFailureDetail := none
      createdAt := now
      updatedAt := now })
  return { w with runs }

/-- `DELETE FROM runtime_leases WHERE run_id = ?` -/
def dropRuntimeLease : Workflow :=
  { w with runtimeLeases := w.runtimeLeases.delete fun l => l.runRef = runRef }

def finishRun (status : RunStatus) : Workflow :=
  { w with
    runs := w.runs.update (fun r => r.runRef = runRef) fun r =>
      { r with status, finishedAt := some now, updatedAt := now }
    runtimeLeases := w.runtimeLeases.delete fun l => l.runRef = runRef }

def finalizeCancelledJob (completionOutcome : String) : Workflow :=
  { w.setJob now jobRef fun j =>
      { j with
        status := .cancelled
        completionOutcome := some completionOutcome
        cancelRequested := false
        cancelRequestedAt := none } with
    sourceLeases := w.sourceLeases.delete fun l => l.jobRef = jobRef }

def activeRun? : Option RunRow :=
  (w.runs.select fun r => r.jobRef = jobRef ∧ r.status = .running).head?

def lastRun? : Option RunRow := (w.runs.select fun r => r.jobRef = jobRef).getLast?

/-- `UPDATE runtime_runs SET status = 'cancelled' WHERE job_id = ? AND status = 'queued'` -/
def cancelQueuedRuns : Workflow :=
  { w with runs := w.runs.update (fun r => r.jobRef = jobRef ∧ r.status = .queued) fun r =>
      { r with status := .cancelled, finishedAt := some now, updatedAt := now } }

end Workflow

def cannotReleaseScope : AnnotationError :=
  .runtime "cannot release a source scope while its Runtime is active"

def publicationInProgress : AnnotationError :=
  .conflict "postprocessing_publication_in_progress"
    "Postprocessing publication has started and can no longer be cancelled."

/-- The fence that `begin_postprocessing_publication` records. -/
def PublicationFence (db : Database) (runRef : String) : Prop :=
  ∃ s ∈ db.steps, s.runRef = runRef ∧ s.safeStepCode = "compatibility_publish"

instance (db : Database) (runRef : String) : Decidable (PublicationFence db runRef) := by
  unfold PublicationFence
  infer_instance

def cancelJobIn (now : Timestamp) (jobRef completionOutcome : String)
    (requestRuntimeCancel : Bool) (db : Database) : Except AnnotationError Database := do
  let w := db.toWorkflow.cancelQueuedRuns now jobRef
  match db.toWorkflow.activeRun? jobRef with
  | some active => do
    raiseIf (requestRuntimeCancel = false) cannotReleaseScope
    raiseIf (active.kind = .postprocessing ∧ PublicationFence db active.runRef)
      publicationInProgress
    return { db with toWorkflow := w.setJob now jobRef fun j =>
      { j with cancelRequested := true, cancelRequestedAt := some now } }
  | none => return { db with toWorkflow := w.finalizeCancelledJob now jobRef completionOutcome }

/-- The rows that the trigger `workflow_handoffs_pin_processing_authority` inserts. -/
def pinProcessingAuthority (handoff : HandoffRow) (db : Database) :
    Except AnnotationError (Table ProcessingLinkRow) :=
  match db.authorities.find? handoff.jobRef with
  | some authority =>
    if handoff.kind.Processing then
      orRaise (.integrity "workflow_handoff_processing_links.handoff_id")
        (db.processingLinks.insert? ⟨handoff.handoffRef, authority.linkRef, handoff.createdAt⟩)
    else return db.processingLinks
  | none => return db.processingLinks

/-- `INSERT INTO workflow_handoffs`, with the trigger. -/
def insertHandoff (handoff : HandoffRow) (db : Database) : Except AnnotationError Database := do
  let handoffs ← orRaise (.integrity "workflow_handoffs.handoff_ref")
    (db.handoffs.insert? handoff)
  let processingLinks ← pinProcessingAuthority handoff db
  return { db with handoffs, processingLinks }

def mutate (now : Timestamp) (idempotencyKey : String) (request : Request) (actorKind : ActorKind)
    (callback : Database → Except AnnotationError (Reply × Database)) (db : Database) :
    Except AnnotationError (Reply × Database) := do
  raiseIf (idempotencyKey.length = 0 ∨ 200 < idempotencyKey.length) invalidIdempotencyKey
  match db.receipts.find? idempotencyKey with
  | some receipt => do
    raiseIf (receipt.request ≠ request) idempotencyKeyReused
    return (receipt.response, db)
  | none => do
    let (response, db') ← callback db
    let receipts ← orRaise (.integrity "annotation_mutation_receipts.idempotency_key")
      (db'.receipts.insert? ⟨idempotencyKey, request, response, actorKind, now⟩)
    return (response, { db' with receipts })

/-- A mutation that answers replays its receipt, or runs its callback and leaves a receipt. -/
theorem mutate_eq_ok {now : Timestamp} {key : String} {request : Request} {actor : ActorKind}
    {callback : Database → Except AnnotationError (Reply × Database)} {db : Database}
    {x : Reply × Database} (h : mutate now key request actor callback db = .ok x) :
    x.2 = db ∨ db.receipts.find? key = none ∧
      ∃ db₁ receipts, callback db = .ok (x.1, db₁) ∧ x.2 = { db₁ with receipts } := by
  obtain ⟨_, -, h⟩ := bind_eq_ok.1 h
  cases hf : db.receipts.find? key with
  | some receipt =>
    rw [hf] at h
    obtain ⟨_, -, h⟩ := bind_eq_ok.1 h
    exact .inl (congrArg Prod.snd (Except.ok.inj h).symm)
  | none =>
    rw [hf] at h
    obtain ⟨⟨rep, db₁⟩, hcall, h⟩ := bind_eq_ok.1 h
    obtain ⟨receipts, -, h⟩ := bind_eq_ok.1 h
    obtain rfl := Except.ok.inj h
    exact .inr ⟨rfl, db₁, receipts, hcall, rfl⟩

end DataJuicer.Annotation

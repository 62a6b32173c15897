import DataJuicer.Annotation.Statements

/-! # Initial annotation of the segments

The mutations of one segment of a job that waits for its initial annotation: the draft, its
submission as an immutable revision, and skip, unskip and reopen.
-/

namespace DataJuicer.Annotation

open Transaction

def mutableWaitingJob (w : Workflow) (jobRef : String) : Except AnnotationError JobRow := do
  let job ← jobRow w jobRef
  raiseIf (job.status ≠ JobStatus.waitingInitialAnnotation) invalidJobAction
  return job

/-- `UPDATE annotation_segments … WHERE id = ?`; the revision is one more. -/
def Workflow.setSegment (now : Timestamp) (segmentRef : String) (w : Workflow)
    (f : SegmentRow → SegmentRow)
    (hf : ∀ s, (f s).segmentRef = s.segmentRef := by exact fun _ => rfl) : Workflow :=
  { w with segments := w.segments.update (fun s => s.segmentRef = segmentRef) (fun s =>
      { f s with stateRevision := s.stateRevision + 1, updatedAt := now }) hf }

structure SaveDraft where
  jobRef : String
  segmentRef : String
  expectedSegmentRevision : ℕ
  expectedDraftRevision : Option ℕ
  targets : List DraftAnnotationTarget

def segmentNotEditable : AnnotationError :=
  .conflict "segment_not_editable" "This segment cannot be edited in its current state."

def draftChanged (before : String) : AnnotationError :=
  .conflict "draft_revision_conflict"
    ("The annotation draft changed; refresh before " ++ before ++ ".")

/-- `draft_revision` as the requests give it. -/
def SegmentRow.draftRevision? (s : SegmentRow) : Option ℕ :=
  if s.draftRevision = 0 then none else some s.draftRevision

/-- `INSERT … ON CONFLICT(segment_id) DO UPDATE` -/
def upsertDraft (draft : DraftRow) (drafts : Table DraftRow) : Table DraftRow :=
  (drafts.insert? draft).getD (drafts.update (fun d => d.segmentRef = draft.segmentRef) fun d =>
    { draft with segmentRef := d.segmentRef })

/-- The callback of `save_draft`. -/
def saveDraftIn (now : Timestamp) (q : SaveDraft) (db : Database) :
    Except AnnotationError (Reply × Database) := do
  let _ ← mutableWaitingJob db.toWorkflow q.jobRef
  let segment ← segmentRow db.toWorkflow q.jobRef q.segmentRef
  raiseIf (segment.stateRevision ≠ q.expectedSegmentRevision) segmentRevisionConflict
  raiseIf (segment.status ≠ SegmentStatus.pendingInitialAnnotation ∧ segment.status ≠ .draft)
    segmentNotEditable
  raiseIf (segment.draftRevision? ≠ q.expectedDraftRevision) (draftChanged "saving")
  let nextDraft := q.expectedDraftRevision.getD 0 + 1
  let w := (db.toWorkflow.setSegment now q.segmentRef fun s =>
    { s with
      status := .draft
      draftRevision := nextDraft
      submittedRevision := none }).touchJob now q.jobRef
  let drafts := upsertDraft ⟨q.segmentRef, nextDraft, q.targets, targetsSha256 q.targets, now⟩
    db.drafts
  let db := { db with toWorkflow := { w with drafts } }
  return (.segment (← segmentProjection db q.jobRef q.segmentRef), db)

def saveDraft (now : Timestamp) (q : SaveDraft) (idempotencyKey : String) (db : Database) :
    Except AnnotationError (Reply × Database) :=
  mutate now idempotencyKey (.saveDraft q.jobRef q.segmentRef q.expectedSegmentRevision
    q.expectedDraftRevision q.targets) .manualWeb (saveDraftIn now q) db

structure SubmitSegment where
  jobRef : String
  segmentRef : String
  expectedSegmentRevision : ℕ
  expectedDraftRevision : ℕ

def annotationIncomplete (message : String) : AnnotationError :=
  .validation "annotation_incomplete" message

def coordinatesOutOfBounds : AnnotationError :=
  .validation "annotation_coordinates_out_of_bounds"
    "Annotation coordinates must remain inside the first frame."

def DraftAnnotationTarget.modelValidate (t : DraftAnnotationTarget) :
    Except AnnotationError Unit :=
  raiseIf (t.invalidFields ≠ []) (.invalidModel "DraftAnnotationTarget" t.invalidFields)

/-- The checks of `_validate_submission` on one target. -/
def validateTarget (width height : ℤ) (t : DraftAnnotationTarget) :
    Except AnnotationError Unit := do
  t.modelValidate
  let incomplete := annotationIncomplete
    "Every target requires a bounding box and foreground point."
  let (x, y, boxWidth, boxHeight) ← orRaise incomplete t.bbox
  let (pointX, pointY) ← orRaise incomplete t.point
  raiseIf (t.colors.upper = none ∨ t.colors.lower = none ∨ t.colors.shoes = none)
    (annotationIncomplete "Every target requires upper, lower, and shoes colors.")
  raiseIf (boxWidth < 0 ∨ boxHeight < 0 ∨ x < 0 ∨ y < 0 ∨ width < x + boxWidth ∨
      height < y + boxHeight ∨ pointX < 0 ∨ pointY < 0 ∨ width ≤ pointX ∨ height ≤ pointY)
    coordinatesOutOfBounds

def validateSubmission (segment : SegmentRow) (targets : List DraftAnnotationTarget) :
    Except AnnotationError Unit := do
  raiseIf (targets = []) (annotationIncomplete "At least one target is required.")
  targets.forM (validateTarget segment.firstFrameWidth segment.firstFrameHeight)

/-- `COALESCE(MAX(revision_number), 0) + 1` -/
def Workflow.nextRevision (w : Workflow) (segmentRef : String) : ℕ :=
  ((w.revisions.select fun r => r.segmentRef = segmentRef).map RevisionRow.revisionNumber).foldr
    max 0 + 1

def Workflow.segmentCount (w : Workflow) (jobRef : String) (p : SegmentStatus → Prop)
    [DecidablePred p] : ℕ :=
  w.segments.rowcount fun s => s.jobRef = jobRef ∧ p s.status

/-- Every segment of the job is submitted or skipped, and one is submitted. -/
def Workflow.Resolved (w : Workflow) (jobRef : String) : Prop :=
  w.segmentCount jobRef (fun s => s ≠ .submitted ∧ s ≠ .skipped) = 0 ∧
    0 < w.segmentCount jobRef (· = .submitted)

instance (w : Workflow) (jobRef : String) : Decidable (w.Resolved jobRef) := by
  unfold Workflow.Resolved
  infer_instance

def Workflow.Emitted (w : Workflow) (jobRef : String) (kind : HandoffKind) : Prop :=
  ∃ h ∈ w.handoffs, h.jobRef = jobRef ∧ h.kind = kind

instance (w : Workflow) (jobRef : String) (kind : HandoffKind) :
    Decidable (w.Emitted jobRef kind) := by
  unfold Workflow.Emitted
  infer_instance

/-- The handoff to Tracking, unless it was emitted before. -/
def emitSubmitted (now : Timestamp) (handoffRef jobRef : String) (db : Database) :
    Except AnnotationError Database :=
  if db.toWorkflow.Resolved jobRef ∧ ¬ db.toWorkflow.Emitted jobRef .initialAnnotationSubmitted then
    insertHandoff
      ⟨handoffRef, jobRef, none, .initialAnnotationSubmitted,
        .submitted jobRef (db.toWorkflow.segmentCount jobRef (· = .submitted))
          (db.toWorkflow.segmentCount jobRef (· = .skipped)), now⟩ db
  else return db

/-- The callback of `submit_segment`. -/
def submitSegmentIn (now : Timestamp) (q : SubmitSegment) (handoffRef : String) (db : Database) :
    Except AnnotationError (Reply × Database) := do
  let _ ← mutableWaitingJob db.toWorkflow q.jobRef
  let segment ← segmentRow db.toWorkflow q.jobRef q.segmentRef
  raiseIf (segment.stateRevision ≠ q.expectedSegmentRevision) segmentRevisionConflict
  raiseIf (segment.draftRevision ≠ q.expectedDraftRevision) (draftChanged "submitting")
  let draft ← orRaise
    (annotationIncomplete "Save a complete initial annotation before submitting.")
    (db.drafts.find? q.segmentRef)
  validateSubmission segment draft.targets
  let revisionNumber := db.toWorkflow.nextRevision q.segmentRef
  let revisions ← orRaise (.integrity "initial_annotation_revisions.segment_id")
    (db.revisions.insert? ⟨q.segmentRef, revisionNumber, draft.targets, draft.contentSha256, now⟩)
  let w := ({ db.toWorkflow with revisions }.setSegment now q.segmentRef fun s =>
    { s with status := .submitted, submittedRevision := some revisionNumber }).touchJob now
      q.jobRef
  let db ← emitSubmitted now handoffRef q.jobRef { db with toWorkflow := w }
  return (.segment (← segmentProjection db q.jobRef q.segmentRef), db)

def submitSegment (now : Timestamp) (q : SubmitSegment) (handoffRef idempotencyKey : String)
    (db : Database) : Except AnnotationError (Reply × Database) :=
  mutate now idempotencyKey (.submitSegment q.jobRef q.segmentRef q.expectedSegmentRevision
    q.expectedDraftRevision) .manualWeb (submitSegmentIn now q handoffRef) db

structure SegmentRequest where
  operation : SegmentAction
  jobRef : String
  segmentRef : String
  expectedSegmentRevision : ℕ
  reasonCode : Option String
  note : Option String

/-- What `segment_action` writes to the segment. -/
structure SegmentTarget where
  status : SegmentStatus
  submittedRevision : Option ℕ
  skipReasonCode : Option String
  skipNote : Option String
  skipRestoreStatus : Option SegmentStatus
  skipRestoreSubmittedRevision : Option ℕ

/-- The branches of `segment_action`. -/
def segmentTarget (segment : SegmentRow) (q : SegmentRequest) :
    Except AnnotationError SegmentTarget :=
  match q.operation with
  | .reopen => do
    raiseIf (segment.status ≠ .submitted) invalidSegmentAction
    return ⟨.draft, none, none, none, none, none⟩
  | .skip => do
    raiseIf (¬ segment.status.Restorable) invalidSegmentAction
    return ⟨.skipped, none, q.reasonCode, q.note, some segment.status,
      if segment.status = .submitted then segment.submittedRevision else none⟩
  | .unskip => do
    raiseIf (segment.status ≠ .skipped) invalidSegmentAction
    let next ← orRaise (.runtime "skipped segment lacks a restore state")
      (segment.skipRestoreStatus.filter SegmentStatus.Restorable)
    let revision := if next = .submitted then segment.skipRestoreSubmittedRevision else none
    raiseIf (next = .submitted ∧ revision = none)
      (.runtime "submitted restore state lacks a revision")
    return ⟨next, revision, none, none, none, none⟩

/-- The callback of `segment_action`. -/
def segmentActionIn (now : Timestamp) (q : SegmentRequest) (db : Database) :
    Except AnnotationError (Reply × Database) := do
  let _ ← mutableWaitingJob db.toWorkflow q.jobRef
  let segment ← segmentRow db.toWorkflow q.jobRef q.segmentRef
  raiseIf (segment.stateRevision ≠ q.expectedSegmentRevision) segmentRevisionConflict
  let target ← segmentTarget segment q
  let w := (db.toWorkflow.setSegment now q.segmentRef fun s =>
    { s with
      status := target.status
      submittedRevision := target.submittedRevision
      skipReasonCode := target.skipReasonCode
      skipNote := target.skipNote
      skipRestoreStatus := target.skipRestoreStatus
      skipRestoreSubmittedRevision := target.skipRestoreSubmittedRevision }).touchJob now q.jobRef
  let db := { db with toWorkflow := w }
  return (.segment (← segmentProjection db q.jobRef q.segmentRef), db)

def segmentAction (now : Timestamp) (q : SegmentRequest) (idempotencyKey : String)
    (db : Database) : Except AnnotationError (Reply × Database) :=
  mutate now idempotencyKey (.segmentAction q.operation q.jobRef q.segmentRef
    q.expectedSegmentRevision q.reasonCode q.note) .manualWeb (segmentActionIn now q) db

end DataJuicer.Annotation

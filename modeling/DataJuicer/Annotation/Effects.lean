import DataJuicer.Annotation.Operations

/-! # The effects of operations on the workflow

What a committed operation can do to the jobs, segments and runs, with the guards under which
it does it. The invariants of the workflow are shown for each effect; that every step of the
system has such effects is shown once.
-/

namespace DataJuicer.Annotation

open Transaction

/-- What the conditions of the invariants need to know of an operation. -/
inductive Change
  | nothing
  | submit (segmentRef : String)
  | act (operation : SegmentAction) (segmentRef : String)
  | fail (q : RunFailure)
  | stop (q : RunFailure)
  | finish (runRef : String)
  | renew (runRef workerId : String) (leaseMs : ℕ)
  | restart (jobRef : String) (confirmed : Bool)
  | abandon (jobRef : String)
  | queue (jobRef : String)
  | publish (jobRef fixRevisionRef : String)
  | reset (datasetDate : String)
  | other

inductive Change.Starts (jobRef : String) : Change → Prop
  | restart (confirmed : Bool) : Starts jobRef (.restart jobRef confirmed)
  | queue : Starts jobRef (.queue jobRef)
  | publish (fixRevisionRef : String) : Starts jobRef (.publish jobRef fixRevisionRef)

def Workflow.queuedRun (now : Timestamp) (jobRef runRef : String) (kind : RunKind)
    (w : Workflow) : RunRow where
  runRef := runRef
  jobRef := jobRef
  kind := kind
  status := .queued
  attempt := w.nextAttempt jobRef kind
  workerId := none
  startedAt := none
  finishedAt := none
  failureCode := none
  failureMessage := none
  failureRef := none
  privateFailureDetail := none
  createdAt := now
  updatedAt := now

def Queued (now : Timestamp) (jobRef runRef : String) (kind : RunKind) (w w' : Workflow) : Prop :=
  ∃ runs, w.runs.insert? (w.queuedRun now jobRef runRef kind) = some runs ∧ w' = { w with runs }

theorem enqueueRun_eq_ok {now : Timestamp} {jobRef runRef : String} {kind : RunKind}
    {w w' : Workflow} :
    w.enqueueRun now jobRef runRef kind = .ok w' ↔ Queued now jobRef runRef kind w w' := by
  unfold Workflow.enqueueRun Queued
  simp only [bind_eq_ok, orRaise_eq_ok, Workflow.queuedRun]
  constructor
  · rintro ⟨runs, hruns, hw⟩
    exact ⟨runs, hruns, (Except.ok.inj hw).symm⟩
  · rintro ⟨runs, hruns, rfl⟩
    exact ⟨runs, hruns, rfl⟩

/-- A handoff is emitted, and nothing else. -/
def Emits (handoff : HandoffRow) (w w' : Workflow) : Prop :=
  ∃ handoffs, w.handoffs.insert? handoff = some handoffs ∧ w' = { w with handoffs }

structure WaitingSegment (w : Workflow) (jobRef segmentRef : String) (s : SegmentRow) : Prop where
  waiting : ∃ j ∈ w.jobs, j.jobRef = jobRef ∧ j.status = JobStatus.waitingInitialAnnotation
  mem : s ∈ w.segments
  ref : s.segmentRef = segmentRef
  ofJob : s.jobRef = jobRef

/-- What `save_draft` writes to the workflow. -/
def Workflow.draftSegment (now : Timestamp) (jobRef : String) (draft : DraftRow)
    (w : Workflow) : Workflow :=
  { (w.setSegment now draft.segmentRef fun s =>
      { s with
        status := .draft
        draftRevision := draft.draftRevision
        submittedRevision := none }).touchJob now jobRef with
    drafts := upsertDraft draft w.drafts }

/-- What `submit_segment` writes to the workflow before it emits the handoff. -/
def Workflow.submitAs (now : Timestamp) (jobRef segmentRef : String) (revisionNumber : ℕ)
    (w : Workflow) : Workflow :=
  (w.setSegment now segmentRef fun s =>
    { s with status := .submitted, submittedRevision := some revisionNumber }).touchJob now jobRef

/-- What `segment_action` writes to the workflow. -/
def Workflow.actOn (now : Timestamp) (jobRef segmentRef : String) (t : SegmentTarget)
    (w : Workflow) : Workflow :=
  (w.setSegment now segmentRef
    (fun s => { s with
      status := t.status
      submittedRevision := t.submittedRevision
      skipReasonCode := t.skipReasonCode
      skipNote := t.skipNote
      skipRestoreStatus := t.skipRestoreStatus
      skipRestoreSubmittedRevision := t.skipRestoreSubmittedRevision })
    fun s => Table.key_self s).touchJob now jobRef

def Workflow.submittedHandoff (now : Timestamp) (handoffRef jobRef : String) (w : Workflow) :
    HandoffRow where
  handoffRef := handoffRef
  jobRef := jobRef
  reviewRef := none
  kind := .initialAnnotationSubmitted
  payload := .submitted jobRef (w.segmentCount jobRef (· = .submitted))
    (w.segmentCount jobRef (· = .skipped))
  createdAt := now

/-- The handoff to Tracking is emitted when it is due. -/
def SubmittedEmission (now : Timestamp) (handoffRef jobRef : String) (w w' : Workflow) : Prop :=
  if w.Resolved jobRef ∧ ¬ w.Emitted jobRef .initialAnnotationSubmitted then
    Emits (w.submittedHandoff now handoffRef jobRef) w w'
  else w' = w

structure RunOf (w : Workflow) (r : RunRow) (j : JobRow) : Prop where
  run : r ∈ w.runs
  job : j ∈ w.jobs
  ref : j.jobRef = r.jobRef

def RunKind.StartsIn (s : JobStatus) : RunKind → Prop
  | .prepare => s = .preparing
  | .tracking => s = .tracking
  | .postprocessing => s = .postprocessing
  | .fix => s = .annotated
  | .compatibilityPublish => s = .annotated

def Idle (w : Workflow) (jobRef : String) : Prop :=
  ∀ r ∈ w.runs, r.jobRef = jobRef → r.status ≠ .running

def Workflow.startRun (now : Timestamp) (runRef workerId : String)
    (runtimeLeases : Table RuntimeLeaseRow) (w : Workflow) : Workflow :=
  { w with
    runtimeLeases
    runs := w.runs.update (fun r => r.runRef = runRef) fun r =>
      { r with
        status := .running
        workerId := some workerId
        startedAt := some now
        updatedAt := now } }

/-- The publication of a claimed run is running. -/
def Workflow.startPublication (publicationRef : String) (w : Workflow) : Workflow :=
  w.setPublication publicationRef (fun p => { p with status := .running })
    fun p => Table.key_self p

def Workflow.failPublication (publicationRef code failureRef : String) (w : Workflow) : Workflow :=
  w.setPublication publicationRef fun p =>
    { p with status := .failed, failureCode := some code, failureRef := some failureRef }

/-- The leases that are left at this time. -/
def Workflow.unexpiredLeases (now : Timestamp) (w : Workflow) : Table RuntimeLeaseRow :=
  w.runtimeLeases.delete fun l => l.expiresAt ≤ now

/-- What `renew_run_lease` writes. -/
def Workflow.renewLease (runRef workerId : String) (expiresAt : Timestamp) (w : Workflow) :
    Workflow :=
  let Mine (l : RuntimeLeaseRow) : Prop := l.runRef = runRef ∧ l.workerId = workerId
  { w with runtimeLeases := w.runtimeLeases.update Mine fun l => { l with expiresAt } }

/-- No running run has lost its lease, as this epoch sees it. -/
def NoneInterrupted (now : Timestamp) (epoch : Option String) (w : Workflow) : Prop :=
  ∀ r ∈ w.runs, r.status = .running → ¬ LeaseLost now epoch w r.runRef

/-- A failure is that of a `fail_run`, or of a run that is running. -/
def FailsBy (a : Change) (q : RunFailure) (r : RunRow) : Prop :=
  a = .fail q ∨ a = .stop q ∧ r.status = .running

/-- A run is closed for its cancelled job when it is completed, or fails with an ordinary code. -/
def ClosesBy (a : Change) (r : RunRow) : Prop :=
  a = .finish r.runRef ∨
    ∃ q, (a = .fail q ∨ a = .stop q) ∧ q.runRef = r.runRef ∧ q.code ≠ recoveryRequired

inductive Effect (now : Timestamp) : Workflow → Change → Workflow → Prop
  | same (w : Workflow) (a : Change) : Effect now w a w
  | created {w w₁ w₂ : Workflow} {c : JobCreation} {runRef : String} {jobs : Table JobRow}
      (free : ¬ ScopeTaken w c.datasetDate c.sourceClips)
      (job : w.jobs.insert? (c.row now) = some jobs)
      (clips : insertClips now c 1 c.sourceClips { w with jobs } = .ok w₁)
      (run : Queued now c.jobRef runRef .prepare w₁ w₂) : Effect now w .other w₂
  | drafted {w : Workflow} {jobRef : String} {s : SegmentRow} (draft : DraftRow)
      (segment : WaitingSegment w jobRef draft.segmentRef s)
      (editable : s.status = SegmentStatus.pendingInitialAnnotation ∨ s.status = .draft) :
      Effect now w .other (w.draftSegment now jobRef draft)
  | submitted {w w' : Workflow} {jobRef segmentRef handoffRef : String} {s : SegmentRow}
      {draft : DraftRow} {revisions : Table RevisionRow}
      (segment : WaitingSegment w jobRef segmentRef s) (drafted : draft ∈ w.drafts)
      (draftRef : draft.segmentRef = segmentRef)
      (revision : w.revisions.insert? ⟨segmentRef, w.nextRevision segmentRef, draft.targets,
        draft.contentSha256, now⟩ = some revisions)
      (emission : SubmittedEmission now handoffRef jobRef
        ({ w with revisions }.submitAs now jobRef segmentRef (w.nextRevision segmentRef)) w') :
      Effect now w (.submit segmentRef) w'
  | acted {w : Workflow} {q : SegmentRequest} {s : SegmentRow} {t : SegmentTarget}
      (segment : WaitingSegment w q.jobRef q.segmentRef s) (target : segmentTarget s q = .ok t) :
      Effect now w (.act q.operation q.segmentRef) (w.actOn now q.jobRef q.segmentRef t)
  | trackingStarted {w w' : Workflow} {j : JobRow} {runRef : String} (job : j ∈ w.jobs)
      (waiting : j.status = JobStatus.waitingInitialAnnotation)
      (resolved : ∀ s ∈ w.segments, s.jobRef = j.jobRef →
        s.status = .submitted ∨ s.status = .skipped)
      (processable : ∃ s ∈ w.segments, s.jobRef = j.jobRef ∧ s.status ≠ .skipped)
      (run : Queued now j.jobRef runRef .tracking
        ((w.setJob now j.jobRef fun j => { j with status := .tracking }).moveSegments now j.jobRef
          (· = .submitted) .tracking) w') : Effect now w .other w'
  | cancelled {w : Workflow} {j : JobRow} (outcome : String) (job : j ∈ w.jobs)
      (status : j.status ≠ .tracked ∧ j.status ≠ .annotated ∧ j.status ≠ .cancelled)
      (ordinary : ¬ j.Quarantined) (idle : Idle w j.jobRef) :
      Effect now w .other
        ((w.cancelQueuedRuns now j.jobRef).finalizeCancelledJob now j.jobRef outcome)
  | abandoned {w : Workflow} {j : JobRow} (outcome : String) (job : j ∈ w.jobs)
      (quarantined : j.Quarantined) (idle : Idle w j.jobRef) :
      Effect now w (.abandon j.jobRef)
        ((w.cancelQueuedRuns now j.jobRef).finalizeCancelledJob now j.jobRef outcome)
  | cancelRequested {w : Workflow} {j : JobRow} (job : j ∈ w.jobs)
      (status : j.status ≠ .tracked ∧ j.status ≠ .annotated ∧ j.status ≠ .cancelled)
      (ordinary : ¬ j.Quarantined) (active : ¬ Idle w j.jobRef) :
      Effect now w .other ((w.cancelQueuedRuns now j.jobRef).setJob now j.jobRef fun j =>
        { j with cancelRequested := true, cancelRequestedAt := some now })
  | retried {w w' : Workflow} {j : JobRow} {runRef : String} (job : j ∈ w.jobs)
      (failed : j.status = .failed) (retryable : j.failureRetryable)
      (restart : w.restart now j.jobRef runRef = .ok w') :
      Effect now w (.restart j.jobRef false) w'
  | recovered {w w' : Workflow} {j : JobRow} {runRef : String} (job : j ∈ w.jobs)
      (quarantined : j.Quarantined) (idle : Idle w j.jobRef)
      (restart : w.restart now j.jobRef runRef = .ok w') :
      Effect now w (.restart j.jobRef true) w'
  | postprocessingStarted {w w' : Workflow} {j : JobRow} {runRef : String} (job : j ∈ w.jobs)
      (tracked : j.status = .tracked)
      (ready : ∀ s ∈ w.segments, s.jobRef = j.jobRef → s.status = .tracked ∨ s.status = .skipped)
      (run : Queued now j.jobRef runRef .postprocessing
        ((w.moveSegments now j.jobRef (· = .tracked) .postprocessing).setJob now j.jobRef
          fun j => { j with status := .postprocessing }) w') : Effect now w (.queue j.jobRef) w'
  | fixQueued {w w' : Workflow} {jobRef runRef : String}
      (run : Queued now jobRef runRef .fix w w') : Effect now w (.queue jobRef) w'
  | publicationQueued {w w' : Workflow} {jobRef runRef : String} {p : PublicationRow}
      {publications : Table PublicationRow}
      (run : Queued now jobRef runRef .compatibilityPublish w w') (queued : p.status = .queued)
      (failureCode : p.failureCode = none)
      (publication : w.publications.insert? p = some publications) :
      Effect now w (.publish jobRef p.fixRevisionRef) { w' with publications }
  | prepared {w w' : Workflow} {r : RunRow} {j : JobRow} {handoff : HandoffRow}
      {stagingRoot : String} {items : List PreparedSegment} {segmentRef : ℕ → String}
      {segments : Table SegmentRow} (run : RunOf w r j) (running : r.status = .running)
      (preparing : j.status = .preparing) (nonempty : items ≠ [])
      (inserted : insertSegments now r.jobRef segmentRef 1 items w.segments = .ok segments)
      (ready : handoff.kind = .initialAnnotationReady)
      (emits : Emits handoff ({ w with segments }.setJob now r.jobRef fun j =>
        { j with status := JobStatus.waitingInitialAnnotation, stagingRoot := some stagingRoot })
          w') :
      Effect now w (.finish r.runRef) (w'.finishRun now r.runRef .succeeded)
  | closed {w : Workflow} {a : Change} {r : RunRow} {j : JobRow} (by' : ClosesBy a r)
      (run : RunOf w r j) (running : r.status = .running) (cancelling : j.Cancelling) :
      Effect now w a (w.closeCancelled now r.runRef r.jobRef)
  | tracked {w w' : Workflow} {r : RunRow} {j : JobRow} {handoff : HandoffRow} (run : RunOf w r j)
      (running : r.status = .running) (tracking : j.status = .tracking)
      (completed : handoff.kind = .trackingCompleted)
      (emits : Emits handoff ((w.moveSegments now r.jobRef (· = .tracking) .tracked).setJob now
        r.jobRef fun j => { j with status := .tracked, reservedBytes := 0 }) w') :
      Effect now w (.finish r.runRef) (w'.finishRun now r.runRef .succeeded)
  | postprocessed {w w₁ w₂ : Workflow} {r : RunRow} {j : JobRow} {ready completed : HandoffRow}
      (run : RunOf w r j) (kind : r.kind = .postprocessing) (active : r.status.Open)
      (postprocessing : j.status = .postprocessing) (readyKind : ready.kind = .fixReady)
      (completedKind : completed.kind = .postprocessingCompleted)
      (emitsReady : Emits ready ((w.moveSegments now r.jobRef (· = .postprocessing)
        .annotated).setJob now r.jobRef fun j =>
          { j with status := .annotated, completionOutcome := some "postprocessing_complete" }) w₁)
      (emitsCompleted : Emits completed w₁ w₂) :
      Effect now w (.finish r.runRef) (w₂.finishRun now r.runRef .succeeded)
  | fixed {w w' : Workflow} {r : RunRow} {handoff : HandoffRow} (run : r ∈ w.runs)
      (running : r.status = .running) (kind : r.kind = .fix) (submitted : handoff.kind.Fix)
      (emits : Emits handoff w w') :
      Effect now w (.finish r.runRef) (w'.finishRun now r.runRef .succeeded)
  | published {w w' : Workflow} {r : RunRow} {handoff : HandoffRow} {publicationRef : String}
      {f : PublicationRow → PublicationRow} (key : ∀ p, (f p).publicationRef = p.publicationRef)
      (run : r ∈ w.runs) (running : r.status = .running) (kind : r.kind = .compatibilityPublish)
      (succeeded : ∀ p, (f p).status = .succeeded) (completed : handoff.kind.Fix)
      (emits : Emits handoff (w.setPublication publicationRef f key) w') :
      Effect now w (.finish r.runRef) (w'.finishRun now r.runRef .succeeded)
  | decided {w w' : Workflow} {handoff : HandoffRow} (kind : handoff.kind.Fix)
      (emits : Emits handoff w w') : Effect now w .other w'
  | publicationFailed {w : Workflow} {a : Change} {q : RunFailure} {failureRef : String}
      {r : RunRow} {j : JobRow} {p : PublicationRow} (by' : FailsBy a q r) (run : RunOf w r j)
      (ref : r.runRef = q.runRef) (kind : r.kind = .compatibilityPublish)
      (kept : ¬ (r.status = .failed ∧ r.failureCode = some recoveryRequired))
      (publication : p ∈ w.publications) (publishing : p.status = .running) :
      Effect now w a (((w.failRunRow now q failureRef).failPublication p.publicationRef q.code
        failureRef).dropRuntimeLease q.runRef)
  | fixFailed {w : Workflow} {a : Change} {q : RunFailure} {failureRef : String} {r : RunRow}
      {j : JobRow} (by' : FailsBy a q r) (run : RunOf w r j) (ref : r.runRef = q.runRef)
      (kind : r.kind = .fix)
      (kept : ¬ (r.status = .failed ∧ r.failureCode = some recoveryRequired)) :
      Effect now w a ((w.failRunRow now q failureRef).dropRuntimeLease q.runRef)
  | cancelledJobRunFailed {w : Workflow} {a : Change} {q : RunFailure} {failureRef : String}
      {r : RunRow} {j : JobRow} (by' : FailsBy a q r) (run : RunOf w r j)
      (ref : r.runRef = q.runRef) (cancelled : j.status = .cancelled)
      (kind : r.kind ≠ .fix ∧ r.kind ≠ .compatibilityPublish)
      (kept : ¬ (r.status = .failed ∧ r.failureCode = some recoveryRequired)) :
      Effect now w a ((w.failRunRow now q failureRef).dropRuntimeLease q.runRef)
  | jobRunFailed {w : Workflow} {a : Change} {q : RunFailure} {failureRef : String}
      {r : RunRow} {j : JobRow} (by' : FailsBy a q r) (run : RunOf w r j)
      (ref : r.runRef = q.runRef) (uncancelled : j.status ≠ .cancelled)
      (kind : r.kind = .prepare ∨ r.kind = .tracking)
      (kept : ¬ (r.status = .failed ∧ r.failureCode = some recoveryRequired)) :
      Effect now w a (((w.failRunRow now q failureRef).failJob now q failureRef
        r.jobRef).dropRuntimeLease q.runRef)
  | postprocessingFailed {w w' : Workflow} {a : Change} {q : RunFailure} {failureRef : String}
      {r : RunRow} {j : JobRow} (by' : FailsBy a q r) (run : RunOf w r j)
      (ref : r.runRef = q.runRef) (uncancelled : j.status ≠ .cancelled)
      (kind : r.kind = .postprocessing)
      (kept : ¬ (r.status = .failed ∧ r.failureCode = some recoveryRequired))
      (emission : w' = ((w.failRunRow now q failureRef).failJob now q failureRef
          r.jobRef).moveSegments now r.jobRef (· = .postprocessing) .postprocessingFailed ∨
        ∃ handoff : HandoffRow, handoff.kind = .postprocessingFailed ∧
          Emits handoff (((w.failRunRow now q failureRef).failJob now q failureRef
            r.jobRef).moveSegments now r.jobRef (· = .postprocessing) .postprocessingFailed) w') :
      Effect now w a (w'.dropRuntimeLease q.runRef)
  | claimed {w w' : Workflow} {r : RunRow} {j : JobRow} {epoch : Option String}
      {lease : RuntimeLeaseRow} {runtimeLeases : Table RuntimeLeaseRow} (run : RunOf w r j)
      (queued : r.status = .queued) (startable : r.kind.StartsIn j.status)
      (uninterrupted : NoneInterrupted now epoch w) (unquarantined : ¬ HasRecoveryQuarantine w)
      (leaseKey : lease.leaseKey = writerLeaseKey) (leaseRun : lease.runRef = r.runRef)
      (leased : (w.unexpiredLeases now).insert? lease = some runtimeLeases)
      (publication : w' = w.startRun now r.runRef lease.workerId runtimeLeases ∨
        r.kind = .compatibilityPublish ∧ ∃ publicationRef, w' =
          (w.startRun now r.runRef lease.workerId runtimeLeases).startPublication publicationRef) :
      Effect now w .other w'
  | leasesExpired {w : Workflow} {epoch : Option String}
      (uninterrupted : NoneInterrupted now epoch w) :
      Effect now w .other { w with runtimeLeases := w.unexpiredLeases now }
  | renewed {w : Workflow} (runRef workerId : String) (leaseMs : ℕ) :
      Effect now w (.renew runRef workerId leaseMs) (w.renewLease runRef workerId (now + leaseMs))
  | reset {w : Workflow} {datasetDate : String}
      (quiet : ∀ j ∈ w.jobs, LeasedIn w datasetDate j.jobRef → ¬ BusyStatus j.status)
      (closed : ∀ r ∈ w.runs, LeasedIn w datasetDate r.jobRef → ¬ r.status.Open) :
      Effect now w (.reset datasetDate)
        { w with sourceLeases := w.sourceLeases.delete fun l => l.datasetDate = datasetDate }

end DataJuicer.Annotation

import DataJuicer.Annotation.Effects

/-! # Calls have their effects

For each call of the store, the effect that it has on the workflow when it commits, and the
guards that it gets past then. No call changes the audit of the operator's actions.
-/

namespace DataJuicer.Annotation

open Transaction

/-- `submit_segment` is not a replay and gets past its guards. -/
structure SubmitAccepted (db : Database) (q : SubmitSegment) (key : String) : Prop where
  fresh : db.receipts.find? key = none
  job : ∃ j, mutableWaitingJob db.toWorkflow q.jobRef = .ok j
  segment : ∃ s d, segmentRow db.toWorkflow q.jobRef q.segmentRef = .ok s ∧
    s.stateRevision = q.expectedSegmentRevision ∧ s.draftRevision = q.expectedDraftRevision ∧
      db.drafts.find? q.segmentRef = some d ∧ validateSubmission s d.targets = .ok ()

/-- `segment_action` is not a replay and gets past its guards. -/
structure ActAccepted (db : Database) (q : SegmentRequest) (key : String) : Prop where
  fresh : db.receipts.find? key = none
  job : ∃ j, mutableWaitingJob db.toWorkflow q.jobRef = .ok j
  segment : ∃ s t, segmentRow db.toWorkflow q.jobRef q.segmentRef = .ok s ∧
    s.stateRevision = q.expectedSegmentRevision ∧ segmentTarget s q = .ok t

/-- `retry_job` is not a replay and gets past its guards. -/
structure RetryAccepted (db : Database) (q : JobRequest) (key : String) : Prop where
  fresh : db.receipts.find? key = none
  job : ∃ j, expectedJob db.toWorkflow q.jobRef q.expectedJobRevision = .ok j ∧
    j.status = .failed ∧ j.failureRetryable

/-- `begin_postprocessing` is not a replay and gets past its guards. -/
structure PostprocessingAccepted (db : Database) (q : PostprocessingRequest) (key : String) :
    Prop where
  fresh : db.receipts.find? key = none
  job : ∃ j, expectedJob db.toWorkflow q.jobRef q.expectedJobRevision = .ok j ∧ j.status = .tracked
  inputs : (∃ s ∈ db.toWorkflow.statuses q.jobRef, s = .tracked) ∧
    ∀ s ∈ db.toWorkflow.statuses q.jobRef, s = .tracked ∨ s = .skipped
  variant : q.spec.trajectoryVariant = q.spec.localizationKind.variant
  authority : requireAuthority db q.jobRef q.processingNavigationTaskRef = .ok ()
  spec : db.specs.find? q.jobRef = none

/-- `create_fix_revision` for a review of this job is not a replay and gets past its guards. -/
structure FixAccepted (db : Database) (q : FixRevisionRequest) (key jobRef : String) : Prop where
  fresh : db.receipts.find? key = none
  review : ∃ r d, expectedReview db q.reviewRef q.expectedReviewRevision = .ok r ∧
    r.status = .inProgress ∧ activeDraft db r = .ok d ∧ d.draftRevision = q.expectedDraftRevision ∧
      reviewJob? db r = some jobRef
  idle : ¬ ∃ l ∈ db.fixLinks, l.reviewRef = q.reviewRef ∧
    ∃ r ∈ db.runs, r.runRef = l.runRef ∧ r.kind = .fix ∧ r.status.Open

/-- `approve_fix_revision` of a revision of this job is not a replay and gets past its guards. -/
structure ApproveAccepted (db : Database) (q : ApproveRequest) (key jobRef : String) : Prop where
  fresh : db.receipts.find? key = none
  idle : ¬ FixRunActive db q.reviewRef
  review : ∃ r f, expectedReview db q.reviewRef q.expectedReviewRevision = .ok r ∧
    (r.status = .inProgress ∨ r.status = .returned) ∧
      db.fixRevisions.find? q.fixRevisionRef = some f ∧ f.reviewRef = q.reviewRef ∧
        fixRevisionJob? db f = some jobRef ∧
          (r.activeFixDraft.bind fun d => db.fixDrafts.find? d).map FixDraftRow.draftRevision =
            some f.sourceDraftRevision
  unpublished : ¬ ∃ p ∈ db.publications, p.reviewRef = q.reviewRef ∧ p.status.Open

/-- `retry_compatibility_publication` for this job is not a replay and gets past its guards. -/
structure RepublishAccepted (db : Database) (q : RetryPublication)
    (key jobRef fixRevisionRef : String) : Prop where
  fresh : db.receipts.find? key = none
  review : ∃ r p f, expectedReview db q.reviewRef q.expectedReviewRevision = .ok r ∧
    r.status = .approved ∧ latestPublication? db.toWorkflow q.reviewRef = some p ∧
      p.status = .failed ∧ p.fixRevisionRef = fixRevisionRef ∧
        r.approvedFixRevision = some fixRevisionRef ∧
          db.fixRevisions.find? fixRevisionRef = some f ∧ fixRevisionJob? db f = some jobRef

/-- `fail_run` of a publication that has ended gets past its guards while it is published. -/
structure FailAccepted (db : Database) (q : RunFailure) : Prop where
  publishing : ∀ r ∈ db.runs, r.runRef = q.runRef → r.status ≠ .running →
    ¬ (r.status = .failed ∧ r.failureCode = some recoveryRequired) →
      r.kind = .compatibilityPublish → ∃ l p, db.publicationLinks.find? r.runRef = some l ∧
        db.publications.find? l.publicationRef = some p ∧ p.status = .running

def StoreCall.completes? (db : Database) : StoreCall → Option String
  | .completePrepare q _ => some q.runRef
  | .completeTracking runRef _ _ | .completeCancelledRun runRef
  | .completePostprocessingRun runRef _ _ _ _ => some runRef
  | .completePostprocessing q _ _ =>
    (postprocessingRun? db.toWorkflow q.jobRef).map RunRow.runRef
  | .completeFixRun q => some q.runRef
  | .completeCompatibilityPublication q => some q.runRef
  | _ => none

def StoreCall.run? (db : Database) : StoreCall → Option String
  | .failRun q _ => some q.runRef
  | .renewRunLease runRef _ _ => some runRef
  | c => c.completes? db

inductive StoreCall.Makes (db : Database) : StoreCall → Change → Prop
  | submit {q ref key} (accepted : SubmitAccepted db q key) :
      Makes db (.submitSegment q ref key) (.submit q.segmentRef)
  | act {q key} (accepted : ActAccepted db q key) :
      Makes db (.segmentAction q key) (.act q.operation q.segmentRef)
  | fail {q refs} (accepted : FailAccepted db q) : Makes db (.failRun q refs) (.fail q)
  | finish {c runRef} (completes : c.completes? db = some runRef) : Makes db c (.finish runRef)
  | renew (runRef workerId leaseMs) :
      Makes db (.renewRunLease runRef workerId leaseMs) (.renew runRef workerId leaseMs)
  | noSegments (q refs) : Makes db (.completePrepare q refs) (.stop (noSegmentsPrepared q.runRef))
  | badSegments (q refs) : Makes db (.completePrepare q refs) (.stop (invalidPreparation q.runRef))
  | retry {q runRef key} (accepted : RetryAccepted db q key) :
      Makes db (.retryJob q runRef key) (.restart q.jobRef false)
  | postprocess {q specRef runRef key} (accepted : PostprocessingAccepted db q key) :
      Makes db (.beginPostprocessing q specRef runRef key) (.queue q.jobRef)
  | fix {q runRef revisionRef key jobRef} (accepted : FixAccepted db q key jobRef) :
      Makes db (.createFixRevision q runRef revisionRef key) (.queue jobRef)
  | approve {q refs key jobRef} (accepted : ApproveAccepted db q key jobRef) :
      Makes db (.approveFixRevision q refs key) (.publish jobRef q.fixRevisionRef)
  | republish {q refs key jobRef fixRevisionRef}
      (accepted : RepublishAccepted db q key jobRef fixRevisionRef) :
      Makes db (.retryCompatibilityPublication q refs key) (.publish jobRef fixRevisionRef)
  | reset (datasetDate ref key) :
      Makes db (.resetUnreleasedDataset datasetDate ref key) (.reset datasetDate)
  | nothing (c) : Makes db c .nothing
  | other {c} (unnamed : c.run? db = none) : Makes db c .other

def Database.audit (db : Database) :
    Table QuarantineActionRow × Table CompletionRow × Table RecoveryRow × Table OperatorActionRow :=
  (db.quarantineActions, db.completions, db.recoveries, db.operatorActions)

/-- The call has one of its effects, and the audit stays. -/
def Performs (now : Timestamp) (db : Database) (c : StoreCall) (db' : Database) : Prop :=
  (∃ a, c.Makes db a ∧ Effect now db.toWorkflow a db'.toWorkflow) ∧ db'.audit = db.audit

theorem Performs.quiet {now : Timestamp} {db db' : Database} (c : StoreCall)
    (hw : db'.toWorkflow = db.toWorkflow) (ha : db'.audit = db.audit) : Performs now db c db' :=
  ⟨⟨.nothing, .nothing c, hw ▸ .same _ _⟩, ha⟩

theorem Performs.of_mutate {now : Timestamp} {key : String} {request : Request} {actor : ActorKind}
    {callback : Database → Except AnnotationError (Reply × Database)} {db db' : Database}
    {c : StoreCall} (h : (mutate now key request actor callback db).map Prod.snd = .ok db')
    (hcall : ∀ rep db₁, db.receipts.find? key = none → callback db = .ok (rep, db₁) →
      Performs now db c db₁) : Performs now db c db' := by
  cases hm : mutate now key request actor callback db with
  | error e =>
    rw [hm] at h
    cases h
  | ok x =>
    rw [hm] at h
    obtain rfl : x.2 = db' := Except.ok.inj h
    rcases mutate_eq_ok hm with hx | ⟨hkey, db₁, receipts, hc, hx⟩
    · exact .quiet c (by rw [hx]) (by rw [hx])
    · obtain ⟨heffect, haudit⟩ := hcall _ _ hkey hc
      rw [hx]
      exact ⟨heffect, haudit⟩

variable {now : Timestamp} {db db' : Database}

theorem mutableWaitingJob_ok {w : Workflow} {jobRef : String} {j : JobRow}
    (h : mutableWaitingJob w jobRef = .ok j) :
    j ∈ w.jobs ∧ j.jobRef = jobRef ∧ j.status = JobStatus.waitingInitialAnnotation := by
  obtain ⟨j', hj, h⟩ := bind_eq_ok.1 h
  obtain ⟨_, hstatus, h⟩ := bind_eq_ok.1 h
  obtain rfl := Except.ok.inj h
  have hstatus := raiseIf_eq_ok.1 hstatus
  obtain ⟨hmem, href⟩ := jobRow_eq_ok.1 hj
  exact ⟨hmem, href, not_not.1 hstatus⟩

theorem waitingSegment_of {w : Workflow} {jobRef segmentRef : String} {j : JobRow} {s : SegmentRow}
    (hj : mutableWaitingJob w jobRef = .ok j) (hs : segmentRow w jobRef segmentRef = .ok s) :
    WaitingSegment w jobRef segmentRef s := by
  obtain ⟨hmem, href, hwait⟩ := mutableWaitingJob_ok hj
  obtain ⟨⟨hseg, hsegRef⟩, hof⟩ := segmentRow_eq_ok.1 hs
  exact ⟨⟨j, hmem, href, hwait⟩, hseg, hsegRef, hof⟩

theorem saveDraft_performs {q : SaveDraft} {key : String}
    (h : (saveDraft now q key db).map Prod.snd = .ok db') :
    Performs now db (.saveDraft q key) db' := by
  refine .of_mutate h fun rep db₁ _ h => ?_
  obtain ⟨j, hj, h⟩ := bind_eq_ok.1 h
  obtain ⟨s, hs, h⟩ := bind_eq_ok.1 h
  obtain ⟨_, -, h⟩ := bind_eq_ok.1 h
  obtain ⟨_, hedit, h⟩ := bind_eq_ok.1 h
  obtain ⟨_, -, h⟩ := bind_eq_ok.1 h
  obtain ⟨v, -, h⟩ := bind_eq_ok.1 h
  obtain ⟨rfl, rfl⟩ := Prod.mk.inj (Except.ok.inj h)
  have hedit := raiseIf_eq_ok.1 hedit
  have hedit' : s.status = SegmentStatus.pendingInitialAnnotation ∨ s.status = .draft := by tauto
  exact ⟨⟨.other, .other rfl, .drafted ⟨q.segmentRef, _, q.targets, targetsSha256 q.targets, now⟩
    (waitingSegment_of hj hs) hedit'⟩, rfl⟩

theorem insertHandoff_ok {handoff : HandoffRow} (h : insertHandoff handoff db = .ok db') :
    Emits handoff db.toWorkflow db'.toWorkflow ∧ db'.audit = db.audit := by
  obtain ⟨handoffs, hins, h⟩ := bind_eq_ok.1 h
  obtain ⟨links, -, h⟩ := bind_eq_ok.1 h
  obtain rfl := Except.ok.inj h
  exact ⟨⟨handoffs, orRaise_eq_ok.1 hins, rfl⟩, rfl⟩

theorem emitSubmitted_ok {ref jobRef : String} (h : emitSubmitted now ref jobRef db = .ok db') :
    SubmittedEmission now ref jobRef db.toWorkflow db'.toWorkflow ∧ db'.audit = db.audit := by
  unfold emitSubmitted at h
  unfold SubmittedEmission
  split at h
  next hdue =>
    rw [if_pos hdue]
    exact insertHandoff_ok h
  next hdue =>
    rw [if_neg hdue]
    obtain rfl := Except.ok.inj h
    exact ⟨rfl, rfl⟩

theorem submitSegment_performs {q : SubmitSegment} {ref key : String}
    (h : (submitSegment now q ref key db).map Prod.snd = .ok db') :
    Performs now db (.submitSegment q ref key) db' := by
  refine .of_mutate h fun rep db₁ hkey h => ?_
  obtain ⟨j, hj, h⟩ := bind_eq_ok.1 h
  obtain ⟨s, hs, h⟩ := bind_eq_ok.1 h
  obtain ⟨_, hrev, h⟩ := bind_eq_ok.1 h
  obtain ⟨_, hdraftRev, h⟩ := bind_eq_ok.1 h
  obtain ⟨d, hdraft, h⟩ := bind_eq_ok.1 h
  obtain ⟨_, hvalid, h⟩ := bind_eq_ok.1 h
  obtain ⟨revisions, hins, h⟩ := bind_eq_ok.1 h
  obtain ⟨db₂, hemit, h⟩ := bind_eq_ok.1 h
  obtain ⟨v, -, h⟩ := bind_eq_ok.1 h
  obtain ⟨rfl, rfl⟩ := Prod.mk.inj (Except.ok.inj h)
  have haccepted : SubmitAccepted db q key :=
    ⟨hkey, ⟨j, hj⟩, s, d, hs, not_not.1 (raiseIf_eq_ok.1 hrev),
      not_not.1 (raiseIf_eq_ok.1 hdraftRev), orRaise_eq_ok.1 hdraft, hvalid⟩
  obtain ⟨hemission, haudit⟩ := emitSubmitted_ok hemit
  obtain ⟨hdraftMem, hdraftRef⟩ : d ∈ db.drafts ∧ d.segmentRef = q.segmentRef :=
    Table.find?_eq_some_iff.1 (orRaise_eq_ok.1 hdraft)
  exact ⟨⟨_, .submit haccepted, .submitted (waitingSegment_of hj hs) hdraftMem hdraftRef
    (orRaise_eq_ok.1 hins) hemission⟩, haudit⟩

theorem segmentAction_performs {q : SegmentRequest} {key : String}
    (h : (segmentAction now q key db).map Prod.snd = .ok db') :
    Performs now db (.segmentAction q key) db' := by
  refine .of_mutate h fun rep db₁ hkey h => ?_
  obtain ⟨j, hj, h⟩ := bind_eq_ok.1 h
  obtain ⟨s, hs, h⟩ := bind_eq_ok.1 h
  obtain ⟨_, hrev, h⟩ := bind_eq_ok.1 h
  obtain ⟨t, ht, h⟩ := bind_eq_ok.1 h
  obtain ⟨v, -, h⟩ := bind_eq_ok.1 h
  obtain ⟨rfl, rfl⟩ := Prod.mk.inj (Except.ok.inj h)
  have haccepted : ActAccepted db q key :=
    ⟨hkey, ⟨j, hj⟩, s, t, hs, not_not.1 (raiseIf_eq_ok.1 hrev), ht⟩
  exact ⟨⟨_, .act haccepted, .acted (waitingSegment_of hj hs) ht⟩, rfl⟩

theorem expectedJob_ok {w : Workflow} {jobRef : String} {revision : ℕ} {j : JobRow}
    (h : expectedJob w jobRef revision = .ok j) : j ∈ w.jobs ∧ j.jobRef = jobRef := by
  obtain ⟨j', hj, h⟩ := bind_eq_ok.1 h
  obtain ⟨_, -, h⟩ := bind_eq_ok.1 h
  obtain rfl := Except.ok.inj h
  exact jobRow_eq_ok.1 hj

theorem mem_statuses {w : Workflow} {jobRef : String} {x : SegmentStatus} :
    x ∈ w.statuses jobRef ↔ ∃ s ∈ w.segments, s.jobRef = jobRef ∧ s.status = x := by
  simp only [Workflow.statuses, List.mem_map, Table.mem_select, and_assoc]

theorem activeRun?_eq_none {w : Workflow} {jobRef : String} :
    w.activeRun? jobRef = none ↔ Idle w jobRef := by
  unfold Workflow.activeRun? Idle
  rw [List.head?_eq_none_iff, List.eq_nil_iff_forall_not_mem]
  simp only [Table.mem_select, not_and]

theorem createJob_performs {c : JobCreation} {runRef key : String}
    (h : (createJob now c runRef key db).map Prod.snd = .ok db') :
    Performs now db (.createJob c runRef key) db' := by
  refine .of_mutate h fun rep db₁ _ h => ?_
  obtain ⟨_, hfree, h⟩ := bind_eq_ok.1 h
  obtain ⟨jobs, hjobs, h⟩ := bind_eq_ok.1 h
  obtain ⟨w₁, hclips, h⟩ := bind_eq_ok.1 h
  obtain ⟨w₂, hrun, h⟩ := bind_eq_ok.1 h
  obtain ⟨v, -, h⟩ := bind_eq_ok.1 h
  obtain ⟨rfl, rfl⟩ := Prod.mk.inj (Except.ok.inj h)
  exact ⟨⟨.other, .other rfl, .created (raiseIf_eq_ok.1 hfree) (orRaise_eq_ok.1 hjobs) hclips
    (enqueueRun_eq_ok.1 hrun)⟩, rfl⟩

theorem startTracking_performs {q : JobRequest} {runRef key : String}
    (h : (startTracking now q runRef key db).map Prod.snd = .ok db') :
    Performs now db (.startTracking q runRef key) db' := by
  refine .of_mutate h fun rep db₁ _ h => ?_
  obtain ⟨j, hj, h⟩ := bind_eq_ok.1 h
  obtain ⟨_, hwait, h⟩ := bind_eq_ok.1 h
  obtain ⟨_, hresolved, h⟩ := bind_eq_ok.1 h
  obtain ⟨_, hprocessable, h⟩ := bind_eq_ok.1 h
  obtain ⟨w, hrun, h⟩ := bind_eq_ok.1 h
  obtain ⟨v, -, h⟩ := bind_eq_ok.1 h
  obtain ⟨rfl, rfl⟩ := Prod.mk.inj (Except.ok.inj h)
  obtain ⟨hmem, href⟩ := expectedJob_ok hj
  have hresolved := raiseIf_eq_ok.1 hresolved
  have hprocessable := raiseIf_eq_ok.1 hprocessable
  have hall : ∀ s ∈ db.segments, s.jobRef = j.jobRef →
      s.status = .submitted ∨ s.status = .skipped := by
    intro s hs hof
    by_contra hne
    exact hresolved (.inr ⟨s.status, mem_statuses.2 ⟨s, hs, hof.trans href, rfl⟩, by tauto⟩)
  have hsome : ∃ s ∈ db.segments, s.jobRef = j.jobRef ∧ s.status ≠ .skipped := by
    by_contra hnone
    apply hprocessable
    intro x hx
    obtain ⟨s, hs, hof, rfl⟩ := mem_statuses.1 hx
    by_contra hne
    exact hnone ⟨s, hs, hof.trans href.symm, hne⟩
  have hqueued := enqueueRun_eq_ok.1 hrun
  rw [← href] at hqueued
  exact ⟨⟨.other, .other rfl, .trackingStarted hmem (not_not.1 (raiseIf_eq_ok.1 hwait)) hall hsome
    hqueued⟩, rfl⟩

/-- What `_cancel_job` does to the workflow. -/
theorem cancelJobIn_ok {jobRef outcome : String} {requestRuntimeCancel : Bool}
    (h : cancelJobIn now jobRef outcome requestRuntimeCancel db = .ok db') :
    db'.audit = db.audit ∧
      (Idle db.toWorkflow jobRef ∧ db'.toWorkflow =
          (db.toWorkflow.cancelQueuedRuns now jobRef).finalizeCancelledJob now jobRef outcome ∨
        requestRuntimeCancel ∧ ¬ Idle db.toWorkflow jobRef ∧ db'.toWorkflow =
          (db.toWorkflow.cancelQueuedRuns now jobRef).setJob now jobRef fun j =>
            { j with cancelRequested := true, cancelRequestedAt := some now }) := by
  unfold cancelJobIn at h
  cases ha : db.toWorkflow.activeRun? jobRef with
  | none =>
    rw [ha] at h
    obtain rfl := Except.ok.inj h
    exact ⟨rfl, .inl ⟨activeRun?_eq_none.1 ha, rfl⟩⟩
  | some r =>
    rw [ha] at h
    obtain ⟨_, hrequest, h⟩ := bind_eq_ok.1 h
    obtain ⟨_, -, h⟩ := bind_eq_ok.1 h
    obtain rfl := Except.ok.inj h
    have hactive : ¬ Idle db.toWorkflow jobRef := by
      rw [← activeRun?_eq_none, ha]
      exact Option.some_ne_none r
    exact ⟨rfl, .inr ⟨by simpa using raiseIf_eq_ok.1 hrequest, hactive, rfl⟩⟩

theorem completeNoProcessableTargets_performs {q : JobRequest} {key : String}
    (h : (completeNoProcessableTargets now q key db).map Prod.snd = .ok db') :
    Performs now db (.completeNoProcessableTargets q key) db' := by
  refine .of_mutate h fun rep db₁ _ h => ?_
  obtain ⟨j, hj, h⟩ := bind_eq_ok.1 h
  obtain ⟨_, hwait, h⟩ := bind_eq_ok.1 h
  obtain ⟨_, -, h⟩ := bind_eq_ok.1 h
  obtain ⟨db₂, hcancel, h⟩ := bind_eq_ok.1 h
  obtain ⟨v, -, h⟩ := bind_eq_ok.1 h
  obtain ⟨rfl, rfl⟩ := Prod.mk.inj (Except.ok.inj h)
  obtain ⟨hmem, href⟩ := expectedJob_ok hj
  rw [← href] at hcancel
  have hwait : j.status = JobStatus.waitingInitialAnnotation := not_not.1 (raiseIf_eq_ok.1 hwait)
  obtain ⟨haudit, ⟨hidle, hw⟩ | ⟨hrequest, -⟩⟩ := cancelJobIn_ok hcancel
  · refine ⟨⟨.other, .other rfl, hw ▸ .cancelled _ hmem ?_ ?_ hidle⟩, haudit⟩
    · simp [hwait]
    · simp [JobRow.Quarantined, hwait]
  · cases hrequest

theorem cancelJob_performs {q : JobRequest} {key : String}
    (h : (cancelJob now q key db).map Prod.snd = .ok db') :
    Performs now db (.cancelJob q key) db' := by
  refine .of_mutate h fun rep db₁ _ h => ?_
  obtain ⟨j, hj, h⟩ := bind_eq_ok.1 h
  obtain ⟨_, hstatus, h⟩ := bind_eq_ok.1 h
  obtain ⟨_, hordinary, h⟩ := bind_eq_ok.1 h
  obtain ⟨db₂, hcancel, h⟩ := bind_eq_ok.1 h
  obtain ⟨v, -, h⟩ := bind_eq_ok.1 h
  obtain ⟨rfl, rfl⟩ := Prod.mk.inj (Except.ok.inj h)
  obtain ⟨hmem, href⟩ := expectedJob_ok hj
  rw [← href] at hcancel
  have hstatus : j.status ≠ .tracked ∧ j.status ≠ .annotated ∧ j.status ≠ .cancelled := by
    simpa only [not_or] using raiseIf_eq_ok.1 hstatus
  have hordinary := raiseIf_eq_ok.1 hordinary
  obtain ⟨haudit, ⟨hidle, hw⟩ | ⟨-, hactive, hw⟩⟩ := cancelJobIn_ok hcancel
  · exact ⟨⟨.other, .other rfl, hw ▸ .cancelled _ hmem hstatus hordinary hidle⟩, haudit⟩
  · exact ⟨⟨.other, .other rfl, hw ▸ .cancelRequested hmem hstatus hordinary hactive⟩, haudit⟩

theorem retryJob_performs {q : JobRequest} {runRef key : String}
    (h : (retryJob now q runRef key db).map Prod.snd = .ok db') :
    Performs now db (.retryJob q runRef key) db' := by
  refine .of_mutate h fun rep db₁ hkey h => ?_
  obtain ⟨j, hj, h⟩ := bind_eq_ok.1 h
  obtain ⟨_, hfailed, h⟩ := bind_eq_ok.1 h
  obtain ⟨w, hrestart, h⟩ := bind_eq_ok.1 h
  obtain ⟨v, -, h⟩ := bind_eq_ok.1 h
  obtain ⟨rfl, rfl⟩ := Prod.mk.inj (Except.ok.inj h)
  obtain ⟨hmem, href⟩ := expectedJob_ok hj
  obtain ⟨hfailed, hretryable⟩ : j.status = .failed ∧ j.failureRetryable := by
    have hnot := raiseIf_eq_ok.1 hfailed
    simpa using hnot
  have haccepted : RetryAccepted db q key := ⟨hkey, j, hj, hfailed, hretryable⟩
  refine ⟨⟨_, .retry haccepted, ?_⟩, rfl⟩
  rw [← href]
  exact .retried hmem hfailed hretryable (by rwa [href])

theorem beginPostprocessing_performs {q : PostprocessingRequest} {specRef runRef key : String}
    (h : (beginPostprocessing now q specRef runRef key db).map Prod.snd = .ok db') :
    Performs now db (.beginPostprocessing q specRef runRef key) db' := by
  refine .of_mutate h fun rep db₁ hkey h => ?_
  obtain ⟨j, hj, h⟩ := bind_eq_ok.1 h
  obtain ⟨_, htracked, h⟩ := bind_eq_ok.1 h
  obtain ⟨_, hinputs, h⟩ := bind_eq_ok.1 h
  obtain ⟨_, hvariant, h⟩ := bind_eq_ok.1 h
  obtain ⟨_, hauthority, h⟩ := bind_eq_ok.1 h
  obtain ⟨specs, hspec, h⟩ := bind_eq_ok.1 h
  obtain ⟨w, hrun, h⟩ := bind_eq_ok.1 h
  obtain ⟨v, -, h⟩ := bind_eq_ok.1 h
  obtain ⟨rfl, rfl⟩ := Prod.mk.inj (Except.ok.inj h)
  obtain ⟨hmem, href⟩ := expectedJob_ok hj
  have htracked : j.status = .tracked := not_not.1 (raiseIf_eq_ok.1 htracked)
  have hinputs := raiseIf_eq_ok.1 hinputs
  push Not at hinputs
  obtain ⟨hsome, hall⟩ := hinputs
  have hall' : ∀ s ∈ db.toWorkflow.statuses q.jobRef, s = .tracked ∨ s = .skipped := by
    intro s hs
    by_cases hne : s = .tracked
    · exact .inl hne
    · exact .inr (hall s hs hne)
  have haccepted : PostprocessingAccepted db q key :=
    ⟨hkey, ⟨j, hj, htracked⟩, ⟨hsome, hall'⟩, not_not.1 (raiseIf_eq_ok.1 hvariant), hauthority,
      Table.find?_eq_none_iff.2 fun r hr => Table.insert?_fresh (orRaise_eq_ok.1 hspec) r hr⟩
  have hready : ∀ s ∈ db.segments, s.jobRef = j.jobRef →
      s.status = .tracked ∨ s.status = .skipped := fun s hs hof =>
    hall' s.status (mem_statuses.2 ⟨s, hs, hof.trans href, rfl⟩)
  have hqueued := enqueueRun_eq_ok.1 hrun
  rw [← href] at hqueued
  refine ⟨⟨_, .postprocess haccepted, ?_⟩, rfl⟩
  rw [← href]
  exact .postprocessingStarted hmem htracked hready hqueued

end DataJuicer.Annotation

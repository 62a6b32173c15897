import DataJuicer.Annotation.SystemEffects
import DataJuicer.Lib.Postcondition

/-! # Receipts stay

The receipts of mutations are written by `mutate` alone and never deleted, so a call that is
repeated under its key finds its receipt whatever happened in between.
-/

namespace DataJuicer.Annotation

open Transaction

/-- The statement leaves the receipts alone. -/
abbrev KeepsReceipts (db : Database) (x : Except AnnotationError Database) : Prop :=
  Ensures x fun db' => db'.receipts = db.receipts

abbrev CallbackKeepsReceipts {α : Type} (db : Database)
    (x : Except AnnotationError (α × Database)) : Prop :=
  Ensures x fun r => r.2.receipts = db.receipts

section Frame

variable {now : Timestamp} {db : Database}

theorem insertHandoff_receipts (h : HandoffRow) : KeepsReceipts db (insertHandoff h db) :=
  .after fun _ => .after fun _ => .ret rfl

theorem cancelJobIn_receipts (jobRef outcome : String) (request : Bool) :
    KeepsReceipts db (cancelJobIn now jobRef outcome request db) := by
  unfold cancelJobIn
  dsimp only
  split
  · exact .after fun _ => .after fun _ => .ret rfl
  · exact .ret rfl

theorem createJobIn_receipts (c : JobCreation) (runRef : String) :
    CallbackKeepsReceipts db (createJobIn now c runRef db) :=
  .after fun _ => .after fun _ => .after fun _ => .after fun _ => .after fun _ => .ret rfl

theorem saveDraftIn_receipts (q : SaveDraft) : CallbackKeepsReceipts db (saveDraftIn now q db) :=
  .after fun _ => .after fun _ => .after fun _ => .after fun _ => .after fun _ => .after fun _ =>
    .ret rfl

theorem emitSubmitted_receipts (handoffRef jobRef : String) :
    KeepsReceipts db (emitSubmitted now handoffRef jobRef db) :=
  .ite (insertHandoff_receipts _) (.ret rfl)

theorem submitSegmentIn_receipts (q : SubmitSegment) (handoffRef : String) :
    CallbackKeepsReceipts db (submitSegmentIn now q handoffRef db) :=
  .after fun _ => .after fun _ => .after fun _ => .after fun _ => .after fun _ => .after fun _ =>
    .after fun _ => .bind (emitSubmitted_receipts _ _) fun _ h => .after fun _ => .ret h

theorem segmentActionIn_receipts (q : SegmentRequest) :
    CallbackKeepsReceipts db (segmentActionIn now q db) :=
  .after fun _ => .after fun _ => .after fun _ => .after fun _ => .after fun _ => .ret rfl

theorem startTrackingIn_receipts (q : JobRequest) (runRef : String) :
    CallbackKeepsReceipts db (startTrackingIn now q runRef db) :=
  .after fun _ => .after fun _ => .after fun _ => .after fun _ => .after fun _ => .after fun _ =>
    .ret rfl

theorem completeNoProcessableTargetsIn_receipts (q : JobRequest) :
    CallbackKeepsReceipts db (completeNoProcessableTargetsIn now q db) :=
  .after fun _ => .after fun _ => .after fun _ => .bind (cancelJobIn_receipts _ _ _) fun _ h =>
    .after fun _ => .ret h

theorem cancelJobRequestIn_receipts (q : JobRequest) :
    CallbackKeepsReceipts db (cancelJobRequestIn now q db) :=
  .after fun _ => .after fun _ => .after fun _ => .bind (cancelJobIn_receipts _ _ _) fun _ h =>
    .after fun _ => .ret h

theorem retryJobIn_receipts (q : JobRequest) (runRef : String) :
    CallbackKeepsReceipts db (retryJobIn now q runRef db) :=
  .after fun _ => .after fun _ => .after fun _ => .after fun _ => .ret rfl

theorem beginPostprocessingIn_receipts (q : PostprocessingRequest) (specRef runRef : String) :
    CallbackKeepsReceipts db (beginPostprocessingIn now q specRef runRef db) :=
  .after fun _ => .after fun _ => .after fun _ => .after fun _ => .after fun _ => .after fun _ =>
    .after fun _ => .after fun _ => .ret rfl

theorem insertStep_receipts (step : StepRow) : KeepsReceipts db (insertStep step db) :=
  .after fun _ => .ret rfl

theorem startRuntimeStep_receipts (runRef code : String) :
    KeepsReceipts db (startRuntimeStep now runRef code db) :=
  .after fun _ => .after fun _ => .after fun _ => insertStep_receipts _

theorem beginPostprocessingPublication_receipts (runRef : String) :
    CallbackKeepsReceipts db (beginPostprocessingPublication now runRef db) :=
  .after fun _ => .after fun _ => .after fun _ => .after fun _ => .ite (.ret rfl)
    (.after fun _ => .bind (insertStep_receipts _) fun _ h => .ret h)

theorem finishRuntimeStep_receipts (runRef code : String) (result : StepResult) (ref : String) :
    KeepsReceipts db (finishRuntimeStep now runRef code result ref db) :=
  .after fun _ => .after fun _ => .after fun _ => .after fun _ => .ret rfl

theorem failActiveRuntimeStep_receipts (runRef : String) (returnCode : Option ℤ)
    (kind : DiagnosticKind) (ref : String) :
    KeepsReceipts db (failActiveRuntimeStep now runRef returnCode kind ref db) := by
  refine .after fun _ => .after fun _ => ?_
  split
  · exact .ret rfl
  · exact .ret rfl

theorem failPublication_receipts (q : RunFailure) (failureRef : String) :
    KeepsReceipts db (failPublication now q failureRef db) :=
  .after fun _ => .after fun _ => .after fun _ => .ret rfl

theorem failFix_receipts (q : RunFailure) (failureRef : String) :
    KeepsReceipts db (failFix now q failureRef db) :=
  .after fun _ => .ret rfl

theorem emitPostprocessingFailed_receipts (q : RunFailure) (refs : FailureRefs) (run : RunRow) :
    KeepsReceipts db (emitPostprocessingFailed now q refs run db) :=
  .ite (.after fun _ => insertHandoff_receipts _) (.ret rfl)

theorem failJobRun_receipts (q : RunFailure) (refs : FailureRefs) (run : RunRow) (job : JobRow) :
    KeepsReceipts db (failJobRun now q refs run job db) := by
  unfold failJobRun
  dsimp only
  split
  · exact .ret rfl
  · split
    · exact .bind (emitPostprocessingFailed_receipts _ _ _) fun _ h => .ret h
    · exact .ret rfl

theorem failRunConn_receipts (q : RunFailure) (refs : FailureRefs) :
    KeepsReceipts db (failRunConn now q refs db) := by
  refine .after fun run => .after fun job => .ite (.ret rfl) (.ite (.ret rfl) ?_)
  split
  · exact failPublication_receipts q refs.failureRef
  · exact failFix_receipts q refs.failureRef
  · exact failJobRun_receipts q refs run job

theorem failAll_receipts {d : RecoveryRefs} {rows : List RunRow} :
    KeepsReceipts db (failAll now d rows db) := by
  induction rows generalizing db with
  | nil => exact .ok rfl
  | cons r rest ih =>
    exact .bind (failRunConn_receipts _ _) fun _ h => ih.mono fun _ h' => h'.trans h

theorem recoverRuns_receipts (coordinated : Bool) (d : RecoveryRefs) (rows : List RunRow)
    (s : Store) : (recoverRuns now coordinated d rows s).2.db.receipts = s.db.receipts := by
  unfold recoverRuns
  split
  · dsimp only
    split
    next db hall => exact failAll_receipts db hall
    next => rfl
  · rfl

theorem recoverInterruptedRuns_receipts (epoch : Option String) (coordinated : Bool)
    (d : RecoveryRefs) (s : Store) :
    (recoverInterruptedRuns now epoch coordinated d s).2.db.receipts = s.db.receipts := by
  unfold recoverInterruptedRuns
  split
  · rfl
  · exact recoverRuns_receipts _ _ _ _

theorem startPublication_receipts (run : RunRow) :
    KeepsReceipts db (startPublication now run db) := by
  unfold startPublication
  split
  · exact .after fun _ => .ret rfl
  · exact .ret rfl

theorem claimQueued_receipts (c : Claim) : CallbackKeepsReceipts db (claimQueued now c db) := by
  unfold claimQueued
  dsimp only
  split
  · exact .ok rfl
  · exact .ite (.ok rfl) (.after fun _ => .after fun _ =>
      .bind (startPublication_receipts _) fun _ h => .ret h)

theorem claimNextRun_receipts (c : Claim) (d : RecoveryRefs) (s : Store) :
    (claimNextRun now c d s).2.db.receipts = s.db.receipts := by
  unfold claimNextRun
  split
  · split
    · rfl
    · split
      next claimed db hclaim => exact claimQueued_receipts c _ hclaim
      next => rfl
  · exact recoverRuns_receipts _ _ _ _

theorem commitPrepare_receipts (q : PrepareResult) (refs : PrepareRefs) (run : RunRow) :
    KeepsReceipts db (commitPrepare now q refs run db) :=
  .after fun _ => .bind (insertHandoff_receipts _) fun _ h => .ret h

theorem completePrepare_receipts (q : PrepareResult) (refs : PrepareRefs) :
    KeepsReceipts db (completePrepare now q refs db) :=
  .after fun _ => .after fun _ => .ite (.ret rfl) (.after fun _ => .after fun _ =>
    .ite (failRunConn_receipts _ _) (.ite (failRunConn_receipts _ _)
      (commitPrepare_receipts _ _ _)))

theorem recordTrackingCheckpoint_receipts (q : TrackingCheckpoint) :
    KeepsReceipts db (recordTrackingCheckpoint now q db) := by
  refine .after fun _ => .after fun _ => .after fun _ => .after fun _ => .after fun _ =>
    .after fun _ => .after fun _ => .after fun _ => ?_
  dsimp only
  split
  · exact .after fun _ => .ret rfl
  · exact .after fun _ => insertStep_receipts _

theorem completeTracking_receipts (runRef : String) (commandSteps : Option (List String))
    (handoffRef : String) :
    KeepsReceipts db (completeTracking now runRef commandSteps handoffRef db) :=
  .after fun _ => .after fun _ => .ite (.ret rfl) (.after fun _ => .after fun _ =>
    .after fun _ => .after fun _ => .bind (insertHandoff_receipts _) fun _ h => .ret h)

theorem completeCancelledRun_receipts (runRef : String) :
    KeepsReceipts db (completeCancelledRun now runRef db) :=
  .after fun _ => .ite (.ret rfl) (.after fun _ => .after fun _ => .after fun _ => .ret rfl)

theorem insertTrajectories_receipts {jobRef : String} {refs : ℕ → TrajectoryRefs} {n : ℕ}
    {items : List (String × TrajectoryResult)} :
    KeepsReceipts db (insertTrajectories now jobRef refs n items db) := by
  induction items generalizing n db with
  | nil => exact .ok rfl
  | cons item rest ih =>
    have hone : KeepsReceipts db (insertTrajectory now jobRef item.1 (refs n) item.2 db) :=
      .after fun _ => .after fun _ => .after fun _ => .ret rfl
    exact .bind hone fun _ h => ih.mono fun _ h' => h'.trans h

theorem completePostprocessingConn_receipts (jobRef : String)
    (trajectories : List TrajectoryResult) (refs : PostprocessingRefs) :
    KeepsReceipts db (completePostprocessingConn now jobRef trajectories refs db) :=
  .after fun _ => .bind insertTrajectories_receipts fun _ h =>
    .bind ((insertHandoff_receipts _).mono fun _ h' => h'.trans h) fun _ h' =>
      (insertHandoff_receipts _).mono fun _ h'' => h''.trans h'

theorem completePostprocessingRun_receipts (runRef : String)
    (trajectories : List TrajectoryResult) (commandSteps : Option (List String))
    (manifest : String) (refs : PostprocessingRefs) : KeepsReceipts db
      (completePostprocessingRun now runRef trajectories commandSteps manifest refs db) :=
  .after fun _ => .after fun _ => .after fun _ => .ite (.ret rfl) (.after fun _ =>
    .after fun _ => .after fun _ => .bind (completePostprocessingConn_receipts _ _ _)
      fun _ h => .ret h)

theorem completePostprocessingIn_receipts (q : PostprocessingResult) (refs : PostprocessingRefs) :
    CallbackKeepsReceipts db (completePostprocessingIn now q refs db) :=
  .after fun _ => .after fun _ => .after fun _ =>
    .bind (completePostprocessingConn_receipts _ _ _) fun _ h => .after fun _ => .ret h

theorem createFixSessionIn_receipts (q : FixSession) :
    CallbackKeepsReceipts db (createFixSessionIn now q db) :=
  .after fun _ => .after fun _ => .after fun _ => .after fun _ => .after fun _ => .after fun _ =>
    .after fun _ => .after fun _ => .after fun _ => .ret rfl

theorem applyFixCommandIn_receipts (q : FixCommand) :
    CallbackKeepsReceipts db (applyFixCommandIn now q db) :=
  .after fun _ => .after fun _ => .after fun _ => .after fun _ => .after fun _ => .after fun _ =>
    .after fun _ => .ret rfl

theorem createFixRevisionIn_receipts (q : FixRevisionRequest) (runRef revisionRef : String) :
    CallbackKeepsReceipts db (createFixRevisionIn now q runRef revisionRef db) :=
  .after fun _ => .after fun _ => .after fun _ => .after fun _ => .after fun _ => .after fun _ =>
    .after fun _ => .after fun _ => .after fun _ => .ret rfl

theorem completeFixRun_receipts (q : FixResult) : KeepsReceipts db (completeFixRun now q db) :=
  .after fun _ => .after fun _ => .after fun _ => .after fun _ => .after fun _ => .after fun _ =>
    .after fun _ => .after fun _ => .after fun _ => .bind (insertHandoff_receipts _) fun _ h =>
      .ret h

theorem decideReviewIn_receipts (q : DecisionRequest) (handoffRef : String) :
    CallbackKeepsReceipts db (decideReviewIn now q handoffRef db) :=
  .after fun _ => .after fun _ => .after fun _ => .after fun _ =>
    .bind (insertHandoff_receipts _) fun _ h => .after fun _ => .ret h

theorem resumeReturnedReviewIn_receipts (q : ResumeRequest) :
    CallbackKeepsReceipts db (resumeReturnedReviewIn now q db) :=
  .after fun _ => .after fun _ => .after fun _ => .ret rfl

theorem enqueueCompatibilityPublication_receipts (jobRef reviewRef fixRevisionRef : String)
    (refs : PublicationRefs) : KeepsReceipts db
      (enqueueCompatibilityPublication now jobRef reviewRef fixRevisionRef refs db) :=
  .after fun _ => .after fun _ => .after fun _ => .ret rfl

theorem approveFixRevisionIn_receipts (q : ApproveRequest) (refs : PublicationRefs) :
    CallbackKeepsReceipts db (approveFixRevisionIn now q refs db) :=
  .after fun _ => .after fun _ => .after fun _ => .after fun _ => .after fun _ => .after fun _ =>
    .after fun _ => .bind (enqueueCompatibilityPublication_receipts _ _ _ _) fun _ h =>
      .after fun _ => .ret h

theorem retryPublicationIn_receipts (q : RetryPublication) (refs : PublicationRefs) :
    CallbackKeepsReceipts db (retryPublicationIn now q refs db) :=
  .after fun _ => .after fun _ => .after fun _ => .after fun _ => .after fun _ =>
    .bind (enqueueCompatibilityPublication_receipts _ _ _ _) fun _ h => .after fun _ => .ret h

theorem completeCompatibilityPublication_receipts (q : PublicationResult) :
    KeepsReceipts db (completeCompatibilityPublication now q db) :=
  .after fun _ => .after fun _ => .after fun _ => .after fun _ => .after fun _ => .after fun _ =>
    .after fun _ => .after fun _ => .after fun _ => .after fun _ =>
      .bind (insertHandoff_receipts _) fun _ h => .ret h

theorem resetUnreleasedDatasetIn_receipts (datasetDate : String) :
    CallbackKeepsReceipts db (resetUnreleasedDatasetIn datasetDate db) :=
  .after fun _ => .ret rfl

theorem assignProcessingAuthority_receipts (jobRef linkRef : String) :
    KeepsReceipts db (assignProcessingAuthority now jobRef linkRef db) :=
  .after fun _ => .ret rfl

theorem insertTaskLink_receipts (q : TaskLinkRequest) (linkRef : String) :
    KeepsReceipts db (insertTaskLink now q linkRef db) := by
  refine .after fun _ => .after fun _ => ?_
  split
  · exact assignProcessingAuthority_receipts _ _
  · exact .ret rfl

theorem linkNavigationTaskIn_receipts (q : TaskLinkRequest) (linkRef : String) :
    CallbackKeepsReceipts db (linkNavigationTaskIn now q linkRef db) := by
  refine .after fun _ => .after fun _ => ?_
  split
  · exact .after fun _ => .bind (assignProcessingAuthority_receipts _ _) fun _ h => .ret h
  · exact .bind (insertTaskLink_receipts _ _) fun _ h => .ret h

theorem claimWorkflowHandoffDelivery_receipts (workerId : String) (leaseMs : ℕ) :
    CallbackKeepsReceipts db (claimWorkflowHandoffDelivery now workerId leaseMs db) := by
  refine .after fun _ => ?_
  split
  · exact .ret rfl
  · exact .after fun _ => .ret rfl

theorem completeWorkflowHandoffDelivery_receipts (q : Settlement) :
    KeepsReceipts db (completeWorkflowHandoffDelivery now q db) :=
  .after fun _ => .ite (.ret rfl) (.after fun _ => .ret rfl)

theorem recordClear_receipts (q : ClearRequest) (observed : List Marker) (newRef : String) :
    CallbackKeepsReceipts db (recordClear now q observed newRef db) := by
  unfold recordClear
  split
  · exact .after fun _ => .ret rfl
  · exact .after fun _ => .after fun _ => .after fun _ => .ret rfl

theorem commitClear_receipts (a : ClearAction) (captured : List Marker) :
    KeepsReceipts db (commitClear now a captured db) :=
  .ite (.ok rfl) (.after fun _ => .ret rfl)

theorem resolveRecovery_receipts (q : ConfirmRequest) (runRef : String) :
    KeepsReceipts db (resolveRecovery now q runRef db) := by
  unfold resolveRecovery
  split
  · exact cancelJobIn_receipts _ _ _
  · exact .after fun _ => .ret rfl

theorem confirmRecoveryIn_receipts (q : ConfirmRequest) (captured : List Marker)
    (runRef : String) : CallbackKeepsReceipts db (confirmRecoveryIn now q captured runRef db) := by
  unfold confirmRecoveryIn
  split
  · exact .after fun _ => .after fun _ => .ret rfl
  · exact .after fun _ => .after fun _ => .after fun _ => .after fun _ => .after fun _ =>
      .after fun _ => .bind (resolveRecovery_receipts _ _) fun _ h => .after fun _ =>
        .after fun _ => .ret h

end Frame

section Mutations

variable {now : Timestamp} {db : Database} {key : String} {request : Request} {actor : ActorKind}
  {callback : Database → Except AnnotationError (Reply × Database)}

/-- No receipt of `db` is lost. -/
def ReceiptsKept (db db' : Database) : Prop := ∀ r ∈ db.receipts, r ∈ db'.receipts

theorem ReceiptsKept.of_eq {db' : Database} (h : db'.receipts = db.receipts) :
    ReceiptsKept db db' := fun _ hr => h ▸ hr

theorem mutate_receiptsKept (hcall : CallbackKeepsReceipts db (callback db)) :
    Ensures (mutate now key request actor callback db) fun x => ReceiptsKept db x.2 := by
  refine .after fun _ => ?_
  split
  · exact .after fun _ => .ret fun _ hr => hr
  · refine .bind hcall fun x hx => ?_
    intro y hy
    obtain ⟨receipts, hinsert, hy⟩ := bind_eq_ok.1 hy
    obtain rfl := Except.ok.inj hy
    intro r hr
    exact (Table.mem_insert? (orRaise_eq_ok.1 hinsert)).2 (.inl (hx ▸ hr))

/-- A mutation that answers has a receipt, of this answer. -/
theorem mutate_receipt {x : Reply × Database}
    (h : mutate now key request actor callback db = .ok x) :
    ∃ r ∈ x.2.receipts, r.idempotencyKey = key ∧ r.request = request ∧ r.response = x.1 := by
  obtain ⟨_, -, h⟩ := bind_eq_ok.1 h
  split at h
  · rename_i receipt hfind
    obtain ⟨hmem, hkey⟩ := Table.find?_eq_some_iff.1 hfind
    obtain ⟨_, hsame, h⟩ := bind_eq_ok.1 h
    obtain rfl := Except.ok.inj h
    exact ⟨receipt, hmem, hkey, not_not.1 (raiseIf_eq_ok.1 hsame), rfl⟩
  · obtain ⟨y, -, h⟩ := bind_eq_ok.1 h
    obtain ⟨receipts, hinsert, h⟩ := bind_eq_ok.1 h
    obtain rfl := Except.ok.inj h
    exact ⟨_, (Table.mem_insert? (orRaise_eq_ok.1 hinsert)).2 (.inr rfl), rfl, rfl, rfl⟩

theorem mutate_valid {x : Reply × Database} (h : mutate now key request actor callback db = .ok x) :
    ¬ (key.length = 0 ∨ 200 < key.length) := by
  obtain ⟨_, hvalid, -⟩ := bind_eq_ok.1 h
  exact raiseIf_eq_ok.1 hvalid

theorem mutate_used {r : ReceiptRow} (hr : r ∈ db.receipts) (hkey : r.idempotencyKey = key)
    (hvalid : ¬ (key.length = 0 ∨ 200 < key.length)) :
    mutate now key request actor callback db =
      if r.request = request then .ok (r.response, db) else .error idempotencyKeyReused := by
  have hfind : db.receipts.find? key = some r := Table.find?_eq_some_iff.2 ⟨hr, hkey⟩
  unfold mutate
  rw [hfind]
  split_ifs with hsame
  · exact bind_eq_ok.2 ⟨⟨⟩, raiseIf_eq_ok.2 hvalid,
      bind_eq_ok.2 ⟨⟨⟩, raiseIf_eq_ok.2 (not_not.2 hsame), rfl⟩⟩
  · exact bind_eq_error.2 (.inr ⟨⟨⟩, raiseIf_eq_ok.2 hvalid,
      bind_eq_error.2 (.inl (raiseIf_eq_error.2 ⟨hsame, rfl⟩))⟩)

theorem mutate_raises {e : AnnotationError} (hvalid : ¬ (key.length = 0 ∨ 200 < key.length))
    (hfresh : db.receipts.find? key = none) (h : callback db = .error e) :
    mutate now key request actor callback db = .error e := by
  unfold mutate
  rw [hfresh]
  exact bind_eq_error.2 (.inr ⟨⟨⟩, raiseIf_eq_ok.2 hvalid, bind_eq_error.2 (.inl h)⟩)

end Mutations

theorem perform_receiptsKept {now : Timestamp} {db : Database} (c : StoreCall) :
    Ensures (perform now db c) (ReceiptsKept db) := by
  cases c with
  | createJob => exact .map (mutate_receiptsKept (createJobIn_receipts _ _))
  | saveDraft => exact .map (mutate_receiptsKept (saveDraftIn_receipts _))
  | submitSegment => exact .map (mutate_receiptsKept (submitSegmentIn_receipts _ _))
  | segmentAction => exact .map (mutate_receiptsKept (segmentActionIn_receipts _))
  | startTracking => exact .map (mutate_receiptsKept (startTrackingIn_receipts _ _))
  | completeNoProcessableTargets =>
    exact .map (mutate_receiptsKept (completeNoProcessableTargetsIn_receipts _))
  | cancelJob => exact .map (mutate_receiptsKept (cancelJobRequestIn_receipts _))
  | retryJob => exact .map (mutate_receiptsKept (retryJobIn_receipts _ _))
  | beginPostprocessing => exact .map (mutate_receiptsKept (beginPostprocessingIn_receipts _ _ _))
  | completePostprocessing =>
    exact .map (mutate_receiptsKept (completePostprocessingIn_receipts _ _))
  | createFixSession => exact .map (mutate_receiptsKept (createFixSessionIn_receipts _))
  | applyFixCommand => exact .map (mutate_receiptsKept (applyFixCommandIn_receipts _))
  | createFixRevision => exact .map (mutate_receiptsKept (createFixRevisionIn_receipts _ _ _))
  | decideReview => exact .map (mutate_receiptsKept (decideReviewIn_receipts _ _))
  | resumeReturnedReview => exact .map (mutate_receiptsKept (resumeReturnedReviewIn_receipts _))
  | approveFixRevision => exact .map (mutate_receiptsKept (approveFixRevisionIn_receipts _ _))
  | retryCompatibilityPublication =>
    exact .map (mutate_receiptsKept (retryPublicationIn_receipts _ _))
  | resetUnreleasedDataset =>
    exact .map (mutate_receiptsKept (resetUnreleasedDatasetIn_receipts _))
  | linkNavigationTask =>
    exact .map (.after fun _ => mutate_receiptsKept (linkNavigationTaskIn_receipts _ _))
  | startRuntimeStep => exact (startRuntimeStep_receipts _ _).mono fun _ => .of_eq
  | beginPostprocessingPublication =>
    exact .map ((beginPostprocessingPublication_receipts _).mono fun _ => .of_eq)
  | finishRuntimeStep => exact (finishRuntimeStep_receipts _ _ _ _).mono fun _ => .of_eq
  | failActiveRuntimeStep => exact (failActiveRuntimeStep_receipts _ _ _ _).mono fun _ => .of_eq
  | failRun => exact (failRunConn_receipts _ _).mono fun _ => .of_eq
  | renewRunLease => exact .ok (.of_eq rfl)
  | completePrepare => exact (completePrepare_receipts _ _).mono fun _ => .of_eq
  | recordTrackingCheckpoint => exact (recordTrackingCheckpoint_receipts _).mono fun _ => .of_eq
  | completeTracking => exact (completeTracking_receipts _ _ _).mono fun _ => .of_eq
  | completeCancelledRun => exact (completeCancelledRun_receipts _).mono fun _ => .of_eq
  | completePostprocessingRun =>
    exact (completePostprocessingRun_receipts _ _ _ _ _).mono fun _ => .of_eq
  | completeFixRun => exact (completeFixRun_receipts _).mono fun _ => .of_eq
  | completeCompatibilityPublication =>
    exact (completeCompatibilityPublication_receipts _).mono fun _ => .of_eq
  | claimWorkflowHandoffDelivery =>
    exact .map ((claimWorkflowHandoffDelivery_receipts _ _).mono fun _ => .of_eq)
  | completeWorkflowHandoffDelivery =>
    exact (completeWorkflowHandoffDelivery_receipts _).mono fun _ => .of_eq

namespace System

theorem act_receipts (s : System) (e : Event) (h : ∀ c, e ≠ .call c) :
    (s.act e).store.db.receipts = s.store.db.receipts := by
  cases e with
  | call c => exact absurd rfl (h c)
  | claim c d => exact claimNextRun_receipts c d s.store
  | recover epoch coordinated d => exact recoverInterruptedRuns_receipts epoch coordinated d s.store
  | observeClear n q | observeConfirm n q =>
    simp only [act]
    split <;> rfl
  | record n newRef =>
    simp only [act, recordClear]
    split
    · split
      · rfl
      next a db hrecord =>
        have hkept := recordClear_receipts _ _ _ _ hrecord
        split <;> exact hkept
    · rfl
  | enter n =>
    simp only [act, enterClearance]
    split
    · split <;> rfl
    · split <;> rfl
    · rfl
  | commit n runRef =>
    simp only [act, commitClear, commitConfirm]
    split
    · split
      · rfl
      next db hcommit => exact commitClear_receipts _ _ _ hcommit
    · split
      · rfl
      next db hconfirm => exact confirmRecoveryIn_receipts _ _ _ _ hconfirm
    · rfl
  | remove n =>
    simp only [act, removeMarker]
    split
    · split <;> rfl
    · rfl
    · rfl
  | writerEnter token =>
    simp only [act, writerEnter]
    split <;> rfl
  | writerLeave =>
    simp only [act, writerLeave]
    split <;> rfl
  | writerDie =>
    simp only [act, writerDie]
    split <;> rfl
  | tick | changeReleases | crash | createMarker => rfl

theorem Step.receiptsKept {s t : System} {e : Event} (h : s.Step e t) :
    ReceiptsKept s.store.db t.store.db := by
  obtain ⟨rfl, -⟩ := h
  change ReceiptsKept s.store.db (s.act e).store.db
  by_cases hcall : ∃ c, e = .call c
  · obtain ⟨c, rfl⟩ := hcall
    simp only [act]
    split
    next db hperform => exact perform_receiptsKept c db hperform
    next => exact fun _ hr => hr
  · push Not at hcall
    exact .of_eq (act_receipts s e hcall)

theorem receiptsKept_of_run {s t : System} {l : List (Transition System Event)}
    (h : Run System.Step s l t) : ReceiptsKept s.store.db t.store.db := by
  intro r hr
  exact h.keeps (Q := fun u => r ∈ u.store.db.receipts) hr fun x hx hpre =>
    (h.step_of_mem hx).receiptsKept r hpre

end System

end DataJuicer.Annotation

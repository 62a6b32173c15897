import DataJuicer.Annotation.Jobs
import DataJuicer.Annotation.Runs

/-! # Operator actions

The reset of a dataset that is not released yet, which retires its jobs, and the two audited
steps of a recovery: the global clear of the writer quarantine and the confirmation of one job
that names it. Both hold the writer's flock, so each is a call of several steps.
-/

namespace DataJuicer.Annotation

open Transaction

def BusyStatus (s : JobStatus) : Prop :=
  s = .preparing ∨ s = JobStatus.waitingInitialAnnotation ∨ s = .tracking ∨ s = .postprocessing

instance : DecidablePred BusyStatus := fun _ => inferInstanceAs (Decidable (_ ∨ _ ∨ _ ∨ _))

def LeasedIn (w : Workflow) (datasetDate jobRef : String) : Prop :=
  ∃ l ∈ w.sourceLeases, l.datasetDate = datasetDate ∧ l.jobRef = jobRef

instance (w : Workflow) (datasetDate jobRef : String) :
    Decidable (LeasedIn w datasetDate jobRef) := by
  unfold LeasedIn
  infer_instance

def ReviewInProgress (db : Database) (datasetDate : String) : Prop :=
  ∃ r ∈ db.reviews, r.status = .inProgress ∧ ∃ t ∈ db.trajectories,
    t.revisionRef = r.trajectoryRef ∧ LeasedIn db.toWorkflow datasetDate t.jobRef

instance (db : Database) (datasetDate : String) : Decidable (ReviewInProgress db datasetDate) := by
  unfold ReviewInProgress
  infer_instance

/-- `_require_dataset_resettable`, with the numbers of jobs and leases. -/
def requireDatasetResettable (db : Database) (datasetDate : String) :
    Except AnnotationError (ℕ × ℕ) := do
  raiseIf (datasetDate ∈ db.releasedDates)
    (.conflict "dataset_already_released" "Released datasets cannot be reset.")
  raiseIf (datasetDate ∈ db.historicalDates)
    (.conflict "historical_dataset_immutable"
      "Imported historical verified datasets cannot be reset.")
  raiseIf (∃ j ∈ db.jobs, LeasedIn db.toWorkflow datasetDate j.jobRef ∧ BusyStatus j.status)
    (.conflict "annotation_workflow_active"
      "The dataset has active annotation processing and cannot be reset.")
  raiseIf (∃ r ∈ db.runs, LeasedIn db.toWorkflow datasetDate r.jobRef ∧ r.status.Open)
    (.conflict "annotation_runtime_active"
      "The dataset has active runtime work and cannot be reset.")
  raiseIf (ReviewInProgress db datasetDate)
    (.conflict "trajectory_review_active"
      "The dataset has an active trajectory review and cannot be reset.")
  return (db.jobs.rowcount fun j => LeasedIn db.toWorkflow datasetDate j.jobRef,
    db.sourceLeases.rowcount fun l => l.datasetDate = datasetDate)

/-- The callback of `reset_unreleased_dataset`. -/
def resetUnreleasedDatasetIn (datasetDate : String) (db : Database) :
    Except AnnotationError (Reply × Database) := do
  let (jobCount, leaseCount) ← requireDatasetResettable db datasetDate
  return (.reset jobCount leaseCount, { db with
    sourceLeases := db.sourceLeases.delete fun l => l.datasetDate = datasetDate })

def resetUnreleasedDataset (now : Timestamp) (datasetDate resetRef idempotencyKey : String)
    (db : Database) : Except AnnotationError (Reply × Database) :=
  mutate now idempotencyKey (.resetUnreleasedDataset datasetDate resetRef) .manualWeb
    (resetUnreleasedDatasetIn datasetDate) db

/-- `_capture_marker_state`: the active marker and the quarantine markers by their names. -/
def markerState (markers : List Marker) : List Marker :=
  markers.filter (fun m => m.name = activeMarkerName) ++
    (markers.filter fun m => m.name ≠ activeMarkerName).insertionSort fun a b => a.name ≤ b.name

@[simp] theorem mem_markerState {markers : List Marker} {m : Marker} :
    m ∈ markerState markers ↔ m ∈ markers := by
  simp only [markerState, List.mem_append, List.mem_filter, List.mem_insertionSort]
  by_cases h : m.name = activeMarkerName <;> simp [h]

@[simp] theorem markerState_eq_nil {markers : List Marker} :
    markerState markers = [] ↔ markers = [] := by
  simp [List.eq_nil_iff_forall_not_mem]

def normalizeReference (s : String) : PyStr := (PyStr.ofString s).strip

def validateOperator (operatorReference idempotencyKey : String) : Except AnnotationError Unit := do
  let reference := normalizeReference operatorReference
  raiseIf (reference.length = 0 ∨ 200 < reference.length)
    (.validation "invalid_operator_reference"
      "An operator or ticket reference is required for recovery.")
  raiseIf (idempotencyKey.length = 0 ∨ 200 < idempotencyKey.length) invalidIdempotencyKey

structure ClearRequest where
  confirmation : String
  operatorReference : String
  idempotencyKey : String

def validateClear (q : ClearRequest) : Except AnnotationError Unit := do
  raiseIf (q.confirmation ≠ "all_navigation_annotation_writer_process_groups_absent")
    (.validation "invalid_global_recovery_confirmation"
      ("Global recovery requires confirmation that all writer process " ++ "groups are absent."))
  validateOperator q.operatorReference q.idempotencyKey

def recoveryKeyReused : AnnotationError :=
  .conflict "idempotency_key_reused"
    "Idempotency-Key was already used for another recovery request."

def newerQuarantine : AnnotationError :=
  .conflict "global_writer_quarantine_active"
    ("A newer global writer quarantine requires another safety " ++ "confirmation.")

structure ClearAction where
  actionRef : String
  expected : List Marker
  completed : Bool

/-- The failures of jobs and publications that await recovery. -/
def openRecoveries (w : Workflow) : List String :=
  ((w.jobs.select fun j => j.status = .failed ∧
      j.failureCode = some recoveryRequired).filterMap JobRow.failureRef) ++
    (w.publications.select fun p => p.status = .failed ∧
      p.failureCode = some recoveryRequired).filterMap PublicationRow.failureRef

/-- The two `INSERT INTO writer_quarantine_action_recoveries`. -/
def insertRecoveries (actionRef : String) : List String → Table RecoveryRow →
    Except AnnotationError (Table RecoveryRow)
  | [], t => .ok t
  | failureRef :: rest, t => do
    let t ← orRaise (.integrity "writer_quarantine_action_recoveries.action_ref")
      (t.insert? ⟨actionRef, failureRef⟩)
    insertRecoveries actionRef rest t

/-- The first transaction of `operator_clear_global_writer_quarantine`. -/
def recordClear (now : Timestamp) (q : ClearRequest) (observed : List Marker) (newRef : String)
    (db : Database) : Except AnnotationError (ClearAction × Database) :=
  match db.quarantineActions.find? q.idempotencyKey with
  | some existing => do
    raiseIf (existing.operatorReference ≠ normalizeReference q.operatorReference) recoveryKeyReused
    return (⟨existing.actionRef, existing.expectedMarkers,
      (db.completions.find? existing.actionRef).isSome⟩, db)
  | none => do
    raiseIf (∃ a ∈ db.quarantineActions, a.actionRef = newRef)
      (.integrity "writer_quarantine_actions.action_ref")
    let quarantineActions ← orRaise (.integrity "writer_quarantine_actions.idempotency_key")
      (db.quarantineActions.insert?
        ⟨q.idempotencyKey, newRef, normalizeReference q.operatorReference, observed, now⟩)
    let recoveries ← insertRecoveries newRef (openRecoveries db.toWorkflow) db.recoveries
    return (⟨newRef, observed, false⟩, { db with quarantineActions, recoveries })

def clearanceExpected (a : ClearAction) (observed : List Marker) :
    Except AnnotationError (List Marker) :=
  if a.completed then do
    raiseIf (∃ m ∈ observed, m ∉ a.expected) newerQuarantine
    return observed
  else return a.expected

def commitClear (now : Timestamp) (a : ClearAction) (captured : List Marker) (db : Database) :
    Except AnnotationError Database :=
  if a.completed ∨ (db.completions.find? a.actionRef).isSome then .ok db
  else do
    let completions ← orRaise (.integrity "writer_quarantine_action_completions.action_ref")
      (db.completions.insert? ⟨a.actionRef, captured ≠ [], now⟩)
    return { db with completions }

structure ConfirmRequest where
  jobRef : String
  expectedJobRevision : ℕ
  confirmation : String
  operatorReference : String
  idempotencyKey : String
  globalQuarantineActionRef : String
  disposition : Disposition

def ConfirmRequest.request (q : ConfirmRequest) : RecoveryRequest :=
  ⟨q.disposition, q.jobRef, q.expectedJobRevision, normalizeReference q.operatorReference,
    q.globalQuarantineActionRef⟩

def validateConfirm (q : ConfirmRequest) : Except AnnotationError Unit := do
  raiseIf (q.confirmation ≠ "old_process_group_absent")
    (.validation "invalid_recovery_confirmation"
      "Recovery requires confirmation that the old process group is absent.")
  validateOperator q.operatorReference q.idempotencyKey

def GlobalConfirmation (db : Database) (actionRef failureRef : String) : Prop :=
  (∃ a ∈ db.quarantineActions, a.actionRef = actionRef) ∧
    (∃ c ∈ db.completions, c.actionRef = actionRef) ∧
      ∃ r ∈ db.recoveries, r.actionRef = actionRef ∧ r.failureRef = failureRef

instance (db : Database) (actionRef failureRef : String) :
    Decidable (GlobalConfirmation db actionRef failureRef) := by
  unfold GlobalConfirmation
  infer_instance

def globalConfirmationRequired : AnnotationError :=
  .validation "global_quarantine_confirmation_required"
    "Recovery requires a recorded global writer safety confirmation."

def runtimeStillActive : AnnotationError :=
  .conflict "runtime_still_active"
    "Recovery cannot start while the old Runtime run is active."

def resolveRecovery (now : Timestamp) (q : ConfirmRequest) (runRef : String) (db : Database) :
    Except AnnotationError Database :=
  match q.disposition with
  | .abandon => cancelJobIn now q.jobRef "abandoned_after_recovery_confirmation" false db
  | .retry => do
    let w ← db.toWorkflow.restart now q.jobRef runRef
    return { db with toWorkflow := w }

/-- The transaction of `operator_confirm_recovery`, with the marker state captured before it. -/
def confirmRecoveryIn (now : Timestamp) (q : ConfirmRequest) (captured : List Marker)
    (runRef : String) (db : Database) : Except AnnotationError (JobView × Database) :=
  match db.operatorActions.find? q.idempotencyKey with
  | some existing => do
    raiseIf (existing.request ≠ q.request) recoveryKeyReused
    raiseIf (captured ≠ []) newerQuarantine
    return (existing.response, db)
  | none => do
    let job ← expectedJob db.toWorkflow q.jobRef q.expectedJobRevision
    raiseIf (¬ job.Quarantined) invalidJobAction
    let failureRef ← orRaise globalConfirmationRequired job.failureRef
    raiseIf (¬ GlobalConfirmation db q.globalQuarantineActionRef failureRef)
      globalConfirmationRequired
    raiseIf (captured ≠ []) newerQuarantine
    raiseIf (∃ r ∈ db.runs, r.jobRef = q.jobRef ∧ r.status = .running) runtimeStillActive
    let db ← resolveRecovery now q runRef db
    let response ← jobProjection db q.jobRef
    let operatorActions ← orRaise (.integrity "annotation_operator_actions.idempotency_key")
      (db.operatorActions.insert? ⟨q.idempotencyKey, q.request, response, now⟩)
    return (response, { db with operatorActions })

end DataJuicer.Annotation

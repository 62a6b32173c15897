import DataJuicer.Lib.Table
import DataJuicer.Navigation.Catalog
import DataJuicer.Navigation.ObservationModels

/-! # The navigation state database

The rows of the tables and the statements the stores run on them. A JSON column holds the
value that is decoded from it, except that free payloads are kept as their canonical text.
Every row inserted, updated or deleted in a child table fires a trigger that adds one to the
`state_revision` of its task, so the child statements below take the task table with them.
-/

namespace DataJuicer.Navigation

/-- Microseconds since the epoch. -/
abbrev Timestamp := ℕ

/-- `utc_now`: the time with milliseconds. -/
def utcNow (now : Timestamp) : Timestamp := now / 1000 * 1000

inductive TaskStatus
  | active
  | waitingUser
  | pausing
  | paused
  | cancelling
  | completed
  | failed
  | cancelled
  | needsReplan
  | superseded
  deriving DecidableEq

def TaskStatus.value : TaskStatus → String
  | .active => "active"
  | .waitingUser => "waiting_user"
  | .pausing => "pausing"
  | .paused => "paused"
  | .cancelling => "cancelling"
  | .completed => "completed"
  | .failed => "failed"
  | .cancelled => "cancelled"
  | .needsReplan => "needs_replan"
  | .superseded => "superseded"

inductive PlanStatus
  | active
  | superseded
  | completed
  | invalidated
  deriving DecidableEq

/-- `ExecutionStatus` -/
inductive StepStatus
  | pending
  | running
  | waitingUser
  | completed
  | failed
  | needsReplan
  deriving DecidableEq

/-- The statuses a staged result may give its step. -/
inductive TargetStatus
  | completed
  | failed
  deriving DecidableEq

def TargetStatus.toStep : TargetStatus → StepStatus
  | .completed => .completed
  | .failed => .failed

inductive HandoffStatus
  | pending
  | recoveryRequired
  | quarantined
  deriving DecidableEq

inductive DeliveryStatus
  | pending
  | delivering
  | delivered
  | recoveryRequired
  | quarantined
  deriving DecidableEq

inductive SceneMode
  | indoor
  | outdoor
  deriving DecidableEq

def SceneMode.value : SceneMode → String
  | .indoor => "in"
  | .outdoor => "out"

inductive RequestedOutcome
  | auto
  | extractSync
  | postprocessing
  | postprocessingAndFix
  | trajectoryFix

inductive CompletionOutcome
  | extractSyncCompleted
  | postprocessingCompletedFixPending
  | trajectoryReviewCompleted
  | processingCompletedNoFix
  deriving DecidableEq

/-- A row of `navigation_tasks`. -/
structure TaskRow where
  taskId : String
  request : String
  target : String
  date : String
  segments : Option (List PyStr)
  segmentsKey : PyStr
  sceneMode : Option SceneMode
  dryRun : Bool
  guidanceRevision : ℤ
  stateRevision : ℕ
  status : TaskStatus
  acceptedPlanPhase : Option PlanPhase
  createdByWebSessionId : String
  agentscopeSessionId : String
  schemaVersion : ℤ
  createdAt : Timestamp
  updatedAt : Timestamp
  deriving DecidableEq

/-- A row of `navigation_plans`. -/
structure PlanRow where
  planId : String
  taskId : String
  phase : PlanPhase
  planRevision : ℕ
  contractVersion : String
  observationRevision : ℕ
  plan : PlanInput
  status : PlanStatus
  invalidationReason : Option String
  createdAt : Timestamp
  updatedAt : Timestamp

/-- A row of `navigation_task_steps`, the execution ledger. -/
structure StepRow where
  taskId : String
  phase : PlanPhase
  stepId : String
  toolName : StepAction
  status : StepStatus
  startedAt : Option Timestamp
  finishedAt : Option Timestamp
  planId : String
  planRevision : ℕ
  sequence : ℕ
  resultSummary : Option String
  resultRef : Option String
  retryCount : ℕ
  deriving DecidableEq

/-- A row of `navigation_step_result_outbox`. -/
structure OutboxRow where
  planId : String
  stepId : String
  taskId : String
  planRevision : ℕ
  targetStatus : TargetStatus
  expectedStatuses : List StepStatus
  fullResult : String
  resultSummary : String
  resultRef : String
  createdAt : Timestamp
  updatedAt : Timestamp
  deriving DecidableEq

/-- A row of `navigation_human_decision_handoffs`, but for the sanitized free text. -/
structure HandoffRow where
  planId : String
  stepId : String
  taskId : String
  decisionKey : String
  decision : String
  status : HandoffStatus
  deliveryStatus : DeliveryStatus := .pending
  deliveryOwner : Option String := none
  deliveryToken : Option String := none
  leasedAt : Option Timestamp := none
  expiresAt : Option Timestamp := none
  recoveryReasonCode : Option String := none
  recoveredAt : Option Timestamp := none
  createdAt : Timestamp
  updatedAt : Timestamp

/-- A row of `navigation_plan_submission_attempts`. -/
structure AttemptRow where
  attemptId : String
  taskId : String
  phase : PlanPhase
  planningContextRevision : String
  candidate : String
  validation : String
  createdAt : Timestamp

/-- A row of `navigation_task_outcomes`. -/
structure OutcomeRow where
  taskId : String
  requestedOutcome : RequestedOutcome
  completionOutcome : Option CompletionOutcome
  revision : ℕ
  createdAt : Timestamp
  updatedAt : Timestamp

/-- A row of `navigation_task_lineage`; its relation is always `trajectory_fix`. -/
structure LineageRow where
  childTaskId : String
  parentTaskId : String
  createdAt : Timestamp

instance : Keyed TaskRow String := ⟨TaskRow.taskId⟩
instance : Keyed PlanRow String := ⟨PlanRow.planId⟩
instance : Keyed StepRow (String × String) := ⟨fun r => (r.planId, r.stepId)⟩
instance : Keyed OutboxRow (String × String) := ⟨fun r => (r.planId, r.stepId)⟩
instance : Keyed HandoffRow (String × String) := ⟨fun r => (r.planId, r.stepId)⟩
instance : Keyed AttemptRow String := ⟨AttemptRow.attemptId⟩
instance : Keyed OutcomeRow String := ⟨OutcomeRow.taskId⟩
instance : Keyed LineageRow String := ⟨LineageRow.childTaskId⟩
instance : Keyed NavigationObservationRevision (String × ℕ) := ⟨fun r => (r.taskId, r.revision)⟩
instance : Keyed EvidenceDescriptor String := ⟨EvidenceDescriptor.ref⟩

@[simp] theorem key_task (r : TaskRow) : key r = r.taskId := rfl
@[simp] theorem key_plan (r : PlanRow) : key r = r.planId := rfl
@[simp] theorem key_step (r : StepRow) : key r = (r.planId, r.stepId) := rfl
@[simp] theorem key_outbox (r : OutboxRow) : key r = (r.planId, r.stepId) := rfl
@[simp] theorem key_handoff (r : HandoffRow) : key r = (r.planId, r.stepId) := rfl
@[simp] theorem key_outcome (r : OutcomeRow) : key r = r.taskId := rfl
@[simp] theorem key_lineage (r : LineageRow) : key r = r.childTaskId := rfl

structure NavigationDb where
  tasks : Table TaskRow
  plans : Table PlanRow
  steps : Table StepRow
  outbox : Table OutboxRow
  handoffs : Table HandoffRow
  attempts : Table AttemptRow
  outcomes : Table OutcomeRow
  lineage : Table LineageRow
  observations : Table NavigationObservationRevision
  evidence : Table EvidenceDescriptor

/-- The database `initialize_navigation_schema` creates. -/
def NavigationDb.initial : NavigationDb :=
  ⟨.empty, .empty, .empty, .empty, .empty, .empty, .empty, .empty, .empty, .empty⟩

end DataJuicer.Navigation

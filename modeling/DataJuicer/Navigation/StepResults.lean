import DataJuicer.Navigation.PlanStore

/-! # Staged results

A step result is staged in the outbox before its evidence file is written, and finalized
into the ledger afterwards. A plan whose step cannot be finished is abandoned as a whole.
-/

namespace DataJuicer.Navigation

open Transaction

/-- The arguments of `stage_step_result`; the payloads are canonical JSON. -/
structure StepResult where
  targetStatus : TargetStatus
  fullResult : String
  resultSummary : String
  expectedStatuses : List StepStatus := [.running]
  deriving DecidableEq

def workflowHandoffActions : List String :=
  [StepAction.runAnnotationTrackingWorkflow.name,
   StepAction.runAnnotationPostprocessingWorkflow.name,
   StepAction.openTrajectoryFixWorkbench.name,
   StepAction.validateTrajectoryReviewOutcome.name]

def StagingAllowed (action : String) (expected : List StepStatus) : Prop :=
  expected = [.running] ∨ (action ∈ workflowHandoffActions ∧
    (∀ s ∈ expected, s = .pending ∨ s = .waitingUser) ∧ expected ≠ [])

instance (action : String) (expected : List StepStatus) :
    Decidable (StagingAllowed action expected) := by
  unfold StagingAllowed
  infer_instance

def stagedRow (v : StepView) (result : StepResult) (ref : String) (now : Timestamp) :
    OutboxRow where
  planId := v.step.planId
  stepId := v.step.stepId
  taskId := v.step.taskId
  planRevision := v.step.planRevision
  targetStatus := result.targetStatus
  expectedStatuses := result.expectedStatuses
  fullResult := result.fullResult
  resultSummary := result.resultSummary
  resultRef := ref
  createdAt := utcNow now
  updatedAt := utcNow now

def stageStepResult (call : Call) (planId stepId action : String) (result : StepResult)
    (db : NavigationDb) : Except NavigationError (OutboxRow × NavigationDb) := do
  ensureWithinLimit result.resultSummary "execution result summary"
  raiseIf (¬ StagingAllowed action result.expectedStatuses) (.valueError
    "execution results must be staged from a claimed run or an authorized workflow handoff")
  raiseIf (result.fullResult.utf8ByteSize > maxResultOutboxChars)
    (.valueError "execution result exceeds 262144 byte outbox limit")
  let v ← authorizeClaimTerminalization db planId stepId action call
  match db.outbox.find? (planId, stepId) with
  | some staged =>
    raiseIf (staged.targetStatus ≠ result.targetStatus ∨ staged.fullResult ≠ result.fullResult ∨
        staged.resultSummary ≠ result.resultSummary ∨
        staged.expectedStatuses ≠ result.expectedStatuses)
      (.runtimeError "conflicting staged result for navigation step")
    return (staged, db)
  | none =>
    raiseIf (v.step.status ∉ result.expectedStatuses)
      (.runtimeError "navigation step is not claimable for result staging")
    let ref ← intendedResultRef v.step.taskId v.plan.observationRevision planId stepId
      result.fullResult
    let row := stagedRow v result ref call.now
    let db ← constrained (db.insertOutbox? row)
    return (row, db)

def attachStagedResultEvidence (call : Call) (planId stepId resultRef action : String)
    (db : NavigationDb) : Except NavigationError (Bool × NavigationDb) := do
  let _ ← authorizeClaimTerminalization db planId stepId action call
  match db.outbox.find? (planId, stepId) with
  | none => return (false, db)
  | some staged =>
    raiseIf (staged.resultRef ≠ resultRef)
      (.runtimeError "staged result already references different evidence")
    return (true, db.updateOutbox (fun r => r.planId = planId ∧ r.stepId = stepId) fun r =>
      { r with resultRef := resultRef, updatedAt := utcNow call.now })

/-- `_record_task_outcome_in_transaction` -/
def NavigationDb.recordTaskOutcome (db : NavigationDb) (taskId : String)
    (outcome : CompletionOutcome) (now : Timestamp) : NavigationDb :=
  match db.outcomes.find? taskId with
  | some _ => db.updateOutcomes (fun r => r.taskId = taskId) fun r =>
      { r with
        completionOutcome := some outcome, revision := r.revision + 1, updatedAt := utcNow now }
  | none => (db.insertOutcome? { newOutcome taskId .auto now with
      completionOutcome := some outcome }).getD db

def LastStepCompleted (db : NavigationDb) (planId : String) (action : StepAction) : Prop :=
  ∃ s ∈ db.steps, s.planId = planId ∧ s.toolName = action ∧ s.status = .completed ∧
    ∀ r ∈ db.steps, r.planId = planId → r.sequence ≤ s.sequence

instance (db : NavigationDb) (planId : String) (action : StepAction) :
    Decidable (LastStepCompleted db planId action) := by
  unfold LastStepCompleted
  infer_instance

/-- The outcome a completed plan gives its task, when its last step validated the result. -/
def planOutcome? (db : NavigationDb) (planId : String) (phase : PlanPhase) :
    Option CompletionOutcome :=
  match phase with
  | .extractSync => none
  | .finishProcessing =>
    if LastStepCompleted db planId .validateNavigationOutputs then
      some .postprocessingCompletedFixPending
    else none
  | .trajectoryReview =>
    if LastStepCompleted db planId .validateTrajectoryReviewOutcome then
      some .trajectoryReviewCompleted
    else none

/-- What `finalize_staged_step` does when no step of the plan is left. -/
def NavigationDb.completePlan (db : NavigationDb) (plan : PlanRow) (now : Timestamp) :
    NavigationDb :=
  let outcome := planOutcome? db plan.planId plan.phase
  let db' := db.updatePlans (fun p => p.planId = plan.planId ∧ p.status = .active) fun p =>
    { p with status := .completed, updatedAt := now }
  let db' := outcome.elim db' fun o => db'.recordTaskOutcome plan.taskId o now
  -- This statement leaves `state_revision` to the triggers of the other ones.
  db'.updateTasks (fun t => t.taskId = plan.taskId) fun t =>
    { t with
      status := if outcome.isSome then TaskStatus.completed else .active, updatedAt := utcNow now }

def finishedStep (staged : OutboxRow) (now : Timestamp) (r : StepRow) : StepRow :=
  { r with
    status := staged.targetStatus.toStep, resultSummary := some staged.resultSummary
    resultRef := some staged.resultRef, finishedAt := some (utcNow now) }

def Finishes (db : NavigationDb) (staged : OutboxRow) (r : StepRow) : Prop :=
  r.planId = staged.planId ∧ r.stepId = staged.stepId ∧ r.status ∈ staged.expectedStatuses ∧
    ∃ p ∈ db.plans, p.planId = r.planId ∧ p.status = .active

instance (db : NavigationDb) (staged : OutboxRow) : DecidablePred (Finishes db staged) :=
  fun r => by
    unfold Finishes
    infer_instance

/-- Some step of the plan remains to be completed. -/
def Unfinished (db : NavigationDb) (planId : String) : Prop :=
  ∃ s ∈ db.steps, s.planId = planId ∧ s.status ≠ .completed

instance (db : NavigationDb) (planId : String) : Decidable (Unfinished db planId) := by
  unfold Unfinished
  infer_instance

def NavigationDb.finishStep (db : NavigationDb) (plan : PlanRow) (staged : OutboxRow)
    (now : Timestamp) : NavigationDb :=
  let db' := db.updateSteps (Finishes db staged) (finishedStep staged now)
  let db' := match staged.targetStatus with
    | .completed => if Unfinished db' plan.planId then db' else db'.completePlan plan now
    | .failed => db'.setTaskStatus (fun t => t.taskId = staged.taskId) .failed now
  db'.deleteOutbox fun r => r.planId = staged.planId ∧ r.stepId = staged.stepId

def finalizeStagedStep (call : Call) (planId stepId action : String) (db : NavigationDb) :
    Except NavigationError (Bool × NavigationDb) := do
  let v ← authorizeClaimTerminalization db planId stepId action call
  match db.outbox.find? (planId, stepId) with
  | none => return (false, db)
  | some staged =>
    if db.steps.rowcount (Finishes db staged) ≠ 1 then return (false, db)
    else return (true, db.finishStep v.plan staged call.now)

/-- `UPDATE navigation_task_steps SET status = 'needs_replan'` for an unfinished ledger. -/
def NavigationDb.stepsNeedReplan (db : NavigationDb) (planId : String) (now : Timestamp) :
    NavigationDb :=
  db.updateSteps (fun r => r.planId = planId ∧ r.status ≠ .completed) fun r =>
    { r with status := .needsReplan, finishedAt := some (utcNow now) }

/-- The statements that invalidate an active plan and its unfinished ledger. -/
def NavigationDb.abandonPlan (db : NavigationDb) (planId taskId reason : String)
    (now : Timestamp) : NavigationDb :=
  let db' := db.updatePlans (fun p => p.planId = planId ∧ p.status = .active) fun p =>
    { p with status := .invalidated, invalidationReason := some reason, updatedAt := utcNow now }
  (db'.stepsNeedReplan planId now).setTaskStatus (fun t => t.taskId = taskId) .needsReplan now

def blockingHandoff? (db : NavigationDb) (plan : PlanRow) : Option HandoffRow :=
  db.handoffs.rows.find? fun h => h.status ≠ .quarantined ∧
    ∃ p ∈ db.plans, p.planId = h.planId ∧ p.taskId = plan.taskId ∧ p.phase = plan.phase

def recoverRunningStepWithoutResult (call : Call) (planId stepId reason action : String)
    (db : NavigationDb) : Except NavigationError (Bool × NavigationDb) := do
  let v ← authorizeClaimTerminalization db planId stepId action call
  if v.step.status ≠ .running ∨ ∃ o ∈ db.outbox, o.planId = planId ∧ o.stepId = stepId then
    return (false, db)
  else match blockingHandoff? db v.plan with
    | some h => .error (.activePlanExecutionConflict
        ("running-step force recovery is blocked by an unacknowledged human handoff (" ++
          h.planId ++ "/" ++ h.stepId ++ "); recover or acknowledge the human handoff first"))
    | none => return (true, db.abandonPlan planId v.plan.taskId reason call.now)

def needsReplanConflict : NavigationError :=
  .activePlanExecutionConflict "cannot mark a navigation plan needs-replan with in-flight work"

def markNeedsReplan (call : Call) (planId reason : String) (db : NavigationDb) :
    Except NavigationError (Bool × NavigationDb) := do
  authorizePlanWrite db planId call
  match db.plans.find? planId with
  | none => return (false, db)
  | some p =>
    if p.status ≠ .active then return (false, db)
    else
      raiseIf (ActivePlanHasInFlightWork db planId) needsReplanConflict
      return (true, db.abandonPlan planId p.taskId reason call.now)

def markTerminalizedClaimNeedsReplan (call : Call) (planId stepId reason action : String)
    (db : NavigationDb) : Except NavigationError (Bool × NavigationDb) := do
  let v ← authorizeClaimTerminalization db planId stepId action call
  if (v.step.status ≠ .completed ∧ v.step.status ≠ .failed) ∨ v.step.resultRef = none ∨
      ∃ o ∈ db.outbox, o.planId = planId ∧ o.stepId = stepId then return (false, db)
  else
    raiseIf (ActivePlanHasInFlightWork db planId) needsReplanConflict
    return (true, db.abandonPlan planId v.plan.taskId reason call.now)

def recordAttempt (call : Call) (attempt : AttemptRow) (db : NavigationDb) :
    Except NavigationError (AttemptRow × NavigationDb) := do
  authorizeNavigationTaskWrite db attempt.taskId call
  raiseIf (db.tasks.find? attempt.taskId = none) .integrityError
  let db ← constrained (db.insertAttempt? attempt)
  return (attempt, db)

end DataJuicer.Navigation

import DataJuicer.Navigation.EvidenceStore
import DataJuicer.Navigation.PlanningContext

/-! # The plan repository

`SqliteNavigationPlanRepository`: plans, their execution ledger and the outbox of staged
results. Payloads are canonical JSON texts. The operations on human decisions are in
`HumanDecisions`.
-/

namespace DataJuicer.Navigation

open Transaction

def planContractVersion : String := "navigation-plan-v4"

def maxExecutionReadChars : ℕ := 4000

def maxResultOutboxChars : ℕ := 262144

def ensureWithinLimit (payload label : String) : Except NavigationError Unit :=
  raiseIf (payload.length > maxExecutionReadChars)
    (.valueError (label ++ " exceeds 4000 characters"))

/-- The step has been claimed or handed to the user, and its result is not known. -/
def StepStatus.InFlight (s : StepStatus) : Prop := s = running ∨ s = waitingUser

instance (s : StepStatus) : Decidable s.InFlight := instDecidableOr

def ActivePlanHasInFlightWork (db : NavigationDb) (planId : String) : Prop :=
  (∃ s ∈ db.steps, s.planId = planId ∧ s.status.InFlight) ∨
  (∃ o ∈ db.outbox, o.planId = planId) ∨
  ∃ h ∈ db.handoffs, h.planId = planId ∧ h.status ≠ .quarantined

instance (db : NavigationDb) (planId : String) : Decidable (ActivePlanHasInFlightWork db planId) :=
  instDecidableOr

/-- `_task_has_in_flight_work`: some plan of the task has any. -/
def TaskHasInFlightWork (db : NavigationDb) (taskId : String) : Prop :=
  ∃ p ∈ db.plans, p.taskId = taskId ∧ ActivePlanHasInFlightWork db p.planId

instance (db : NavigationDb) (taskId : String) : Decidable (TaskHasInFlightWork db taskId) :=
  inferInstanceAs (Decidable (∃ p ∈ db.plans, p.taskId = taskId ∧
    ActivePlanHasInFlightWork db p.planId))

/-- The arguments of `activate`; the plan id is drawn by the repository. -/
structure Activation where
  planId : String
  taskId : String
  phase : PlanPhase
  observationRevision : ℕ
  plan : PlanInput
  expectedPlanningContextRevision : Option String := none
  capabilityRevision : Option String := none

def latestPlanRevision (db : NavigationDb) (taskId : String) (phase : PlanPhase) : ℕ :=
  (((db.plans.select fun p => p.taskId = taskId ∧ p.phase = phase).map (·.planRevision)).max?).getD
    0

def Activation.record (a : Activation) (revision : ℕ) (now : Timestamp) : PlanRow where
  planId := a.planId
  taskId := a.taskId
  phase := a.phase
  planRevision := revision
  contractVersion := planContractVersion
  observationRevision := a.observationRevision
  plan := a.plan
  status := .active
  invalidationReason := none
  createdAt := utcNow now
  updatedAt := utcNow now

def NavigationDb.insertActivePlan? (db : NavigationDb) (r : PlanRow) : Option NavigationDb :=
  if ∃ p ∈ db.plans, p.taskId = r.taskId ∧ p.phase = r.phase ∧
      (p.planRevision = r.planRevision ∨ p.status = .active) then none
  else db.insertPlan? r

def ledgerRow (record : PlanRow) (step : PlanStep) (sequence : ℕ) : StepRow where
  taskId := record.taskId
  phase := record.phase
  stepId := step.stepId
  toolName := step.action
  status := .pending
  startedAt := none
  finishedAt := none
  planId := record.planId
  planRevision := record.planRevision
  sequence := sequence
  resultSummary := none
  resultRef := none
  retryCount := 0

/-- Inserts a ledger row, subject to the unique sequence numbers of a plan. -/
def NavigationDb.insertLedgerRow? (db : NavigationDb) (r : StepRow) : Option NavigationDb :=
  if ∃ s ∈ db.steps, s.planId = r.planId ∧ s.sequence = r.sequence then none
  else db.insertStep? r

/-- `_insert_ledger_rows`, from a sequence number on. -/
def insertLedgerRows (record : PlanRow) : List PlanStep → ℕ → NavigationDb → Option NavigationDb
  | [], _, db => some db
  | step :: steps, n, db =>
    (db.insertLedgerRow? (ledgerRow record step n)).bind (insertLedgerRows record steps (n + 1))

/-- `UPDATE navigation_plans SET status = 'superseded'` for the active plans of a task. -/
def NavigationDb.supersedePlans (db : NavigationDb) (taskId : String) (now : Timestamp) :
    NavigationDb :=
  db.updatePlans (fun p => p.taskId = taskId ∧ p.status = .active) fun p =>
    { p with status := .superseded, updatedAt := utcNow now }

def activate (call : Call) (a : Activation) (db : NavigationDb) :
    Except NavigationError (PlanRow × NavigationDb) := do
  raiseIf (a.plan.phase ≠ a.phase) .validationError
  match db.tasks.find? a.taskId with
  | none => .error (.keyError a.taskId)
  | some task =>
    authorizeNavigationTaskWrite db a.taskId call
    checkPlanningContext db task a.observationRevision a.expectedPlanningContextRevision
      a.capabilityRevision
    raiseIf (TaskHasInFlightWork db a.taskId) (.activePlanExecutionConflict
      ("cannot supersede an active navigation plan with running, waiting-user, " ++
        "or staged outbox work"))
    let record := a.record (latestPlanRevision db a.taskId a.phase + 1) call.now
    let db ← constrained ((db.supersedePlans a.taskId call.now).insertActivePlan? record)
    let db ← constrained (insertLedgerRows record a.plan.steps 0 db)
    return (record, db.updateTasks (fun t => t.taskId = a.taskId) fun t =>
      { t with
        acceptedPlanPhase := some a.phase, updatedAt := utcNow call.now
        stateRevision := t.stateRevision + 1 })

def getActiveForTask (db : NavigationDb) (taskId : String) : Option PlanRow :=
  (db.tasks.find? taskId).bind fun t => db.plans.rows.find? fun p =>
    p.taskId = taskId ∧ t.acceptedPlanPhase = some p.phase ∧ p.status = .active

def invalidate (call : Call) (planId reason : String) (db : NavigationDb) :
    Except NavigationError (PlanRow × NavigationDb) :=
  match db.plans.find? planId with
  | none => .error (.keyError planId)
  | some p => do
    authorizePlanWrite db planId call
    raiseIf (ActivePlanHasInFlightWork db planId)
      (.activePlanExecutionConflict "cannot invalidate a navigation plan with in-flight work")
    let mark := fun p : PlanRow =>
      { p with
        status := .invalidated, invalidationReason := some reason, updatedAt := utcNow call.now }
    return (mark p, db.updatePlans (fun p => p.planId = planId) mark)

inductive StepClaimOutcome
  | claimed
  | notClaimable
  | navigationDataBusy
  deriving DecidableEq

def TargetBusy (db : NavigationDb) (task : TaskRow) (planId stepId : String) : Prop :=
  ∃ s ∈ db.steps, s.status = .running ∧ s.toolName.LocksTarget ∧
    ¬ (s.planId = planId ∧ s.stepId = stepId) ∧
    ∃ p ∈ db.plans, p.planId = s.planId ∧ p.status = .active ∧
      p.plan.Names s.stepId s.toolName.name ∧
      ∃ t ∈ db.tasks, t.taskId = s.taskId ∧ t.dryRun = false ∧ t.date = task.date ∧
        navigationTargetsOverlap task.date (storedArg task.segments) t.date
          (storedArg t.segments) = true

instance (db : NavigationDb) (task : TaskRow) (planId stepId : String) :
    Decidable (TargetBusy db task planId stepId) := by
  unfold TargetBusy
  infer_instance

def ActivePlanOwned (db : NavigationDb) (planId : String) (call : Call) : Prop :=
  ∃ p ∈ db.plans, p.planId = planId ∧ p.status = .active ∧
    ∃ t ∈ db.tasks, t.taskId = p.taskId ∧ call.Owns t

instance (db : NavigationDb) (planId : String) (call : Call) :
    Decidable (ActivePlanOwned db planId call) := by
  unfold ActivePlanOwned
  infer_instance

/-- `WHERE plan_id = ? AND step_id = ? AND tool_name = ? AND status = ?` -/
def StepRow.At (planId stepId action : String) (status : StepStatus) (r : StepRow) : Prop :=
  r.planId = planId ∧ r.stepId = stepId ∧ r.toolName.name = action ∧ r.status = status

instance (planId stepId action : String) (status : StepStatus) :
    DecidablePred (StepRow.At planId stepId action status) := fun _ => instDecidableAnd

/-- The candidate row of `claim_step`: the plan names the step with this action. -/
def claimCandidate? (db : NavigationDb) (planId stepId action : String) : Option StepView :=
  (stepView? db planId stepId).filter fun v =>
    v.step.toolName.name = action ∧ v.plan.plan.Names stepId action

def claimStep (call : Call) (planId stepId action : String) (db : NavigationDb) :
    Except NavigationError (StepClaimOutcome × NavigationDb) :=
  match authorizePlanWrite db planId call with
  | .error (.taskNotCurrent _) => .ok (.notClaimable, db)
  | .error e => .error e
  | .ok () =>
    match claimCandidate? db planId stepId action with
    | none => .ok (.notClaimable, db)
    | some v =>
      if v.step.status ≠ .pending ∨ v.plan.status ≠ .active then .ok (.notClaimable, db)
      else if v.task.dryRun = false ∧ action ∈ lockingActions ∧
          TargetBusy db v.task planId stepId then .ok (.navigationDataBusy, db)
      else
        let claims := fun r : StepRow =>
          r.At planId stepId action .pending ∧ ActivePlanOwned db r.planId call
        if db.steps.rowcount claims = 1 then
          .ok (.claimed, db.updateSteps claims fun r =>
            { r with status := .running, startedAt := some (utcNow call.now) })
        else .ok (.notClaimable, db)

def markWaitingUser (call : Call) (planId stepId action : String) (db : NavigationDb) :
    Except NavigationError (Bool × NavigationDb) := do
  authorizePlanWrite db planId call
  let waits := fun r : StepRow =>
    r.At planId stepId action .pending ∧ ActivePlanOwned db r.planId call
  return (decide (db.steps.rowcount waits = 1), db.updateSteps waits fun r =>
    { r with status := .waitingUser, startedAt := r.startedAt.or (some (utcNow call.now)) })

def activeStepView? (db : NavigationDb) (planId stepId action : String) : Option StepView :=
  (stepView? db planId stepId).filter fun v =>
    v.step.toolName.name = action ∧ v.plan.status = .active

/-- `UPDATE navigation_tasks SET status = ?` with its own revision step. -/
def NavigationDb.setTaskStatus (db : NavigationDb) (p : TaskRow → Prop) [DecidablePred p]
    (status : TaskStatus) (now : Timestamp) : NavigationDb :=
  db.updateTasks p fun t =>
    { t with status := status, updatedAt := utcNow now, stateRevision := t.stateRevision + 1 }

def resumeWaitingWorkflowStep (call : Call) (planId stepId action : String) (db : NavigationDb) :
    Except NavigationError (Bool × NavigationDb) := do
  authorizePlanWrite db planId call
  match activeStepView? db planId stepId action with
  | none => return (false, db)
  | some v =>
    if v.step.status = .running ∧ v.task.status = .active then return (true, db)
    else if v.step.status ≠ .waitingUser ∨
        (v.task.status ≠ .waitingUser ∧ v.task.status ≠ .active) then return (false, db)
    else
      let resumes := StepRow.At planId stepId action .waitingUser
      if db.steps.rowcount resumes ≠ 1 then return (false, db)
      else
        let db' := db.updateSteps resumes fun r =>
          { r with status := .running, startedAt := r.startedAt.or (some (utcNow call.now)) }
        return (true, db'.setTaskStatus (fun t => t.taskId = v.task.taskId ∧
          (t.status = .waitingUser ∨ t.status = .active)) .active call.now)

def markWorkflowStepWaitingUser (call : Call) (planId stepId action : String)
    (db : NavigationDb) : Except NavigationError (Bool × NavigationDb) := do
  authorizePlanWrite db planId call
  match activeStepView? db planId stepId action with
  | none => return (false, db)
  | some v =>
    if v.step.status = .waitingUser ∧ v.task.status = .waitingUser then return (true, db)
    else if (v.step.status ≠ .pending ∧ v.step.status ≠ .running) ∨
        (v.task.status ≠ .active ∧ v.task.status ≠ .waitingUser) then return (false, db)
    else
      let waits := StepRow.At planId stepId action v.step.status
      if db.steps.rowcount waits ≠ 1 then return (false, db)
      else
        let db' := db.updateSteps waits fun r =>
          { r with status := .waitingUser, startedAt := r.startedAt.or (some (utcNow call.now)) }
        let task := fun t : TaskRow => t.taskId = v.task.taskId ∧
          (t.status = .active ∨ t.status = .waitingUser)
        if db'.tasks.rowcount task ≠ 1 then return (false, db)
        else return (true, db'.setTaskStatus task .waitingUser call.now)

end DataJuicer.Navigation

import DataJuicer.Navigation.Operations

/-! # What a request does to the ledger

The plans with their steps, staged results and handoffs are the execution ledger. This
module says once, for each operation, which change of the ledger it commits and what it has
checked before; the invariants of the following modules are read off these moves.
-/

namespace DataJuicer.Navigation

/-- The tables of plan execution. -/
structure Ledger where
  plans : Table PlanRow
  steps : Table StepRow
  outbox : Table OutboxRow
  handoffs : Table HandoffRow

namespace NavigationDb

def ledger (db : NavigationDb) : Ledger := ⟨db.plans, db.steps, db.outbox, db.handoffs⟩

variable (db : NavigationDb)

@[simp] theorem ledger_plans : db.ledger.plans = db.plans := rfl
@[simp] theorem ledger_steps : db.ledger.steps = db.steps := rfl
@[simp] theorem ledger_outbox : db.ledger.outbox = db.outbox := rfl
@[simp] theorem ledger_handoffs : db.ledger.handoffs = db.handoffs := rfl

@[simp] theorem ledger_updateTasks (p : TaskRow → Prop) [DecidablePred p] (f : TaskRow → TaskRow)
    (hf : ∀ r, key (f r) = key r) : (db.updateTasks p f hf).ledger = db.ledger := rfl

@[simp] theorem ledger_setTaskStatus (p : TaskRow → Prop) [DecidablePred p] (s : TaskStatus)
    (now : Timestamp) : (db.setTaskStatus p s now).ledger = db.ledger := rfl

end NavigationDb

def StepRow.Is (planId stepId : String) (r : StepRow) : Prop :=
  r.planId = planId ∧ r.stepId = stepId

instance (planId stepId : String) : DecidablePred (StepRow.Is planId stepId) :=
  fun _ => instDecidableAnd

namespace Ledger

variable (l : Ledger)

def moveStep (planId stepId : String) (status : StepStatus)
    (start : Option Timestamp → Option Timestamp) : Ledger :=
  { l with steps := l.steps.update (StepRow.Is planId stepId) fun r =>
      { r with status := status, startedAt := start r.startedAt } }

/-- A plan takes a status; `p` selects the statuses the statement asks for. -/
def markPlan (planId : String) (p : PlanStatus → Prop) [DecidablePred p]
    (f : PlanRow → PlanRow) (hf : ∀ r, key (f r) = key r := by exact fun _ => rfl) : Ledger :=
  { l with plans := l.plans.update (fun r => r.planId = planId ∧ p r.status) f hf }

def invalidatePlan (planId reason : String) (now : Timestamp) (p : PlanStatus → Prop)
    [DecidablePred p] : Ledger :=
  l.markPlan planId p
    (fun r => { r with
      status := .invalidated, invalidationReason := some reason, updatedAt := utcNow now })
    fun r => Table.key_self r

def stepsNeedReplan (planId : String) (now : Timestamp) : Ledger :=
  { l with
    steps := l.steps.update (fun r => r.planId = planId ∧ r.status ≠ .completed)
      (fun r => { r with status := .needsReplan, finishedAt := some (utcNow now) })
      fun r => Table.key_self r }

def abandon (planId reason : String) (now : Timestamp) : Ledger :=
  (l.invalidatePlan planId reason now (· = .active)).stepsNeedReplan planId now

def removeOutbox (planId stepId : String) : Ledger :=
  { l with outbox := l.outbox.delete fun r => r.planId = planId ∧ r.stepId = stepId }

def finish (staged : OutboxRow) (now : Timestamp) : Ledger :=
  { l with
    steps := l.steps.update (StepRow.Is staged.planId staged.stepId) (finishedStep staged now)
      fun r => Table.key_self r }

/-- A plan without unfinished steps is completed. -/
def complete (planId : String) (now : Timestamp) : Ledger :=
  l.markPlan planId (· = .active)
    (fun r => { r with status := .completed, updatedAt := now }) fun r => Table.key_self r

/-- The active plans of these tasks are given up. -/
def reset (ids : List String) (reason : String) (now : Timestamp) : Ledger :=
  let active := fun planId => ∃ p ∈ l.plans, p.planId = planId ∧ p.status = .active
  { plans := l.plans.update (fun p => p.taskId ∈ ids ∧ p.status = .active)
      (fun p => { p with
        status := .invalidated, invalidationReason := some reason, updatedAt := utcNow now })
      fun p => Table.key_self p
    steps := l.steps.update (fun r => r.taskId ∈ ids ∧ r.status ≠ .completed ∧ active r.planId)
      (fun r => { r with status := .failed, finishedAt := r.finishedAt.or (some (utcNow now)) })
      fun r => Table.key_self r
    outbox := l.outbox.delete fun r => r.taskId ∈ ids
    handoffs := l.handoffs.update (fun r => r.taskId ∈ ids ∧ active r.planId)
      (fun r => { r with
        status := .quarantined, deliveryStatus := .quarantined
        deliveryOwner := none, deliveryToken := none
        recoveryReasonCode := some "dataset_reset"
        recoveredAt := some (utcNow now), updatedAt := utcNow now })
      fun r => Table.key_self r }

end Ledger

/-- `claim_step` claims. -/
structure Claimable (db : NavigationDb) (call : Call) (planId stepId action : String)
    (v : StepView) : Prop where
  auth : authorizePlanWrite db planId call = .ok ()
  joins : v.Joins db planId stepId
  action_name : v.step.toolName.name = action
  names : v.plan.plan.Names stepId action
  pending : v.step.status = .pending
  active : v.plan.status = .active
  free : ¬ (v.task.dryRun = false ∧ action ∈ lockingActions ∧ TargetBusy db v.task planId stepId)

/-- `mark_waiting_user` marks. -/
structure Waitable (db : NavigationDb) (call : Call) (planId stepId action : String)
    (s : StepRow) : Prop where
  auth : authorizePlanWrite db planId call = .ok ()
  step_mem : s ∈ db.steps
  at_pending : s.At planId stepId action .pending
  owned : ActivePlanOwned db planId call

/-- `resume_waiting_workflow_step` resumes. -/
structure Resumable (db : NavigationDb) (call : Call) (planId stepId action : String)
    (v : StepView) : Prop where
  auth : authorizePlanWrite db planId call = .ok ()
  joins : v.Joins db planId stepId
  action_name : v.step.toolName.name = action
  active : v.plan.status = .active
  waiting : v.step.status = .waitingUser
  task_open : v.task.status = .waitingUser ∨ v.task.status = .active

/-- `mark_workflow_step_waiting_user` marks. -/
structure WorkflowWaitable (db : NavigationDb) (call : Call) (planId stepId action : String)
    (v : StepView) : Prop where
  auth : authorizePlanWrite db planId call = .ok ()
  joins : v.Joins db planId stepId
  action_name : v.step.toolName.name = action
  active : v.plan.status = .active
  status : v.step.status = .pending ∨ v.step.status = .running
  task_open : v.task.status = .active ∨ v.task.status = .waitingUser

/-- `recover_running_step_without_result` recovers. -/
structure Recoverable (db : NavigationDb) (call : Call) (planId stepId action : String)
    (v : StepView) : Prop where
  auth : authorizeClaimTerminalization db planId stepId action call = .ok v
  running : v.step.status = .running
  no_result : ∀ o ∈ db.outbox, ¬ (o.planId = planId ∧ o.stepId = stepId)
  no_handoff : blockingHandoff? db v.plan = none

/-- `quarantine_human_decision_handoff` quarantines. -/
structure Quarantinable (db : NavigationDb) (now : Timestamp) (web planId stepId reason : String)
    (h : HandoffRow) : Prop where
  reason_given : isBlank reason = false
  handoff_mem : h ∈ db.handoffs
  handoff_id : h.planId = planId ∧ h.stepId = stepId
  auth : ∃ t ∈ db.tasks, t.taskId = h.taskId ∧ t.createdByWebSessionId = web ∧ ∃ v,
    authorizeHandoffTerminalization db planId stepId
      ⟨now, some web, some t.agentscopeSessionId⟩ = .ok v
  recovery : h.status = .recoveryRequired ∧ h.deliveryStatus = .recoveryRequired

/-- `invalidate` invalidates. -/
structure Invalidatable (db : NavigationDb) (call : Call) (planId : String) : Prop where
  auth : authorizePlanWrite db planId call = .ok ()
  idle : ¬ ActivePlanHasInFlightWork db planId

/-- `mark_needs_replan` marks. -/
structure Replannable (db : NavigationDb) (call : Call) (planId : String) (p : PlanRow) :
    Prop where
  auth : authorizePlanWrite db planId call = .ok ()
  plan_mem : p ∈ db.plans
  plan_id : p.planId = planId
  active : p.status = .active
  idle : ¬ ActivePlanHasInFlightWork db planId

/-- `mark_terminalized_claim_needs_replan` marks. -/
structure Terminalizable (db : NavigationDb) (call : Call) (planId stepId action : String)
    (v : StepView) : Prop where
  auth : authorizeClaimTerminalization db planId stepId action call = .ok v
  terminal : v.step.status = .completed ∨ v.step.status = .failed
  evidence : v.step.resultRef ≠ none
  idle : ¬ ActivePlanHasInFlightWork db planId

/-- `finalize_staged_step` finishes the step of a staged result. -/
structure Finalizable (db : NavigationDb) (call : Call) (planId stepId action : String)
    (v : StepView) (staged : OutboxRow) : Prop where
  auth : authorizeClaimTerminalization db planId stepId action call = .ok v
  staged_mem : staged ∈ db.outbox
  staged_id : staged.planId = planId ∧ staged.stepId = stepId
  expected : v.step.status ∈ staged.expectedStatuses

section Authorized

variable {db : NavigationDb} {call : Call} {planId stepId action : String} {v : StepView}

theorem joins_of_authorized (h : authorizeClaimTerminalization db planId stepId action
    call = .ok v) :
    v.Joins db planId stepId ∧ v.step.toolName.name = action ∧ v.plan.status = .active := by
  obtain ⟨_, hv, haction, hactive, _⟩ := authorizeClaimTerminalization_eq_ok.1 h
  exact ⟨hv, haction, hactive⟩

theorem Recoverable.joins (h : Recoverable db call planId stepId action v) :
    v.Joins db planId stepId := (joins_of_authorized h.auth).1

theorem Terminalizable.joins (h : Terminalizable db call planId stepId action v) :
    v.Joins db planId stepId := (joins_of_authorized h.auth).1

theorem Finalizable.joins {staged : OutboxRow}
    (h : Finalizable db call planId stepId action v staged) : v.Joins db planId stepId :=
  (joins_of_authorized h.auth).1

theorem Finalizable.active {staged : OutboxRow}
    (h : Finalizable db call planId stepId action v staged) : v.plan.status = .active :=
  (joins_of_authorized h.auth).2.2

end Authorized

/-- The operations on the delivery of a staged decision. -/
def Op.Delivers : Op → Prop
  | .claimHumanDecisionDelivery .. | .markHumanDecisionRecoveryRequired ..
  | .finishHumanDecisionDelivery .. | .markConsumedHumanDecisionDelivery .. => True
  | _ => False

/-- The ledgers that a committed request can leave. -/
inductive LedgerMove (db : NavigationDb) : Op → Ledger → Prop
  | same (op : Op) : LedgerMove db op db.ledger
  | deleted {call : Call} {taskId : String} {r : ℕ} (hs : ∀ s ∈ db.steps, s.taskId ≠ taskId) :
      LedgerMove db (.deleteTaskIfCurrent call taskId r) (db.deleteTask taskId).ledger
  | reset {now : Timestamp} {date resetRef : String} :
      LedgerMove db (.cancelNonterminalForDatasetReset now date resetRef)
        (db.ledger.reset (nonterminalTaskIds db date) ("dataset_reset:" ++ resetRef) now)
  | activated {call : Call} {a : Activation} {record : PlanRow} {plans : Table PlanRow}
      {steps : Table StepRow} {t : TaskRow} (ht : t ∈ db.tasks) (hid : t.taskId = a.taskId)
      (hphase : a.plan.phase = a.phase) (hidle : ¬ TaskHasInFlightWork db a.taskId)
      (hrecord : record =
        a.record (latestPlanRevision db a.taskId a.phase + 1) call.now)
      (hplans : (db.supersedePlans a.taskId call.now).plans.insert? record = some plans)
      (hsteps : ∀ s, s ∈ steps ↔ s ∈ db.steps ∨ ∃ i step, a.plan.steps[i]? = some step ∧
        s = ledgerRow record step i)
      (hnew : ∀ s ∈ db.steps, ∀ r ∈ a.plan.steps, key s ≠ (a.planId, r.stepId)) :
      LedgerMove db (.activate call a) { db.ledger with plans := plans, steps := steps }
  | invalidated {call : Call} {planId reason : String} (h : Invalidatable db call planId) :
      LedgerMove db (.invalidate call planId reason)
        (db.ledger.invalidatePlan planId reason call.now fun _ => True)
  | claimed {call : Call} {planId stepId action : String} {v : StepView}
      (h : Claimable db call planId stepId action v) :
      LedgerMove db (.claimStep call planId stepId action)
        (db.ledger.moveStep planId stepId .running fun _ => some (utcNow call.now))
  | waited {call : Call} {planId stepId action : String} {s : StepRow}
      (h : Waitable db call planId stepId action s) :
      LedgerMove db (.markWaitingUser call planId stepId action)
        (db.ledger.moveStep planId stepId .waitingUser (·.or (some (utcNow call.now))))
  | resumed {call : Call} {planId stepId action : String} {v : StepView}
      (h : Resumable db call planId stepId action v) :
      LedgerMove db (.resumeWaitingWorkflowStep call planId stepId action)
        (db.ledger.moveStep planId stepId .running (·.or (some (utcNow call.now))))
  | workflowWaited {call : Call} {planId stepId action : String} {v : StepView}
      (h : WorkflowWaitable db call planId stepId action v) :
      LedgerMove db (.markWorkflowStepWaitingUser call planId stepId action)
        (db.ledger.moveStep planId stepId .waitingUser (·.or (some (utcNow call.now))))
  | staged {call : Call} {planId stepId action ref : String} {result : StepResult} {v : StepView}
      {outbox : Table OutboxRow} (hv : v.Joins db planId stepId)
      (haction : v.step.toolName.name = action) (hactive : v.plan.status = .active)
      (hallowed : StagingAllowed action result.expectedStatuses)
      (hstatus : v.step.status ∈ result.expectedStatuses)
      (houtbox : db.outbox.insert? (stagedRow v result ref call.now) = some outbox) :
      LedgerMove db (.stageStepResult call planId stepId action result)
        { db.ledger with outbox := outbox }
  | attached {call : Call} {planId stepId resultRef action : String} :
      LedgerMove db (.attachStagedResultEvidence call planId stepId resultRef action)
        { db.ledger with
          outbox := db.outbox.update (fun r => r.planId = planId ∧ r.stepId = stepId) fun r =>
            { r with resultRef := resultRef, updatedAt := utcNow call.now } }
  | finished {call : Call} {planId stepId action : String} {v : StepView} {staged : OutboxRow}
      (h : Finalizable db call planId stepId action v staged) (l : Ledger)
      (hl : (l = db.ledger.finish staged call.now ∧ (staged.targetStatus = .failed ∨
          ∃ s ∈ l.steps, s.planId = planId ∧ s.status ≠ .completed)) ∨
        (l = (db.ledger.finish staged call.now).complete planId call.now ∧
          staged.targetStatus = .completed ∧
          ∀ s ∈ l.steps, s.planId = planId → s.status = .completed)) :
      LedgerMove db (.finalizeStagedStep call planId stepId action) (l.removeOutbox planId stepId)
  | recovered {call : Call} {planId stepId reason action : String} {v : StepView}
      (h : Recoverable db call planId stepId action v) :
      LedgerMove db (.recoverRunningStepWithoutResult call planId stepId reason action)
        (db.ledger.abandon planId reason call.now)
  | replanned {call : Call} {planId reason : String} {p : PlanRow}
      (h : Replannable db call planId p) :
      LedgerMove db (.markNeedsReplan call planId reason)
        (db.ledger.abandon planId reason call.now)
  | terminalized {call : Call} {planId stepId reason action : String} {v : StepView}
      (h : Terminalizable db call planId stepId action v) :
      LedgerMove db (.markTerminalizedClaimNeedsReplan call planId stepId reason action)
        (db.ledger.abandon planId reason call.now)
  | handoffStaged {call : Call} {planId stepId ref : String} {d : HumanDecision} {v : StepView}
      {handoffs : Table HandoffRow} {outbox : Table OutboxRow} (hv : v.Joins db planId stepId)
      (haction : v.step.toolName = .confirmNavigationCalibrationParams)
      (hactive : v.plan.status = .active)
      (hstatus : v.step.status = .pending ∨ v.step.status = .waitingUser)
      (hhandoffs : db.handoffs.insert? (stagedHandoff v d call.now) = some handoffs)
      (houtbox : db.outbox.insert? (stagedRow v d.result ref call.now) = some outbox) :
      LedgerMove db (.stageHumanDecisionHandoff call planId stepId d)
        { db.ledger with handoffs := handoffs, outbox := outbox }
  | acknowledged {call : Call} {planId stepId decisionKey : String} :
      LedgerMove db (.acknowledgeHumanDecisionHandoff call planId stepId decisionKey)
        { db.ledger with handoffs := db.handoffs.delete fun h => h.planId = planId ∧
            h.stepId = stepId ∧ h.decisionKey = decisionKey ∧ h.status = .pending }
  | handoffUpdated {op : Op} (hop : op.Delivers) (p : HandoffRow → Prop) [DecidablePred p]
      (f : HandoffRow → HandoffRow) (hf : ∀ r, key (f r) = key r)
      (htask : ∀ r, (f r).taskId = r.taskId)
      (hopen : ∀ r, p r → ((f r).status = .quarantined ↔ r.status = .quarantined)) :
      LedgerMove db op { db.ledger with handoffs := db.handoffs.update p f hf }
  | anchored {call : Call} {planId stepId code anchor : String} {v : StepView}
      {handoffs : Table HandoffRow} (hv : v.Joins db planId stepId)
      (haction : v.step.toolName = .confirmNavigationCalibrationParams)
      (hactive : v.plan.status = .active) (hstatus : v.step.status = .waitingUser)
      (hhandoffs : db.handoffs.insert? (anchoredHandoff v anchor code call.now) = some handoffs) :
      LedgerMove db (.markHumanDecisionRecoveryRequired call planId stepId code (some anchor))
        { db.ledger with handoffs := handoffs }
  | quarantined {now : Timestamp} {web planId stepId reason : String} {h : HandoffRow}
      (hq : Quarantinable db now web planId stepId reason h) :
      LedgerMove db (.quarantineHumanDecisionHandoff now web planId stepId reason)
        (db.quarantineHandoff h now).ledger

end DataJuicer.Navigation

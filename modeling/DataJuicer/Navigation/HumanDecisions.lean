import DataJuicer.Navigation.StepResults

/-! # Human decisions

A decision of the user is staged together with the result of its step, and delivered to the
agent under a lease: a token that the deliverer must give back. An expired lease is never
taken over; it leads to an explicit recovery.
-/

namespace DataJuicer.Navigation

open Transaction

def maxHumanDecisionChars : ℕ := 16384

/-- `HUMAN_DECISION_DELIVERY_LEASE_SECONDS`, in microseconds. -/
def deliveryLease : Timestamp := 60 * 1000000

/-- A decision with the result it gives its step; the payloads are canonical JSON. -/
structure HumanDecision where
  decisionKey : String
  decision : String
  targetStatus : TargetStatus
  fullResult : String
  resultSummary : String

inductive HandoffStage
  | created
  | existing
  | conflict

/-- The step that `confirm_navigation_calibration_params` waits with. -/
def confirmationView? (db : NavigationDb) (planId stepId : String) : Option StepView :=
  (stepView? db planId stepId).filter fun v =>
    v.step.toolName = .confirmNavigationCalibrationParams ∧ v.plan.status = .active

def stagedHandoff (v : StepView) (d : HumanDecision) (now : Timestamp) : HandoffRow where
  planId := v.step.planId
  stepId := v.step.stepId
  taskId := v.step.taskId
  decisionKey := d.decisionKey
  decision := d.decision
  status := .pending
  createdAt := utcNow now
  updatedAt := utcNow now

def HumanDecision.result (d : HumanDecision) : StepResult where
  targetStatus := d.targetStatus
  fullResult := d.fullResult
  resultSummary := d.resultSummary
  expectedStatuses := [.pending, .waitingUser]

def stageHumanDecisionHandoff (call : Call) (planId stepId : String) (d : HumanDecision)
    (db : NavigationDb) : Except NavigationError (HandoffStage × NavigationDb) := do
  ensureWithinLimit d.resultSummary "human decision result summary"
  raiseIf (d.decision.utf8ByteSize > maxHumanDecisionChars)
    (.valueError "human decision exceeds 16384 byte limit")
  raiseIf (d.fullResult.utf8ByteSize > maxResultOutboxChars)
    (.valueError "human result exceeds 262144 byte outbox limit")
  authorizePlanWrite db planId call
  match db.handoffs.find? (planId, stepId) with
  | some h =>
    return (if h.decisionKey = d.decisionKey ∧ h.decision = d.decision then .existing
      else .conflict, db)
  | none =>
    match confirmationView? db planId stepId with
    | none => return (.conflict, db)
    | some v =>
      if v.step.status ≠ .pending ∧ v.step.status ≠ .waitingUser then return (.conflict, db)
      else
        let ref ← intendedResultRef v.step.taskId v.plan.observationRevision planId stepId
          d.fullResult
        let db ← constrained (db.insertHandoff? (stagedHandoff v d call.now))
        let db ← constrained (db.insertOutbox? (stagedRow v d.result ref call.now))
        return (.created, db)

def acknowledgeHumanDecisionHandoff (call : Call) (planId stepId decisionKey : String)
    (db : NavigationDb) : Except NavigationError (Bool × NavigationDb) := do
  let _ ← authorizeHandoffTerminalization db planId stepId call
  let acknowledged := fun h : HandoffRow => h.planId = planId ∧ h.stepId = stepId ∧
    h.decisionKey = decisionKey ∧ h.status = .pending
  return (decide (db.handoffs.rowcount acknowledged = 1), db.deleteHandoffs acknowledged)

inductive DeliveryClaim
  | claimed (token : String)
  | busy
  | delivered
  | missing
  | recoveryRequired

/-- The lease is held at this time. -/
def HandoffRow.Leased (h : HandoffRow) (now : Timestamp) : Prop :=
  h.deliveryStatus = .delivering ∧ h.expiresAt.any fun e => now < e

instance (h : HandoffRow) (now : Timestamp) : Decidable (h.Leased now) := instDecidableAnd

/-- `claim_human_decision_delivery`; the token is drawn by the repository. -/
def claimHumanDecisionDelivery (call : Call) (planId stepId decisionKey owner token : String)
    (db : NavigationDb) : Except NavigationError (DeliveryClaim × NavigationDb) := do
  let v ← authorizeHandoffTerminalization db planId stepId call
  let h := v.handoff
  let here := fun r : HandoffRow =>
    r.planId = planId ∧ r.stepId = stepId ∧ r.decisionKey = decisionKey
  if h.decisionKey ≠ decisionKey then return (.missing, db)
  else if h.status = .quarantined then return (.missing, db)
  else if h.status = .recoveryRequired then return (.recoveryRequired, db)
  else if h.deliveryStatus = .delivered then return (.delivered, db)
  else if h.Leased call.now then return (.busy, db)
  else if h.deliveryStatus = .delivering then
    return (.recoveryRequired, db.updateHandoffs (fun r => here r ∧ r.status = .pending ∧
      r.deliveryStatus = .delivering) fun r =>
        { r with
          status := .recoveryRequired, deliveryStatus := .recoveryRequired
          recoveryReasonCode := some "delivery_lease_expired", updatedAt := utcNow call.now })
  else
    return (.claimed token, db.updateHandoffs here fun r =>
      { r with
        deliveryStatus := .delivering, deliveryOwner := some owner, deliveryToken := some token
        leasedAt := some (utcNow call.now)
        expiresAt := some (utcNow (call.now + deliveryLease)), updatedAt := utcNow call.now })

/-- `str.lower` as far as it yields a character that a reason code may have. -/
def lowerForCode (c : Char) : List Char :=
  if c.toNat = 0x212A then ['k'] else if c.toNat = 0x130 then ['i', '_'] else [c.toLower]

def safeReasonCode (code : String) : String :=
  let safe := fun c : Char => c.isLower || c.isDigit || c == '_' || c == ':' || c == '-'
  let l := (code.toList.flatMap lowerForCode).map fun c => if safe c then c else '_'
  if l = [] then "ambiguous_delivery_state" else String.ofList (l.take 128)

/-- The row that `mark_human_decision_recovery_required` inserts for a request anchor. -/
def anchoredHandoff (v : StepView) (anchor code : String) (now : Timestamp) : HandoffRow where
  planId := v.step.planId
  stepId := v.step.stepId
  taskId := v.step.taskId
  decisionKey := Sha256.hexdigest anchor
  decision := anchor
  status := .recoveryRequired
  deliveryStatus := .recoveryRequired
  recoveryReasonCode := some (safeReasonCode code)
  createdAt := utcNow now
  updatedAt := utcNow now

def markHumanDecisionRecoveryRequired (call : Call) (planId stepId reasonCode : String)
    (requestAnchor : Option String) (db : NavigationDb) :
    Except NavigationError (Bool × NavigationDb) :=
  match db.handoffs.find? (planId, stepId) with
  | none => do
    authorizePlanWrite db planId call
    match requestAnchor with
    | none => return (false, db)
    | some anchor =>
      raiseIf (anchor.utf8ByteSize > maxHumanDecisionChars)
        (.valueError "human decision request anchor exceeds 16384 byte limit")
      match confirmationView? db planId stepId with
      | none => return (false, db)
      | some v =>
        if v.step.status ≠ .waitingUser then return (false, db)
        else
          let db ← constrained (db.insertHandoff? (anchoredHandoff v anchor reasonCode call.now))
          return (true, db)
  | some h => do
    let _ ← authorizeHandoffTerminalization db planId stepId call
    if h.status = .quarantined then return (false, db)
    else if h.status = .recoveryRequired then return (true, db)
    else if h.deliveryStatus = .delivered then return (false, db)
    else
      let recovers := fun r : HandoffRow => r.planId = planId ∧ r.stepId = stepId ∧
        r.status = .pending ∧ (r.deliveryStatus = .pending ∨ r.deliveryStatus = .delivering)
      return (decide (db.handoffs.rowcount recovers = 1), db.updateHandoffs recovers fun r =>
        { r with
          status := .recoveryRequired, deliveryStatus := .recoveryRequired
          recoveryReasonCode := some (safeReasonCode reasonCode), updatedAt := utcNow call.now })

/-- The statements of `quarantine_human_decision_handoff`. -/
def NavigationDb.quarantineHandoff (db : NavigationDb) (h : HandoffRow) (now : Timestamp) :
    NavigationDb :=
  let db' := db.updateHandoffs (fun r => r.planId = h.planId ∧ r.stepId = h.stepId ∧
    r.status = .recoveryRequired ∧ r.deliveryStatus = .recoveryRequired) fun r =>
      { r with
        status := .quarantined, deliveryStatus := .quarantined
        recoveredAt := some (utcNow now), updatedAt := utcNow now }
  let db' := db'.deleteOutbox fun r => r.planId = h.planId ∧ r.stepId = h.stepId
  let db' := db'.updatePlans (fun p => p.planId = h.planId) fun p =>
    { p with
      status := .invalidated, invalidationReason := some "human_handoff_quarantined"
      updatedAt := utcNow now }
  (db'.stepsNeedReplan h.planId now).setTaskStatus (fun t => t.taskId = h.taskId)
    .needsReplan now

/-- `quarantine_human_decision_handoff`, called by the operator of a Web session. -/
def quarantineHumanDecisionHandoff (now : Timestamp) (web planId stepId reason : String)
    (db : NavigationDb) : Except NavigationError (Unit × NavigationDb) := do
  raiseIf (isBlank reason) (.valueError "recovery reason must not be empty")
  let notFound := NavigationError.activePlanExecutionConflict "human handoff was not found"
  match db.handoffs.find? (planId, stepId) with
  | none => .error notFound
  | some h =>
    match db.tasks.find? h.taskId with
    | none => .error notFound
    | some t =>
      raiseIf (t.createdByWebSessionId ≠ web) (.activePlanExecutionConflict
        "human handoff does not belong to the requested Web session")
      let _ ← authorizeHandoffTerminalization db planId stepId
        ⟨now, some web, some t.agentscopeSessionId⟩
      raiseIf (h.status ≠ .recoveryRequired ∨ h.deliveryStatus ≠ .recoveryRequired)
        (.activePlanExecutionConflict
          "only a recovery_required human handoff may be quarantined")
      return ((), db.quarantineHandoff h now)

def finishHumanDecisionDelivery (call : Call) (planId stepId decisionKey token : String)
    (delivered : Bool) (db : NavigationDb) : Except NavigationError (Bool × NavigationDb) := do
  let _ ← authorizeHandoffTerminalization db planId stepId call
  let held := fun r : HandoffRow => r.planId = planId ∧ r.stepId = stepId ∧
    r.decisionKey = decisionKey ∧ r.deliveryStatus = .delivering ∧ r.deliveryToken = some token
  return (decide (db.handoffs.rowcount held = 1), db.updateHandoffs held fun r =>
    { r with
      deliveryStatus := if delivered then .delivered else .pending
      deliveryOwner := none, deliveryToken := none, leasedAt := none, expiresAt := none
      updatedAt := utcNow call.now })

def markConsumedHumanDecisionDelivery (call : Call) (planId stepId decisionKey : String)
    (db : NavigationDb) : Except NavigationError (Bool × NavigationDb) := do
  let _ ← authorizeHandoffTerminalization db planId stepId call
  let consumed := fun r : HandoffRow => r.planId = planId ∧ r.stepId = stepId ∧
    r.decisionKey = decisionKey ∧ (r.status = .pending ∨ r.status = .recoveryRequired) ∧
    r.deliveryStatus ≠ .delivered
  return (decide (db.handoffs.rowcount consumed = 1), db.updateHandoffs consumed fun r =>
    { r with
      status := .pending, deliveryStatus := .delivered
      deliveryOwner := none, deliveryToken := none, leasedAt := none, expiresAt := none
      updatedAt := utcNow call.now })

end DataJuicer.Navigation

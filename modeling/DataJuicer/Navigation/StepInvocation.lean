import DataJuicer.Lib.Interleaving
import DataJuicer.Navigation.Operations

/-! # Invoking a plan step

`_invoke_plan_step` reads the state of the plan, claims the step, calls the processing function,
stages its result and finalizes it. Each of these is a transaction or a side effect of its own, so
calls of any number of sessions interleave at this grain, and a call may end between any two.
-/

namespace DataJuicer.Navigation

open Table Transaction

deriving instance DecidableEq for PlanStep, ExtractSyncDecisions, FinishProcessingDecisions,
  TrajectoryReviewDecisions, PlanDecisions

deriving instance DecidableEq for PlanInput

deriving instance DecidableEq for PlanRow

structure Session where
  web : Option String
  agentscope : Option String
  deriving DecidableEq

def Session.call (s : Session) (now : Timestamp) : Call := ⟨now, s.web, s.agentscope⟩

/-- A `NavigationExecutionSnapshot`, as far as a step is invoked from it. -/
structure ExecutionSnapshot where
  task : TaskRow
  activePlan : Option PlanRow
  current : Option StepRow
  dependencyStatuses : List (String × StepStatus)
  stagedResult : Option OutboxRow
  deriving DecidableEq

variable (db : NavigationDb)

def stepRows (plan : PlanRow) : List StepRow :=
  (db.steps.select fun r => r.planId = plan.planId ∧
    r.planRevision = plan.planRevision).insertionSort
    fun a b => a.sequence ≤ b.sequence

def planStep? (plan : PlanRow) (stepId : String) : Option PlanStep :=
  plan.plan.steps.find? fun s => s.stepId = stepId

def dependencyStatusesOf (plan : PlanRow) (stepId : String) : List (String × StepStatus) :=
  let dependencies := ((planStep? plan stepId).map PlanStep.dependsOn).getD []
  (db.steps.select fun r => r.planId = plan.planId ∧ r.stepId ∈ dependencies).map fun r =>
    (r.stepId, r.status)

def acceptedPlan? (task : TaskRow) : Option PlanRow :=
  (db.plans.select fun p => p.taskId = task.taskId ∧ some p.phase = task.acceptedPlanPhase ∧
    p.status = .active).head?

def StepStatus.value : StepStatus → String
  | .pending => "pending"
  | .running => "running"
  | .waitingUser => "waiting_user"
  | .completed => "completed"
  | .failed => "failed"
  | .needsReplan => "needs_replan"

/-- The lengths of texts, numbers, lists and dicts in canonical JSON, from those of their parts. -/
def textLength (s : String) : ℕ := (PyStr.encodeString (s.toList.map Char.toNat)).length

def numberLength (n : ℕ) : ℕ := (Nat.toDigits 10 n).length

def listLength (items : List ℕ) : ℕ := 2 + items.sum + (items.length - 1)

def dictLength (fields : List (String × ℕ)) : ℕ :=
  listLength (fields.map fun field => textLength field.1 + 1 + field.2)

def nullLength : ℕ := 4

/-- The length of the id of a ledger row, `nav_step_` and 32 digits. -/
def rowIdLength : ℕ := 41 + 2

def compactStepLength (r : StepRow) : ℕ :=
  dictLength [("step_id", textLength r.stepId), ("action", textLength r.toolName.name),
    ("status", textLength r.status.value)]

def overviewLength (plan : PlanRow) (currentStepId : Option String) : ℕ :=
  let rows := stepRows db plan
  dictLength [("plan_id", textLength plan.planId),
    ("plan_revision", numberLength plan.planRevision), ("status", textLength "active"),
    ("total_steps", numberLength rows.length),
    ("completed_steps", numberLength (rows.countP fun r => r.status = .completed)),
    ("current_step_id", (currentStepId.map textLength).getD nullLength),
    ("steps", listLength (rows.map compactStepLength))]

def stepRecordLength (r : StepRow) : ℕ :=
  dictLength [("id", rowIdLength), ("plan_id", textLength r.planId),
    ("plan_revision", numberLength r.planRevision), ("sequence", numberLength r.sequence),
    ("step_id", textLength r.stepId), ("action", textLength r.toolName.name),
    ("status", textLength r.status.value),
    ("result_summary", (r.resultSummary.map String.length).getD nullLength),
    ("result_ref", (r.resultRef.map textLength).getD nullLength),
    ("retry_count", numberLength r.retryCount)]

def currentLength (plan : PlanRow) (r : StepRow) : ℕ :=
  let decisionRefs := ((planStep? plan r.stepId).map PlanStep.decisionRefs).getD []
  dictLength [("plan_id", textLength plan.planId),
    ("plan_revision", numberLength plan.planRevision), ("step", stepRecordLength r),
    ("decision_refs", listLength (decisionRefs.map textLength))]

/-- `_ensure_within_limit` of a payload of this length. -/
def ensureWithinLength (length : ℕ) (label : String) : Except NavigationError Unit :=
  raiseIf (length > maxExecutionReadChars) (.valueError (label ++ " exceeds 4000 characters"))

def readExecutionSnapshot (s : Session) (taskId : Option String) :
    Except NavigationError (Option ExecutionSnapshot) :=
  match newestTask? db (s.call 0) with
  | none => .ok none
  | some task =>
    if taskId.any fun id => task.taskId ≠ id then .ok none
    else
      match acceptedPlan? db task with
      | none => .ok (some ⟨task, none, none, [], none⟩)
      | some plan =>
        match (stepRows db plan).find? fun r => r.status ≠ .completed with
        | none => do
          ensureWithinLength (overviewLength db plan none) "execution overview"
          return some ⟨task, some plan, none, [], none⟩
        | some r => do
          ensureWithinLength (overviewLength db plan (some r.stepId)) "execution overview"
          ensureWithinLength (currentLength plan r) "current step"
          return some ⟨task, some plan, some r, dependencyStatusesOf db plan r.stepId,
            db.outbox.find? (plan.planId, r.stepId)⟩

/-- What `read_claim_terminalization_snapshot` asks of a step, its plan, its task and its result. -/
def Terminalizes (s : Session) (action : String) (r : StepRow) (p : PlanRow) (t : TaskRow)
    (o : OutboxRow) : Prop :=
  (o.taskId = r.taskId ∧ o.planRevision = r.planRevision ∧ .running ∈ o.expectedStatuses) ∧
    r.toolName.name = action ∧ r.status = .running ∧ p.status = .active ∧ (s.call 0).Owns t ∧
    ∀ prior ∈ db.steps, prior.planId = r.planId → prior.sequence < r.sequence →
      prior.status = .completed

instance (s : Session) (action : String) (r : StepRow) (p : PlanRow) (t : TaskRow) (o : OutboxRow) :
    Decidable (Terminalizes db s action r p t o) := by
  unfold Terminalizes
  infer_instance

/-- The rows that `read_claim_terminalization_snapshot` finds. -/
def terminalizationSnapshot? (s : Session) (planId stepId action : String) :
    Option ExecutionSnapshot :=
  if isBlank planId ∨ isBlank stepId ∨ isBlank action ∨ ¬ (s.call 0).Identified then none
  else do
    let r ← db.steps.find? (planId, stepId)
    let p ← db.plans.find? planId
    let t ← db.tasks.find? p.taskId
    let o ← db.outbox.find? (planId, stepId)
    if Terminalizes db s action r p t o then
      let claimed ← ((stepRows db p).find? fun r => r.stepId = stepId).filter
        fun r => r.status = .running
      if (planStep? p stepId).any fun step => step.action.name = action then
        some ⟨t, some p, some claimed, dependencyStatusesOf db p stepId, some o⟩
      else none
    else none

def readClaimTerminalizationSnapshot (s : Session) (planId stepId action : String) :
    Except NavigationError (Option ExecutionSnapshot) :=
  match terminalizationSnapshot? db s planId stepId action with
  | some ⟨task, some plan, some r, statuses, staged⟩ => do
    ensureWithinLength (overviewLength db plan (some stepId)) "execution overview"
    ensureWithinLength (currentLength plan r) "current step"
    return some ⟨task, some plan, some r, statuses, staged⟩
  | _ => .ok none

def getCurrentStep (planId : String) : Except NavigationError (Option StepRow) :=
  match db.plans.find? planId with
  | none => .error (.keyError planId)
  | some plan =>
    match (stepRows db plan).find? fun r => r.status ≠ .completed with
    | none => .ok none
    | some r => do
      ensureWithinLength (currentLength plan r) "current step"
      return some r

/-- The transactions of a call. -/
inductive StoreOp
  | claimStep (planId stepId action : String)
  | recoverRunningStepWithoutResult (planId stepId reason action : String)
  | stageStepResult (planId stepId action : String) (result : StepResult)
  | attachStagedResultEvidence (planId stepId resultRef action : String)
  | finalizeStagedStep (planId stepId action : String)
  | markNeedsReplan (planId reason : String)
  | markTerminalizedClaimNeedsReplan (planId stepId reason action : String)
  deriving DecidableEq

def StoreOp.request (call : Call) : StoreOp → Op
  | claimStep planId stepId action => .claimStep call planId stepId action
  | recoverRunningStepWithoutResult planId stepId reason action =>
    .recoverRunningStepWithoutResult call planId stepId reason action
  | stageStepResult planId stepId action result => .stageStepResult call planId stepId action result
  | attachStagedResultEvidence planId stepId resultRef action =>
    .attachStagedResultEvidence call planId stepId resultRef action
  | finalizeStagedStep planId stepId action => .finalizeStagedStep call planId stepId action
  | markNeedsReplan planId reason => .markNeedsReplan call planId reason
  | markTerminalizedClaimNeedsReplan planId stepId reason action =>
    .markTerminalizedClaimNeedsReplan call planId stepId reason action

/-- What a call reads of a reply. -/
inductive StoreAnswer
  | claim (outcome : StepClaimOutcome)
  | flag (b : Bool)
  | done
  deriving DecidableEq

def Reply.answer : Reply → StoreAnswer
  | .claim outcome => .claim outcome
  | .flag b => .flag b
  | _ => .done

inductive EvidenceOp
  | exists (ref : String)
  | write (taskId : String)
  | delete (taskId : String)
  deriving DecidableEq

/-- A result as canonical JSON without secrets, with its summary. -/
structure ActionPayload where
  ok : Bool
  fullResult : String
  summary : String

/-- How the processing function ends; an exception is a payload that is not `ok`. -/
inductive ActionResult
  | cancelled
  | payload (p : ActionPayload)

/-- What a call does at once. -/
inductive InvokeOp
  | cancelled
  | snapshot (s : Session) (taskId : Option String)
  | terminalizationSnapshot (s : Session) (planId stepId action : String)
  | calibrationInventory (planId : String)
  | preconditions (planId stepId : String)
  | stagedStepResult (planId stepId : String)
  | currentStep (planId : String)
  | store (s : Session) (op : StoreOp)
  | evidence (op : EvidenceOp)
  | arguments (planId stepId : String)
  | enter (planId stepId : String)
  | result (planId stepId : String)
  deriving DecidableEq

/-- The answer of an operation, `none` where it raises. -/
abbrev InvokeOp.Answer : InvokeOp → Type
  | cancelled => Bool
  | snapshot _ _ | terminalizationSnapshot _ _ _ _ => Option (Option ExecutionSnapshot)
  | calibrationInventory _ | preconditions _ _ => Option Bool
  | stagedStepResult _ _ => Option (Option OutboxRow)
  | currentStep _ => Option (Except NavigationError (Option StepRow))
  | store _ _ => Option (Timestamp × Except NavigationError StoreAnswer)
  | evidence _ => Option Bool
  | arguments _ _ => Option ActionPayload
  | enter _ _ => Unit
  | result _ _ => ActionResult

inductive InvokeError
  | turnCancelled
  | navigation (e : NavigationError)
  | failed

abbrev InvokeProg := Prog InvokeOp.Answer InvokeError

def InvokeOp.perform (op : InvokeOp) : InvokeProg op.Answer := Prog.perform op

/-- The `error_type` of a compact error, or the status of the step. -/
inductive StepResponse
  | error (errorType : String)
  | finished (status : TargetStatus)
  | needsReplan
  deriving DecidableEq

structure StepCall where
  session : Session
  taskId : String
  planId : String
  stepId : String
  action : String

def InvokeError.isPermissionError : InvokeError → Bool
  | navigation e => e.isPermissionError
  | _ => false

/-- An answer, or the exception of the operation. -/
def orFailed {α : Type} : Option α → InvokeProg α
  | some a => pure a
  | none => Prog.raise .failed

def request (s : Session) (op : StoreOp) : InvokeProg StoreAnswer := do
  match ← orFailed (← InvokeOp.perform (.store s op)) with
  | (_, Except.ok answer) => return answer
  | (_, Except.error e) => Prog.raise (.navigation e)

def evidence (op : EvidenceOp) : InvokeProg Bool := do
  orFailed (← InvokeOp.perform (.evidence op))

def raiseIfCancelled : InvokeProg Unit := do
  if ← InvokeOp.perform .cancelled then Prog.raise .turnCancelled else return ()

def readCurrentStep (planId : String) : InvokeProg (Option StepRow) := do
  match ← orFailed (← InvokeOp.perform (.currentStep planId)) with
  | Except.ok r => return r
  | Except.error e => Prog.raise (.navigation e)

def sessionMismatchError : StepResponse := .error "navigation_task_session_mismatch"

def resultFinalizeRetryError : StepResponse := .error "result_finalize_retry_required"

def terminalError (planId : String) : InvokeProg StepResponse := do
  let _ ← readCurrentStep planId
  return .error "step_already_terminal"

/-- The actions whose calibration is checked. -/
def calibratedActions : List String :=
  ["confirm_navigation_calibration_params", "assemble_finish_temp"]

/-- The checks of `_gate_step` on a snapshot. -/
def gateSnapshot (c : StepCall) (snapshot : ExecutionSnapshot) :
    Except StepResponse (PlanRow × PlanStep) :=
  match snapshot.activePlan with
  | none => .error (.error "plan_not_active")
  | some plan =>
    if plan.planId ≠ c.planId ∨ plan.taskId ≠ snapshot.task.taskId ∨ plan.status ≠ .active then
      .error (.error "plan_not_active")
    else
      match planStep? plan c.stepId with
      | none => .error (.error "step_not_found")
      | some step =>
        if step.action.name ≠ c.action then .error (.error "step_action_mismatch")
        else if snapshot.current.all fun r => r.stepId ≠ step.stepId then
          .error (.error "step_not_current")
        else if ∃ d ∈ step.dependsOn, snapshot.dependencyStatuses.lookup d ≠ some .completed then
          .error (.error "step_dependencies_unmet")
        else .ok (plan, step)

def readSnapshot (c : StepCall) : InvokeProg (Option ExecutionSnapshot) := do
  match ← orFailed (← InvokeOp.perform (.snapshot c.session (some c.taskId))) with
  | some snapshot => return some snapshot
  | none =>
    let claimed ← orFailed
      (← InvokeOp.perform (.terminalizationSnapshot c.session c.planId c.stepId c.action))
    return claimed.filter fun snapshot => snapshot.task.taskId = c.taskId

def gateStep (c : StepCall) :
    InvokeProg (Except StepResponse (PlanRow × PlanStep × ExecutionSnapshot)) := do
  match ← readSnapshot c with
  | none => return .error sessionMismatchError
  | some snapshot =>
    match gateSnapshot c snapshot with
    | Except.error e => return .error e
    | Except.ok (plan, step) =>
      if c.action ∈ calibratedActions then
        if ← orFailed (← InvokeOp.perform (.calibrationInventory plan.planId)) then
          return .error (.error "calibration_source_invalid")
        else return .ok (plan, step, snapshot)
      else return .ok (plan, step, snapshot)

/-- The exception handlers around the evidence of a staged result. -/
def evidenceFailed (taskId : String) (written : Bool) (e : InvokeError) :
    InvokeProg StepResponse := do
  if written then
    let _ ← evidence (.delete taskId)
  return if e.isPermissionError then sessionMismatchError else resultFinalizeRetryError

def writeEvidence (taskId resultRef : String) : InvokeProg Bool := do
  if ← evidence (.exists resultRef) then return false
  else
    let _ ← evidence (.write taskId)
    return true

def attachEvidence (c : StepCall) (resultRef : String) (written : Bool) :
    InvokeProg (Option StepResponse) := do
  match ← request c.session (.attachStagedResultEvidence c.planId c.stepId resultRef c.action) with
  | StoreAnswer.flag true => return none
  | _ =>
    if written then
      let _ ← evidence (.delete c.taskId)
    return some resultFinalizeRetryError

/-- The end of `_finalize_staged_result`, when the evidence is attached. -/
def finalizeStep (c : StepCall) (staged : OutboxRow) : InvokeProg StepResponse := do
  match ← (request c.session (.finalizeStagedStep c.planId c.stepId c.action)).attempt with
  | Except.ok (StoreAnswer.flag true) =>
    if staged.targetStatus = .completed then
      let _ ← readCurrentStep c.planId
    return .finished staged.targetStatus
  | _ => return resultFinalizeRetryError

def finalizeStagedResult (c : StepCall) : InvokeProg StepResponse := do
  match ← orFailed (← InvokeOp.perform (.stagedStepResult c.planId c.stepId)) with
  | none => return .error "step_recovery_requires_replan"
  | some staged =>
    match ← (writeEvidence c.taskId staged.resultRef).attempt with
    | Except.error e => evidenceFailed c.taskId false e
    | Except.ok written =>
      match ← (attachEvidence c staged.resultRef written).attempt with
      | Except.error e => evidenceFailed c.taskId written e
      | Except.ok (some response) => return response
      | Except.ok none => finalizeStep c staged

/-- A running step without a staged result is given up. -/
def recoverRunning (c : StepCall) : InvokeProg StepResponse := do
  match ← (request c.session (.recoverRunningStepWithoutResult c.planId c.stepId
      "running step has no staged result after process interruption" c.action)).attempt with
  | Except.ok (StoreAnswer.flag true) => return .error "step_recovery_requires_replan"
  | Except.ok _ => terminalError c.planId
  | Except.error (InvokeError.navigation (NavigationError.activePlanExecutionConflict _)) =>
    return .error "human_handoff_recovery_required"
  | Except.error e => Prog.raise e

def recordChangedPreconditions (c : StepCall) : InvokeProg StepResponse := do
  let _ ← evidence (.write c.taskId)
  match ← (request c.session (.markNeedsReplan c.planId "input_precondition_changed")).attempt with
  | Except.ok (StoreAnswer.flag true) => return .error "input_precondition_changed"
  | Except.ok _ =>
    let _ ← evidence (.delete c.taskId)
    terminalError c.planId
  | Except.error e =>
    let _ ← evidence (.delete c.taskId)
    if e.isPermissionError then return sessionMismatchError else Prog.raise e

def interruptedPayload (action : String) : ActionPayload where
  ok := false
  fullResult := "\x7b\"details\":\x7b\"error_type\":\"turn_cancelled\"\x7d,\"message\":\"" ++
    "The current turn was interrupted.\",\"ok\":false,\"tool_name\":\"" ++ action ++ "\"\x7d"
  summary := "\x7b\"error_type\":\"turn_cancelled\",\"message\":\"" ++
    "The current turn was interrupted.\",\"ok\":false,\"produced_path_count\":0," ++
    "\"tool_name\":\"" ++ action ++ "\"\x7d"

def oversizedMessage : String :=
  "Processing returned an oversized result; the bounded digest is retained and replanning " ++
    "is required."

/-- The digest that replaces a result that is too large. -/
def oversizedPayload (action fullResult : String) : ActionPayload where
  ok := false
  fullResult := "\x7b\"details\":\x7b\"error_type\":\"processing_result_oversized\"," ++
    "\"limit_bytes\":" ++ toString maxResultOutboxChars ++ ",\"original_bytes\":" ++
    toString fullResult.utf8ByteSize ++ ",\"sha256\":\"" ++ Sha256.hexdigest fullResult ++
    "\"\x7d,\"message\":\"" ++ oversizedMessage ++ "\",\"ok\":false,\"tool_name\":\"" ++
    action ++ "\"\x7d"
  summary := "\x7b\"error_type\":\"processing_result_oversized\",\"message\":\"" ++
    oversizedMessage ++ "\",\"ok\":false,\"produced_path_count\":0,\"tool_name\":\"" ++ action ++
    "\"\x7d"

def boundedResultPayload (action : String) (p : ActionPayload) : ActionPayload × Bool :=
  if p.fullResult.utf8ByteSize ≤ maxResultOutboxChars then (p, false)
  else (oversizedPayload action p.fullResult, true)

def runAction (c : StepCall) : InvokeProg ActionResult := do
  match ← InvokeOp.perform (.arguments c.planId c.stepId) with
  | some raised => return .payload raised
  | none =>
    if ← InvokeOp.perform .cancelled then return .cancelled
    else
      InvokeOp.perform (.enter c.planId c.stepId)
      InvokeOp.perform (.result c.planId c.stepId)

def stageResult (c : StepCall) (status : TargetStatus) (p : ActionPayload) :
    InvokeProg StoreAnswer :=
  request c.session (.stageStepResult c.planId c.stepId c.action ⟨status, p.fullResult, p.summary,
    [.running]⟩)

def giveUp (c : StepCall) (reason : String) : InvokeProg StoreAnswer :=
  request c.session (.recoverRunningStepWithoutResult c.planId c.stepId reason c.action)

/-- An interrupted action is staged as failed, and the interruption goes on. -/
def stageInterrupted (c : StepCall) : InvokeProg StepResponse := do
  let staging := do
    let _ ← stageResult c .failed (interruptedPayload c.action)
    finalizeStagedResult c
  match ← staging.attempt with
  | Except.ok _ => Prog.raise .turnCancelled
  | Except.error _ =>
    let _ ← giveUp c "cancellation result could not be staged"
    Prog.raise .turnCancelled

/-- A result is staged and finalized. -/
def stagePayload (c : StepCall) (p : ActionPayload) : InvokeProg StepResponse := do
  let bounded := boundedResultPayload c.action p
  match ← (stageResult c (if bounded.1.ok then .completed else .failed) bounded.1).attempt with
  | Except.error _ =>
    let _ ← giveUp c "processing result could not be staged after underlying execution"
    return .error "step_recovery_requires_replan"
  | Except.ok _ =>
    let response ← finalizeStagedResult c
    if bounded.2 = true ∧ response ≠ resultFinalizeRetryError then
      let _ ← request c.session (.markTerminalizedClaimNeedsReplan c.planId c.stepId
        "processing result exceeded the durable outbox payload policy" c.action)
      return .needsReplan
    else return response

def processClaimed (c : StepCall) : InvokeProg StepResponse := do
  match ← runAction c with
  | ActionResult.cancelled => stageInterrupted c
  | ActionResult.payload p => stagePayload c p

def notClaimed (c : StepCall) : InvokeProg StepResponse := do
  match ← orFailed (← InvokeOp.perform (.snapshot c.session (some c.taskId))) with
  | none => return sessionMismatchError
  | some _ => terminalError c.planId

def claimAndProcess (c : StepCall) : InvokeProg StepResponse := do
  match ← request c.session (.claimStep c.planId c.stepId c.action) with
  | StoreAnswer.claim .claimed => processClaimed c
  | StoreAnswer.claim .navigationDataBusy => return .error "navigation_data_busy"
  | _ => notClaimed c

def invokePlanStep (c : StepCall) : InvokeProg StepResponse := do
  raiseIfCancelled
  match ← gateStep c with
  | Except.error response => return response
  | Except.ok (_, _, snapshot) =>
    if snapshot.stagedResult.isSome then finalizeStagedResult c
    else if snapshot.current.any fun r => r.status = .running then recoverRunning c
    else if ← orFailed (← InvokeOp.perform (.preconditions c.planId c.stepId)) then
      recordChangedPreconditions c
    else claimAndProcess c

/-- `claimedBy` and `entered` remember which call claimed a step and which steps were entered. -/
structure InvocationWorld where
  db : NavigationDb
  claimedBy : String × String → Option ℕ
  entered : List (String × String)

def claimedStep? : StoreOp → Except NavigationError StoreAnswer → Option (String × String)
  | .claimStep planId stepId _, .ok (.claim .claimed) => some (planId, stepId)
  | _, _ => none

def InvocationWorld.exec (t : ℕ) (w : InvocationWorld) :
    (op : InvokeOp) → op.Answer → Option InvocationWorld
  | .snapshot s taskId, some answer =>
    if readExecutionSnapshot w.db s taskId = .ok answer then some w else none
  | .terminalizationSnapshot s planId stepId action, some answer =>
    if readClaimTerminalizationSnapshot w.db s planId stepId action = .ok answer then some w
    else none
  | .stagedStepResult planId stepId, some answer =>
    if w.db.outbox.find? (planId, stepId) = answer then some w else none
  | .currentStep planId, some answer =>
    if getCurrentStep w.db planId = answer then some w else none
  | .store s op, some (now, answer) =>
    let out := execute (op.request (s.call now)) w.db
    if out.1.map Reply.answer = answer then
      some { w with
        db := out.2
        claimedBy := match claimedStep? op answer with
          | some key => Function.update w.claimedBy key (some t)
          | none => w.claimedBy }
    else none
  | .enter planId stepId, () => some { w with entered := w.entered ++ [(planId, stepId)] }
  -- What is outside of the database may answer anything, and a transaction that fails is undone.
  | _, _ => some w

inductive InvocationOutside
  /-- Another request to the stores. -/
  | serve (op : Op)
  /-- These calls end. -/
  | crash (ended : ℕ → Bool)

def InvocationWorld.outside (w : InvocationWorld) : InvocationOutside → Option InvocationWorld
  | .serve op => some { w with db := (execute op w.db).2 }
  | .crash _ => some w

/-- The calls are numbered. -/
def invocationMachine : Machine InvocationWorld ℕ InvocationOutside InvokeOp.Answer where
  exec := InvocationWorld.exec
  outside := InvocationWorld.outside
  ends
    | .crash ended, t => ended t
    | _, _ => false

abbrev InvocationPool := Pool InvocationWorld ℕ InvokeOp.Answer InvokeError StepResponse

abbrev InvocationTransition :=
  Transition InvocationPool (PoolEvent ℕ InvocationOutside InvokeOp.Answer)

def InvocationPool.initial (calls : ℕ → StepCall) : InvocationPool :=
  ⟨⟨.initial, fun _ => none, []⟩, fun t => some (invokePlanStep (calls t))⟩

end DataJuicer.Navigation

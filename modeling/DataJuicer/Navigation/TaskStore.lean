import DataJuicer.Navigation.Authorization
import DataJuicer.Navigation.Segments

/-! # The task store

`SqliteNavigationTaskStore`. Each operation is one transaction: it returns its answer and
the committed database, or an error, after which the database is what it was.
-/

namespace DataJuicer.Navigation

open Transaction

/-- `NAVIGATION_TASK_STATUS_TRANSITIONS` -/
def TaskStatus.transitions : TaskStatus → List TaskStatus
  | active => [waitingUser, pausing, cancelling, completed, failed, needsReplan]
  | waitingUser => [active, cancelling, completed]
  | pausing => [paused, cancelling, failed]
  | paused => [active, cancelling]
  | cancelling => [cancelled, failed]
  | needsReplan => [active, cancelling, failed]
  | completed | failed | cancelled | superseded => []

/-- `TERMINAL_NAVIGATION_TASK_STATUSES` -/
def TaskStatus.IsTerminal : TaskStatus → Prop
  | completed | failed | cancelled | superseded => True
  | _ => False

instance (s : TaskStatus) : Decidable s.IsTerminal := by
  cases s <;> unfold TaskStatus.IsTerminal <;> infer_instance

def validateNavigationTaskStatusTransition (current target : TaskStatus) :
    Except NavigationError TaskStatus :=
  if current = target then .ok target
  else if target ∉ current.transitions then .error (.taskTransition current target)
  else .ok target

theorem validateNavigationTaskStatusTransition_eq_ok {current target s : TaskStatus} :
    validateNavigationTaskStatusTransition current target = .ok s ↔
      s = target ∧ (current = target ∨ target ∈ current.transitions) := by
  unfold validateNavigationTaskStatusTransition
  split_ifs with h h' <;> simp_all [eq_comm]

def taskSchemaVersion : ℤ := 4

/-- `re.match` of `^[0-9]{8}$`, which also accepts a final newline. -/
def validDate (date : String) : Bool :=
  let l := date.toList
  (l.take 8).all Char.isDigit && (l.take 8).length == 8 && (l.drop 8 == [] || l.drop 8 == ['\n'])

/-- The arguments of `create_task_attempt`; the id is given or drawn by the store. -/
structure TaskAttempt where
  taskId : String
  request : String
  target : String
  date : String
  segments : SegmentsArg
  sceneMode : Option SceneMode
  dryRun : Bool
  web : String
  agentscope : String
  requestedOutcome : RequestedOutcome := .auto

namespace TaskAttempt

def row (a : TaskAttempt) (now : Timestamp) : TaskRow where
  taskId := a.taskId
  request := a.request
  target := a.target
  date := a.date
  segments := normalizeSegments a.segments
  segmentsKey := segmentsKey (storedArg (normalizeSegments a.segments))
  sceneMode := a.sceneMode
  dryRun := a.dryRun
  guidanceRevision := 0
  stateRevision := 1
  status := .active
  acceptedPlanPhase := none
  createdByWebSessionId := stripText a.web
  agentscopeSessionId := stripText a.agentscope
  schemaVersion := taskSchemaVersion
  createdAt := utcNow now
  updatedAt := utcNow now

end TaskAttempt

def newOutcome (taskId : String) (requested : RequestedOutcome) (now : Timestamp) : OutcomeRow where
  taskId := taskId
  requestedOutcome := requested
  completionOutcome := none
  revision := 1
  createdAt := utcNow now
  updatedAt := utcNow now

/-- The columns of `idx_navigation_tasks_attempt_replay`. -/
def TaskRow.replayKey (t : TaskRow) : String × String × String × PyStr × String :=
  (t.createdByWebSessionId, t.agentscopeSessionId, t.date, t.segmentsKey, t.target)

/-- `_insert_task`, with the unique index on replays of an attempt. -/
def NavigationDb.insertAttemptTask? (db : NavigationDb) (t : TaskRow) : Option NavigationDb :=
  if ∃ r ∈ db.tasks, r.replayKey = t.replayKey then none else db.insertTask? t

def createTaskAttempt (now : Timestamp) (a : TaskAttempt) (db : NavigationDb) :
    Except NavigationError ((TaskRow × Bool) × NavigationDb) := do
  raiseIf (isBlank a.web) (.valueError "web_session_id must be a non-empty string")
  raiseIf (isBlank a.agentscope) (.valueError "agentscope_session_id must be a non-empty string")
  let row := a.row now
  match db.tasks.rows.find? fun t => t.replayKey = row.replayKey with
  | some t => return ((t, false), db)
  | none =>
    raiseIf (¬ validDate a.date) .validationError
    let db ← constrained (db.insertAttemptTask? row)
    let db ← constrained (db.insertOutcome? (newOutcome a.taskId a.requestedOutcome now))
    match db.tasks.find? a.taskId with
    | none => .error (.keyError a.taskId)
    | some t => return ((t, true), db)

/-- The arguments of `create_linked_trajectory_fix_attempt`. -/
structure LinkedAttempt where
  parentTaskId : String
  childTaskId : String
  request : String
  web : String
  agentscope : String
  dryRun : Option Bool

def LinkedAttempt.row (a : LinkedAttempt) (parent : TaskRow) (now : Timestamp) : TaskRow where
  taskId := a.childTaskId
  request := a.request
  target := "trajectory_review"
  date := parent.date
  segments := normalizeSegments (storedArg parent.segments)
  segmentsKey := segmentsKey (storedArg (normalizeSegments (storedArg parent.segments)))
  sceneMode := parent.sceneMode
  dryRun := a.dryRun.getD parent.dryRun
  guidanceRevision := 0
  stateRevision := 1
  status := .active
  acceptedPlanPhase := none
  createdByWebSessionId := stripText a.web
  agentscopeSessionId := stripText a.agentscope
  schemaVersion := taskSchemaVersion
  createdAt := utcNow now
  updatedAt := utcNow now

def linkedChild? (db : NavigationDb) (parentTaskId : String) : Option TaskRow :=
  (db.lineage.rows.find? fun l => l.parentTaskId = parentTaskId).bind fun l =>
    db.tasks.find? l.childTaskId

def createLinkedTrajectoryFixAttempt (now : Timestamp) (a : LinkedAttempt) (db : NavigationDb) :
    Except NavigationError ((TaskRow × Bool) × NavigationDb) := do
  raiseIf (isBlank a.web ∨ isBlank a.agentscope)
    (.valueError "linked task session identities must be non-empty")
  match linkedChild? db a.parentTaskId with
  | some t => return ((t, false), db)
  | none =>
    match db.tasks.find? a.parentTaskId with
    | none => .error (.keyError a.parentTaskId)
    | some parent =>
      raiseIf (parent.status ≠ .completed ∨ (db.outcomes.find? a.parentTaskId).bind
          (·.completionOutcome) ≠ some .postprocessingCompletedFixPending)
        (.valueError "linked trajectory Fix requires a completed postprocessing parent")
      let db ← constrained (db.insertAttemptTask? (a.row parent now))
      let db ← constrained (db.insertOutcome? (newOutcome a.childTaskId .trajectoryFix now))
      raiseIf (a.parentTaskId = a.childTaskId ∨
        ∃ l ∈ db.lineage, l.parentTaskId = a.parentTaskId) .integrityError
      let db ← constrained (db.insertLineage?
        { childTaskId := a.childTaskId, parentTaskId := a.parentTaskId, createdAt := utcNow now })
      match db.tasks.find? a.childTaskId with
      | none => .error (.keyError a.childTaskId)
      | some t => return ((t, true), db)

/-- The keyword arguments of `update_task_for_session`. -/
structure TaskChanges where
  request : Option String := none
  target : Option String := none
  date : Option String := none
  segments : Option SegmentsArg := none
  sceneMode : Option (Option SceneMode) := none
  dryRun : Option Bool := none
  guidanceRevision : Option ℤ := none
  status : Option TaskStatus := none
  acceptedPlanPhase : Option (Option PlanPhase) := none
  schemaVersion : Option ℤ := none
  /-- A session identity field is among the changes. -/
  identity : Bool := false
  /-- A key that the merged task ignores or overwrites is among the changes. -/
  other : Bool := false
  deriving DecidableEq

/-- `set(changes) == {"status"}` -/
def TaskChanges.OnlyStatus (c : TaskChanges) : Prop :=
  c = { status := c.status } ∧ c.status ≠ none

instance (c : TaskChanges) : Decidable c.OnlyStatus := instDecidableAnd

def mergedTask (current : TaskRow) (c : TaskChanges) (now : Timestamp) : TaskRow :=
  let segments := normalizeSegments (c.segments.getD (storedArg current.segments))
  { current with
    request := c.request.getD current.request
    target := c.target.getD current.target
    date := c.date.getD current.date
    segments := segments
    segmentsKey := segmentsKey (storedArg segments)
    sceneMode := c.sceneMode.getD current.sceneMode
    dryRun := c.dryRun.getD current.dryRun
    guidanceRevision := c.guidanceRevision.getD current.guidanceRevision
    stateRevision := current.stateRevision + 1
    status := c.status.getD current.status
    acceptedPlanPhase := c.acceptedPlanPhase.getD current.acceptedPlanPhase
    schemaVersion := c.schemaVersion.getD current.schemaVersion
    updatedAt := utcNow now }

@[simp] theorem mergedTask_taskId (t : TaskRow) (c : TaskChanges) (now : Timestamp) :
    (mergedTask t c now).taskId = t.taskId := rfl

def updateTaskForSession (call : Call) (taskId : String) (expectedStateRevision : Option ℕ)
    (changes : TaskChanges) (db : NavigationDb) :
    Except NavigationError (TaskRow × NavigationDb) := do
  raiseIf (changes.identity = true)
    (.valueError "session identity fields cannot be changed by owned update")
  match db.tasks.find? taskId with
  | none => .error (.keyError taskId)
  | some current =>
    match authorizeNavigationTaskWrite db taskId call with
    | .error e =>
      .error (if e.isPermissionError then
        .taskOwnership taskId current.createdByWebSessionId call.web else e)
    | .ok () =>
      raiseIf (expectedStateRevision.any fun r => r ≠ current.stateRevision)
        (.taskStateRevision "navigation task state revision changed")
      let requested ← validateNavigationTaskStatusTransition current.status
        (changes.status.getD current.status)
      if changes.OnlyStatus ∧ requested = current.status then return (current, db)
      let task := mergedTask current changes call.now
      raiseIf (¬ validDate task.date) .validationError
      raiseIf (∃ t ∈ db.tasks, t.taskId ≠ taskId ∧ t.replayKey = task.replayKey) .integrityError
      return (task, db.updateTasks (fun t => t.taskId = taskId) fun t =>
        mergedTask t changes call.now)

/-- The rows that go with a deleted task: the foreign keys with `ON DELETE CASCADE`. -/
def NavigationDb.deleteTask (db : NavigationDb) (taskId : String) : NavigationDb :=
  let gone := fun planId => ∃ p ∈ db.plans, p.taskId = taskId ∧ p.planId = planId
  let db' : NavigationDb := { db with tasks := db.tasks.delete fun t => t.taskId = taskId }
  let db' := db'.deletePlans fun p => p.taskId = taskId
  let db' := db'.deleteOutbox fun r => r.taskId = taskId ∨ gone r.planId
  let db' := db'.deleteHandoffs fun r => r.taskId = taskId ∨ gone r.planId
  let db' := db'.deleteAttempts fun r => r.taskId = taskId
  let db' := db'.deleteOutcomes fun r => r.taskId = taskId
  db'.deleteLineage fun r => r.childTaskId = taskId ∨ r.parentTaskId = taskId

/-- `delete_task_if_current`; a task with ledger steps cannot be deleted. -/
def deleteTaskIfCurrent (call : Call) (taskId : String) (expectedStateRevision : ℕ)
    (db : NavigationDb) : Except NavigationError (Bool × NavigationDb) :=
  match authorizeNavigationTaskWrite db taskId call with
  | .error e => if e.isPermissionError then .ok (false, db) else .error e
  | .ok () =>
    if ∃ t ∈ db.tasks, t.taskId = taskId ∧ t.stateRevision = expectedStateRevision ∧ call.Owns t
    then do
      raiseIf (∃ s ∈ db.steps, s.taskId = taskId) .integrityError
      return (true, db.deleteTask taskId)
    else .ok (false, db)

def nonterminalTaskIds (db : NavigationDb) (date : String) : List String :=
  ((db.tasks.select fun t => t.date = date ∧ ¬ t.status.IsTerminal).insertionSort
    fun a b => a.createdAt ≤ b.createdAt).map (·.taskId)

def cancelNonterminalForDatasetReset (now : Timestamp) (date resetRef : String)
    (db : NavigationDb) : Except NavigationError (List String × NavigationDb) :=
  let ids := nonterminalTaskIds db date
  if ids = [] then .ok ([], db)
  else
    let reason := "dataset_reset:" ++ resetRef
    let active := fun planId => ∃ p ∈ db.plans, p.planId = planId ∧ p.status = .active
    let db' := db.updateHandoffs (fun r => r.taskId ∈ ids ∧ active r.planId) fun r =>
      { r with
        status := .quarantined, deliveryStatus := .quarantined
        deliveryOwner := none, deliveryToken := none
        recoveryReasonCode := some "dataset_reset"
        recoveredAt := some (utcNow now), updatedAt := utcNow now }
    let db' := db'.deleteOutbox fun r => r.taskId ∈ ids
    let db' := db'.updateSteps
      (fun r => r.taskId ∈ ids ∧ r.status ≠ .completed ∧ active r.planId) fun r =>
      { r with status := .failed, finishedAt := r.finishedAt.or (some (utcNow now)) }
    let db' := db'.updatePlans (fun p => p.taskId ∈ ids ∧ p.status = .active) fun p =>
      { p with status := .invalidated, invalidationReason := some reason, updatedAt := utcNow now }
    let db' := db'.updateTasks (fun t => t.taskId ∈ ids) fun t =>
      { t with
        status := .cancelled, updatedAt := utcNow now, stateRevision := t.stateRevision + 1 }
    .ok (ids, db')

end DataJuicer.Navigation

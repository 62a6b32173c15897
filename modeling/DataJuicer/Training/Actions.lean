import DataJuicer.Lib.Sha256
import DataJuicer.Training.Runs

/-! # Actions handed to a Training Worker

`poll_training_actions` claims the eligible actions of a node for its worker, and
`finish_training_action` takes the result of a claimed action. A claim is held under a lease;
the first poll after its end queues the action again.
-/

namespace DataJuicer.Training

open Transaction

structure WorkerCredential where
  nodeRef : String
  workerToken : String
  workerInstanceId : String

def tokenDigest (token : String) : String := Sha256.hexdigest token

def authenticationFailed : TrainingError :=
  .forbidden "worker_authentication_failed" "The Training Worker credential is invalid."

def authenticateWorker (reg : Registry) (w : WorkerCredential) :
    Except TrainingError PUnit := do
  let node ← orRaise authenticationFailed (reg.nodes.find? w.nodeRef)
  raiseIf (node.workerTokenSha256 ≠ some (tokenDigest w.workerToken) ∨
    node.workerInstanceId ≠ some w.workerInstanceId) authenticationFailed

def actionLeaseMs : ℕ := 45000

def ActionRow.Expired (now : Timestamp) (nodeRef : String) (a : ActionRow) : Prop :=
  a.nodeRef = nodeRef ∧ a.status = .running ∧ ∃ t ∈ a.leaseExpiresAt, t < now

instance (now : Timestamp) (nodeRef : String) : DecidablePred (ActionRow.Expired now nodeRef) :=
  fun a => by
    unfold ActionRow.Expired
    infer_instance

def requeueExpired (now : Timestamp) (nodeRef : String) (db : Database) : Database :=
  { db with actions := db.actions.update (ActionRow.Expired now nodeRef) fun a =>
      { a with
        status := .queued
        workerInstanceId := none
        claimTokenSha256 := none
        leaseExpiresAt := none
        startedAt := none
        updatedAt := now } }

def ActionKind.EligibleIn (s : RunStatus) : ActionKind → Prop
  | .stopTrainingRun => s = .stopRequested
  | .startTrainingStage => s = .queued ∨ s = .preparing

instance (s : RunStatus) (k : ActionKind) : Decidable (k.EligibleIn s) := by
  cases k <;> unfold ActionKind.EligibleIn <;> infer_instance

def Eligible (db : Database) (nodeRef : String) (a : ActionRow) : Prop :=
  a.nodeRef = nodeRef ∧ a.status = .queued ∧
    ∃ r ∈ db.runs, r.runRef = a.runRef ∧ a.kind.EligibleIn r.status

instance (db : Database) (nodeRef : String) : DecidablePred (Eligible db nodeRef) := fun a => by
  unfold Eligible
  infer_instance

def eligibleActions (db : Database) (nodeRef : String) : List ActionRow :=
  let rows := db.actions.select (Eligible db nodeRef)
  rows.filter (fun a => a.kind = .stopTrainingRun) ++
    rows.filter (fun a => a.kind ≠ .stopTrainingRun)

structure ClaimedAction where
  actionRef : String
  claimToken : String
  kind : ActionKind
  runRef : String
  ownerEpoch : ℕ
  payload : ActionRequest

def prepareStage (now : Timestamp) (w : WorkerCredential) (a : ActionRow) (db : Database) :
    Database :=
  { db with
    runs := db.runs.update (fun r => r.runRef = a.runRef ∧ r.status = .queued) fun r =>
      { r with
        status := .preparing
        executionControlStatus := some .connected
        executionWorkerInstanceId := some w.workerInstanceId
        executionLastHeartbeatAt := some now
        updatedAt := now }
    stages := db.stages.update (fun s => some s.stageRef = a.stageRef ∧ s.status = .pending)
      fun s => { s with status := .preparing, updatedAt := now } }

def claimRow (now : Timestamp) (w : WorkerCredential) (token : String) (a : ActionRow) :
    ActionRow :=
  { a with
    status := .running
    workerInstanceId := some w.workerInstanceId
    claimTokenSha256 := some (tokenDigest token)
    leaseExpiresAt := some (now + actionLeaseMs)
    startedAt := a.startedAt.or (some now)
    updatedAt := now }

/-- One round of the loop of `poll_training_actions`. -/
def claimAction (now : Timestamp) (w : WorkerCredential) (token : String) (row : ActionRow)
    (db : Database) : Database :=
  let actions := db.actions.update
    (fun a => a.actionRef = row.actionRef ∧ a.status = .queued) (claimRow now w token)
  match row.kind with
  | .startTrainingStage => prepareStage now w row { db with actions }
  | .stopTrainingRun => { db with actions }

def claimedAction (db : Database) (token : String) (row : ActionRow) : ClaimedAction where
  actionRef := row.actionRef
  claimToken := token
  kind := row.kind
  runRef := row.runRef
  ownerEpoch := ((db.runs.find? row.runRef).map (·.executionOwnerEpoch)).getD 0
  payload := row.request

/-- `poll_training_actions`; `tokens` has the claim token drawn for each action. -/
def pollTrainingActions (now : Timestamp) (w : WorkerCredential) (limit : ℕ)
    (tokens : String → String) (db : Database) :
    Except TrainingError (List ClaimedAction × Database) := do
  authenticateWorker db.registry w
  let db := requeueExpired now w.nodeRef db
  let rows := (eligibleActions db w.nodeRef).take (max 1 (min limit 10))
  let claimed := rows.map fun row => claimedAction db (tokens row.actionRef) row
  return (claimed, rows.foldl (fun db row => claimAction now w (tokens row.actionRef) row db) db)

/-- The error a worker reports; `text` is its canonical JSON. -/
structure ActionError where
  code : Option String
  message : Option String
  text : String

/-- The arguments of `finish_training_action`. -/
structure ActionResult where
  actionRef : String
  claimToken : String
  succeeded : Bool
  result : String
  error : Option ActionError

def errorText (field : ActionError → Option String) (default : String) (e : Option ActionError) :
    String :=
  ((e.bind field).filter (· ≠ "")).getD default

def ActionResult.code (q : ActionResult) : String :=
  errorText ActionError.code "training_action_failed" q.error

def ActionResult.message (q : ActionResult) : String :=
  errorText ActionError.message "Worker could not start the training stage." q.error

def settleStops (now : Timestamp) (runRef : String) (db : Database) : Database :=
  { db with
    actions := db.actions.update
      (fun a => a.runRef = runRef ∧ a.kind = .stopTrainingRun ∧ a.status.Open) fun a =>
        { a with
          status := .succeeded
          result := some "{}"
          claimTokenSha256 := none
          leaseExpiresAt := none
          finishedAt := some now
          updatedAt := now } }

def markUnresolved (now : Timestamp) (runRef : String) (statuses : List RunStatus)
    (db : Database) : Database :=
  { db with runs := db.runs.update (fun r => r.runRef = runRef ∧ r.status ∈ statuses) fun r =>
      { r with
        executionControlStatus := some .unresolved
        stateRevision := r.stateRevision + 1
        updatedAt := now } }

def unresolvedLaunch : String := "training_launch_unresolved"

def failStart (now : Timestamp) (run : RunRow) (q : ActionResult) (db : Database) : Database :=
  if q.code = unresolvedLaunch then
    markUnresolved now run.runRef [.preparing, .running, .stopRequested] db
  else if run.status = .stopRequested then
    finishIn now run .cancelled none none (settleStops now run.runRef db)
  else finishIn now run .failed (some q.code) (some q.message) db

def storeResult (now : Timestamp) (q : ActionResult) (db : Database) : Database :=
  { db with actions := db.actions.update (fun a => a.actionRef = q.actionRef) fun a =>
      { a with
        status := if q.succeeded then .succeeded else .failed
        result := some (if q.succeeded then q.result else (q.error.map (·.text)).getD "{}")
        claimTokenSha256 := none
        leaseExpiresAt := none
        finishedAt := some now
        updatedAt := now } }

def settleAction (now : Timestamp) (row : ActionRow) (run : RunRow) (q : ActionResult)
    (db : Database) : Database :=
  match q.succeeded, row.kind with
  | false, .startTrainingStage => failStart now run q db
  | false, .stopTrainingRun => markUnresolved now run.runRef [.stopRequested] db
  | true, _ => db

def finishTrainingAction (now : Timestamp) (w : WorkerCredential) (q : ActionResult)
    (db : Database) : Except TrainingError (ActionStatus × Database) := do
  authenticateWorker db.registry w
  let notFound : TrainingError :=
    .notFound "training_action_not_found" "The training action was not found."
  let row ← orRaise notFound
    ((db.actions.find? q.actionRef).filter fun a => a.nodeRef = w.nodeRef)
  let run ← orRaise notFound (db.runs.find? row.runRef)
  if row.status = .succeeded ∨ row.status = .failed then return (row.status, db)
  else
    raiseIf (row.status ≠ .running ∨ row.workerInstanceId ≠ some w.workerInstanceId ∨
        row.claimTokenSha256 ≠ some (tokenDigest q.claimToken))
      (.conflict "training_action_claim_lost"
        "The training action is no longer claimed by this Worker.")
    return (if q.succeeded then .succeeded else .failed,
      settleAction now row run q (storeResult now q db))

end DataJuicer.Training

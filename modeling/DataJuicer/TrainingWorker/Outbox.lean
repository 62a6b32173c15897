import DataJuicer.Lib.Interleaving
import DataJuicer.Training.UpdateSequence

/-! # The update outbox of a worker

`enqueue_update` numbers the updates of a run and stores them, `_flush` publishes what is stored
one by one and removes what the centre has answered. The threads of the worker, the network and
the centre take their steps in any order, and the worker may crash between any two of its own.
-/

namespace DataJuicer.TrainingWorker

open Table Training Transaction

/-- A row of `worker_runs`. -/
structure LedgerRun where
  runRef : String
  workerSeq : ℕ

instance : Keyed LedgerRun String := ⟨LedgerRun.runRef⟩

/-- A row of `worker_run_updates`. -/
structure StoredUpdate where
  runRef : String
  ownerEpoch : ℕ
  workerSeq : ℕ
  payload : Dict
  deriving DecidableEq

instance : Keyed StoredUpdate (String × ℕ × ℕ) :=
  ⟨fun u => (u.runRef, u.ownerEpoch, u.workerSeq)⟩

structure UpdateLedger where
  runs : Table LedgerRun
  updates : Table StoredUpdate

namespace UpdateLedger

def workerSeq? (l : UpdateLedger) (runRef : String) : Option ℕ :=
  (l.runs.find? runRef).map LedgerRun.workerSeq

/-- The transaction of `enqueue_update`; a stored number is an `IntegrityError`. -/
def store? (l : UpdateLedger) (u : StoredUpdate) : Option UpdateLedger :=
  (l.updates.insert? u).map fun updates =>
    { runs := l.runs.update (fun r => r.runRef = u.runRef) fun r =>
        { r with workerSeq := u.workerSeq }
      updates }

def pendingUpdates (l : UpdateLedger) (runRef : String) (limit : ℕ) : List StoredUpdate :=
  ((l.updates.select fun u => u.runRef = runRef).insertionSort fun u v =>
    u.ownerEpoch < v.ownerEpoch ∨ u.ownerEpoch = v.ownerEpoch ∧ u.workerSeq ≤ v.workerSeq).take
      limit

def acknowledgeUpdates (l : UpdateLedger) (runRef : String) (ownerEpoch throughSeq : ℕ) :
    UpdateLedger :=
  { l with updates := l.updates.delete fun u =>
      u.runRef = runRef ∧ u.ownerEpoch = ownerEpoch ∧ u.workerSeq ≤ throughSeq }

/-- `record_process_observation` inserts a run with the number zero or keeps its number. -/
def recordProcessObservation (l : UpdateLedger) (runRef : String) : UpdateLedger :=
  { l with runs := l.runs.insertOrIgnore ⟨runRef, 0⟩ }

end UpdateLedger

deriving instance DecidableEq for UpdateRequest

/-- What a thread does at once. -/
inductive OutboxOp
  | workerSeq (runRef : String)
  | store (u : StoredUpdate)
  | pendingUpdates (runRef : String) (limit : ℕ)
  | send (q : UpdateRequest)
  | receive (q : UpdateRequest)
  | acknowledge (runRef : String) (ownerEpoch throughSeq : ℕ)
  deriving DecidableEq

abbrev OutboxOp.Answer : OutboxOp → Type
  | workerSeq _ => Option ℕ
  | store _ => Bool
  | pendingUpdates _ _ => List StoredUpdate
  | send _ => Unit
  | receive _ => Bool
  | acknowledge _ _ _ => Unit

inductive LedgerError
  | valueError
  | keyError (runRef : String)
  | integrityError

/-- A part of the worker's code. -/
abbrev OutboxProg := Prog OutboxOp.Answer LedgerError

def OutboxOp.perform (op : OutboxOp) : OutboxProg op.Answer := Prog.perform op

/-- `enqueue_update`; the first statement reads outside of the transaction. -/
def enqueueUpdate (runRef : String) (ownerEpoch : ℕ) (payload : Dict) : OutboxProg ℕ :=
  if runRef = "" then Prog.raise .valueError
  else do
    match ← OutboxOp.perform (.workerSeq runRef) with
    | none => Prog.raise (.keyError runRef)
    | some n =>
      if ← OutboxOp.perform (.store ⟨runRef, ownerEpoch, n + 1, payload⟩) then return n + 1
      else Prog.raise .integrityError

def StoredUpdate.request (u : StoredUpdate) : UpdateRequest :=
  ⟨u.runRef, u.ownerEpoch, u.workerSeq, [u.payload]⟩

/-- The loop of `_flush`; a `CenterClientError` ends it. -/
def publishUpdates : List StoredUpdate → OutboxProg Unit
  | [] => pure ()
  | u :: us => do
    OutboxOp.perform (.send u.request)
    if ← OutboxOp.perform (.receive u.request) then
      OutboxOp.perform (.acknowledge u.runRef u.ownerEpoch u.workerSeq)
      publishUpdates us
    else return ()

def flushUpdates (runRef : String) : OutboxProg Unit := do
  publishUpdates (← OutboxOp.perform (.pendingUpdates runRef 100))

/-- What a thread is started for. -/
inductive OutboxTask
  | enqueue (runRef : String) (ownerEpoch : ℕ) (payload : Dict)
  | flush (runRef : String)

def OutboxTask.program : OutboxTask → OutboxProg Unit
  | enqueue runRef ownerEpoch payload => do
    let _ ← enqueueUpdate runRef ownerEpoch payload
    return ()
  | flush runRef => flushUpdates runRef

/-- `stored` and `applied` remember what was ever stored in the ledger and applied by the centre. -/
structure OutboxWorld where
  ledger : UpdateLedger
  centre : Database
  sent : List UpdateRequest
  answered : List UpdateRequest
  stored : List StoredUpdate
  applied : List UpdateRequest

def OutboxWorld.initial (centre : Database) : OutboxWorld :=
  ⟨⟨.empty, .empty⟩, centre, [], [], [], []⟩

def OutboxWorld.exec (w : OutboxWorld) : (op : OutboxOp) → op.Answer → Option OutboxWorld
  | .workerSeq runRef, answer => if w.ledger.workerSeq? runRef = answer then some w else none
  | .store u, true => (w.ledger.store? u).map fun ledger =>
    { w with ledger, stored := w.stored ++ [u] }
  | .store u, false => if w.ledger.store? u = none then some w else none
  | .pendingUpdates runRef limit, answer =>
    if w.ledger.pendingUpdates runRef limit = answer then some w else none
  | .send q, () => some { w with sent := w.sent ++ [q] }
  -- The request or its answer may be lost or late, or the centre may refuse it.
  | .receive _, false => some w
  | .receive q, true => if q ∈ w.answered then some w else none
  | .acknowledge runRef ownerEpoch throughSeq, () =>
    some { w with ledger := w.ledger.acknowledgeUpdates runRef ownerEpoch throughSeq }

/-- What happens outside of the threads. -/
inductive OutboxOutside
  /-- A request reaches the centre, at any time and any number of times. -/
  | deliver (now : Timestamp) (w : WorkerCredential) (refs : ℕ → NewRefs) (q : UpdateRequest)
  /-- The centre serves another request. -/
  | serve (op : Training.Op)
  | observe (runRef : String)
  /-- These threads end. -/
  | crash (ended : ℕ → Bool)

def OutboxWorld.outside (w : OutboxWorld) : OutboxOutside → Option OutboxWorld
  | .deliver now worker refs q =>
    if q ∈ w.sent then
      match updateTrainingRun now worker refs q w.centre with
      | .ok (_, centre) => some { w with
          centre
          answered := w.answered ++ [q]
          applied := if updateSeq centre q.runRef = updateSeq w.centre q.runRef then w.applied
            else w.applied ++ [q] }
      | .error _ => some w
    else none
  | .serve (.applyTrainingRunUpdates _ _ _) => none
  | .serve op =>
    match perform op w.centre with
    | .ok (_, centre) => some { w with centre }
    | .error _ => some w
  | .observe runRef => some { w with ledger := w.ledger.recordProcessObservation runRef }
  | .crash _ => some w

/-- The threads are numbered. -/
def outboxMachine : Machine OutboxWorld ℕ OutboxOutside OutboxOp.Answer where
  exec _ := OutboxWorld.exec
  outside := OutboxWorld.outside
  ends
    | .crash ended, t => ended t
    | _, _ => false

abbrev OutboxPool := Pool OutboxWorld ℕ OutboxOp.Answer LedgerError Unit

abbrev OutboxTransition := Transition OutboxPool (PoolEvent ℕ OutboxOutside OutboxOp.Answer)

/-- All threads are about to start. -/
def OutboxPool.initial (task : ℕ → OutboxTask) (centre : Database) : OutboxPool :=
  ⟨.initial centre, fun t => some (task t).program⟩

end DataJuicer.TrainingWorker

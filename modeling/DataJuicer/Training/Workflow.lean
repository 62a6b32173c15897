import DataJuicer.Training.Operations

/-! # The workflow of one run

What decides the fate of a run is small: its status, the statuses of its stages and actions,
its artifacts and its leases. A `Workflow` is this part of the rows of one run, and the
functions here are what the operations of the store do to it.
-/

namespace DataJuicer.Training

structure RunState where
  mode : ExecutionMode
  status : RunStatus
  owner : Option String
  server : String
  gpuUuids : List String

structure StageState where
  ref : String
  number : ℕ
  output : String
  status : StageStatus
  deriving DecidableEq

structure ActionState where
  ref : String
  stage : Option String
  kind : ActionKind
  status : ActionStatus

structure ArtifactState where
  stage : String
  kind : ArtifactKind
  path : String

def RunRow.state (r : RunRow) : RunState :=
  ⟨r.executionMode, r.status, r.ownerId, r.serverRef, r.gpuUuids⟩

def StageRow.state (s : StageRow) : StageState :=
  ⟨s.stageRef, s.stageNumber, s.outputDirectory, s.status⟩

def ActionRow.state (a : ActionRow) : ActionState := ⟨a.actionRef, a.stageRef, a.kind, a.status⟩

def ArtifactRow.state (a : ArtifactRow) : ArtifactState := ⟨a.stageRef, a.kind, a.path⟩

section

variable (r : RunRow) (s : StageRow) (a : ActionRow)

@[simp] theorem RunRow.state_mode : r.state.mode = r.executionMode := rfl
@[simp] theorem RunRow.state_status : r.state.status = r.status := rfl
@[simp] theorem RunRow.state_owner : r.state.owner = r.ownerId := rfl
@[simp] theorem RunRow.state_server : r.state.server = r.serverRef := rfl
@[simp] theorem RunRow.state_gpuUuids : r.state.gpuUuids = r.gpuUuids := rfl
@[simp] theorem StageRow.state_ref : s.state.ref = s.stageRef := rfl
@[simp] theorem StageRow.state_number : s.state.number = s.stageNumber := rfl
@[simp] theorem StageRow.state_output : s.state.output = s.outputDirectory := rfl
@[simp] theorem StageRow.state_status : s.state.status = s.status := rfl
@[simp] theorem ActionRow.state_ref : a.state.ref = a.actionRef := rfl
@[simp] theorem ActionRow.state_stage : a.state.stage = a.stageRef := rfl
@[simp] theorem ActionRow.state_kind : a.state.kind = a.kind := rfl
@[simp] theorem ActionRow.state_status : a.state.status = a.status := rfl

end

/-- The rows of one run; a run that does not exist has none. -/
@[ext]
structure Workflow where
  run : Option RunState
  stages : List StageState
  actions : List ActionState
  artifacts : List ArtifactState
  gpuLeases : List String
  portLeases : List (String × ℕ)

def runState (t : Table RunRow) (runRef : String) : Option RunState :=
  (t.find? runRef).map RunRow.state

def stageStates (t : Table StageRow) (runRef : String) : List StageState :=
  (t.select fun s => s.runRef = runRef).map StageRow.state

def actionStates (t : Table ActionRow) (runRef : String) : List ActionState :=
  (t.select fun a => a.runRef = runRef).map ActionRow.state

def artifactStates (t : Table ArtifactRow) (runRef : String) : List ArtifactState :=
  (t.select fun a => a.runRef = runRef).map ArtifactRow.state

def leasedGpus (t : Table GpuLeaseRow) (runRef : String) : List String :=
  (t.select fun l => l.runRef = runRef).map (·.gpuUuid)

def leasedPorts (t : Table PortLeaseRow) (runRef : String) : List (String × ℕ) :=
  (t.select fun l => l.runRef = runRef).map fun l => (l.serverRef, l.masterPort)

def workflowOf (db : Database) (runRef : String) : Workflow where
  run := runState db.runs runRef
  stages := stageStates db.stages runRef
  actions := actionStates db.actions runRef
  artifacts := artifactStates db.artifacts runRef
  gpuLeases := leasedGpus db.gpuLeases runRef
  portLeases := leasedPorts db.portLeases runRef

def StageStatus.finish (st : FinishStatus) (x : StageStatus) : StageStatus :=
  match st with
  | .succeeded => x
  | .cancelled => if x.Open then .cancelled else x
  | .failed | .lost => if x.Active then st.toStage else if x = .pending then .skipped else x

def StageState.finish (st : FinishStatus) (s : StageState) : StageState :=
  { s with status := s.status.finish st }

/-- An action that is still queued is cancelled. -/
def ActionState.finish (a : ActionState) : ActionState :=
  if a.status = .queued then { a with status := .cancelled } else a

def RunState.finish (st : FinishStatus) (r : RunState) : RunState :=
  { r with status := st.toRun, owner := none }

namespace Workflow

def finish (st : FinishStatus) (w : Workflow) : Workflow :=
  { run := w.run.map (RunState.finish st)
    stages := w.stages.map (StageState.finish st)
    actions := w.actions.map ActionState.finish
    artifacts := w.artifacts
    gpuLeases := []
    portLeases := [] }

def setRun (f : RunState → RunState) (w : Workflow) : Workflow := { w with run := w.run.map f }

def setStatus (x : RunStatus) (w : Workflow) : Workflow :=
  w.setRun fun r => { r with status := x }

/-- The stages that meet `p` get the status `x`. -/
def setStages (p : StageState → Prop) [DecidablePred p] (x : StageStatus) (w : Workflow) :
    Workflow :=
  { w with stages := w.stages.map fun s => if p s then { s with status := x } else s }

/-- The actions that meet `p` get the status `x`. -/
def setActions (p : ActionState → Prop) [DecidablePred p] (x : ActionStatus) (w : Workflow) :
    Workflow :=
  { w with actions := w.actions.map fun a => if p a then { a with status := x } else a }

def addAction (a : ActionState) (w : Workflow) : Workflow :=
  { w with actions := w.actions ++ [a] }

def addArtifact (a : ArtifactState) (w : Workflow) : Workflow :=
  { w with artifacts := w.artifacts ++ [a] }

/-- The run has a stop action that is queued or claimed. -/
def Stopping (w : Workflow) : Prop := ∃ a ∈ w.actions, a.kind = .stopTrainingRun ∧ a.status.Open

instance (w : Workflow) : Decidable w.Stopping := by
  unfold Stopping
  infer_instance

def stop (actionRef : String) (r : RunState) (w : Workflow) : Workflow :=
  if r.status = .queued then w.finish .cancelled
  else if r.mode = .real ∧ ¬ w.Stopping then
    (w.setStatus .stopRequested).addAction ⟨actionRef, none, .stopTrainingRun, .queued⟩
  else w.setStatus .stopRequested

/-- Claimed actions whose lease is over are queued again. -/
def requeue (refs : List String) (w : Workflow) : Workflow :=
  w.setActions (fun a => a.ref ∈ refs) .queued

/-- A start action that is handed out. -/
def prepare (a : ActionState) (w : Workflow) : Workflow :=
  (w.setRun fun r => if r.status = .queued then { r with status := .preparing } else r).setStages
    (fun s => some s.ref = a.stage ∧ s.status = .pending) .preparing

def claim (a : ActionState) (w : Workflow) : Workflow :=
  let w := w.setActions (fun b => b.ref = a.ref) .running
  match a.kind with
  | .startTrainingStage => w.prepare a
  | .stopTrainingRun => w

def settleStops (w : Workflow) : Workflow :=
  w.setActions (fun a => a.kind = .stopTrainingRun ∧ a.status.Open) .succeeded

def settleStarts (stage : String) (w : Workflow) : Workflow :=
  w.setActions (fun a => a.stage = some stage ∧ a.kind = .startTrainingStage ∧ a.status.Open)
    .succeeded

def result (actionRef : String) (x : ActionStatus) (w : Workflow) : Workflow :=
  w.setActions (fun a => a.ref = actionRef) x

def failStart (r : RunState) (w : Workflow) : Workflow :=
  if r.status = .stopRequested then w.settleStops.finish .cancelled else w.finish .failed

def started (stage : String) (w : Workflow) : Workflow :=
  let w := w.setStages (fun s => s.ref = stage ∧ s.status.Open) .running
  let w := w.setRun fun r =>
    if r.status = .queued ∨ r.status = .preparing ∨ r.status = .running then
      { r with status := .running }
    else r
  w.setActions (fun a => a.stage = some stage ∧ a.kind = .startTrainingStage ∧
    a.status = .running) .succeeded

/-- A `reconciliation` that found the stage running. -/
def foundRunning (stage : Option String) (w : Workflow) : Workflow :=
  (w.setStages (fun s => some s.ref = stage) .running).setStatus .running

def exitStopped (stage : String) (w : Workflow) : Workflow :=
  (w.settleStops.setStages (fun s => s.ref = stage ∧ s.status.Open) .cancelled).finish .cancelled

def exitUnsuccessful (stage : String) (st : FinishStatus) (w : Workflow) : Workflow :=
  let w := (w.setStages (fun s => s.ref = stage) st.toStage).finish st
  if st = .cancelled then w.settleStops else w

def succeedStage (stage : StageState) (w : Workflow) : Workflow :=
  (w.setStages (fun s => s.ref = stage.ref) .succeeded).addArtifact
    ⟨stage.ref, .stageOutput, stage.output⟩

def nextPending? (w : Workflow) : Option StageState :=
  (w.stages.filter fun s => s.status = .pending).argmin (·.number)

/-- The next stage of a real run is made ready and its start is queued. -/
def advance (actionRef : String) (next : StageState) (w : Workflow) : Workflow :=
  ((w.setStages (fun s => s.ref = next.ref) .preparing).addAction
    ⟨actionRef, some next.ref, .startTrainingStage, .queued⟩).setStatus .preparing

/-- The output of the stage is the model of the version. -/
def complete (stage : StageState) (w : Workflow) : Workflow :=
  (w.addArtifact ⟨stage.ref, .versionModel, stage.output⟩).finish .succeeded

def exitSucceeded (actionRef : String) (stage : StageState) (w : Workflow) : Workflow :=
  let w := w.succeedStage stage
  match w.nextPending? with
  | some next => w.advance actionRef next
  | none => w.complete stage

def exited (actionRef : String) (r : RunState) (stage : StageState) (outcome : FinishStatus)
    (w : Workflow) : Workflow :=
  let w := w.settleStarts stage.ref
  if r.status = .stopRequested then w.exitStopped stage.ref
  else match outcome with
    | .succeeded => w.exitSucceeded actionRef stage
    | st => w.exitUnsuccessful stage.ref st

/-- `claim_next_run` -/
def claimRun (workerId : String) (w : Workflow) : Workflow :=
  let w := w.setRun fun r => { r with status := .preparing, owner := some workerId }
  match w.nextPending? with
  | none => w.finish .failed
  | some next => w.setStages (fun s => s.ref = next.ref) .preparing

/-- `transition_running` -/
def startStage (stage : StageState) (w : Workflow) : Workflow :=
  (w.setStages (fun s => s.ref = stage.ref) .running).setStatus .running

/-- `finish_stage` of a stage that did not succeed. -/
def failStage (stage : StageState) (st : FinishStatus) (w : Workflow) : Workflow :=
  (w.setStages (fun s => s.ref = stage.ref) st.toStage).finish st

/-- `finish_stage` of a stage that succeeded. -/
def completeStage (stage : StageState) (w : Workflow) : Workflow :=
  let w := w.succeedStage stage
  match w.nextPending? with
  | some next => w.setStages (fun s => s.ref = next.ref) .preparing
  | none => w.complete stage

/-- A run that does not exist. -/
def vacant : Workflow := ⟨none, [], [], [], [], []⟩

/-- `create_run` -/
def created (r : RunState) (stages : List StageState) (actions : List ActionState)
    (ports : List (String × ℕ)) : Workflow where
  run := some r
  stages := stages
  actions := actions
  artifacts := []
  gpuLeases := r.gpuUuids
  portLeases := ports

/-- What a worker reports about a run, as far as it can change the workflow. -/
inductive Report
  | startFailed
  | stopAnswered
  | started (stage : StageState)
  | foundRunning (stage : Option StageState)
  | exited (stage : StageState) (outcome : FinishStatus)

/--
One change of a workflow. The reports of workers are those that meet `ok`; nothing else is
known about them.
-/
inductive Change (ok : Workflow → Report → Prop) : Workflow → Workflow → Prop
  | create {r : RunState} {stages : List StageState} {actions : List ActionState}
      {ports : List (String × ℕ)} (hr : r.status = .queued ∧ r.owner = none)
      (hpending : ∀ s ∈ stages, s.status = .pending)
      (hrefs : (stages.map (·.ref)).Nodup)
      (hnumbers : stages.map (·.number) = List.range' 1 stages.length)
      (hlength : 1 ≤ stages.length ∧ stages.length ≤ 10)
      (hactions : if r.mode = .real then ∃ s ∈ stages, ∃ ref, s.number = 1 ∧
        actions = [⟨ref, some s.ref, .startTrainingStage, .queued⟩] else actions = [])
      (hports : ports.length ≤ 1) :
      Change ok vacant (created r stages actions ports)
  | stop {w : Workflow} {r : RunState} {ref : String} (hr : w.run = some r)
      (hopen : ¬ r.status.Terminal) : Change ok w (w.stop ref r)
  | requeue {w : Workflow} {refs : List String}
      (hrefs : ∀ a ∈ w.actions, a.ref ∈ refs → a.status = .running) : Change ok w (w.requeue refs)
  | claim {w : Workflow} {r : RunState} {a : ActionState} (hr : w.run = some r)
      (ha : a ∈ w.actions) (hqueued : a.status = .queued) (helig : a.kind.EligibleIn r.status) :
      Change ok w (w.claim a)
  | result {w : Workflow} {a : ActionState} {x : ActionStatus} (ha : a ∈ w.actions)
      (hrunning : a.status = .running) (hx : x = .succeeded ∨ x = .failed)
      (hok : a.kind = .stopTrainingRun → ok w .stopAnswered) : Change ok w (w.result a.ref x)
  | startFailed {w : Workflow} {r : RunState} {a : ActionState} (hr : w.run = some r)
      (ha : a ∈ w.actions) (hkind : a.kind = .startTrainingStage) (hrunning : a.status = .running)
      (hok : ok w .startFailed) : Change ok w ((w.result a.ref .failed).failStart r)
  | started {w : Workflow} {s : StageState} (hs : s ∈ w.stages) (hok : ok w (.started s)) :
      Change ok w (w.started s.ref)
  | foundRunning {w : Workflow} {s : Option StageState} (hs : ∀ t ∈ s, t ∈ w.stages)
      (hok : ok w (.foundRunning s)) : Change ok w (w.foundRunning (s.map (·.ref)))
  | exited {w : Workflow} {r : RunState} {s : StageState} {outcome : FinishStatus} {ref : String}
      (hr : w.run = some r) (hs : s ∈ w.stages) (hok : ok w (.exited s outcome)) :
      Change ok w (w.exited ref r s outcome)
  | claimRun {w : Workflow} {r : RunState} {workerId : String} (hr : w.run = some r)
      (hmode : r.mode = .simulation) (hqueued : r.status = .queued) :
      Change ok w (w.claimRun workerId)
  | cancelStopped {w : Workflow} {r : RunState} (hr : w.run = some r) (howner : r.owner ≠ none)
      (hstop : r.status = .stopRequested) : Change ok w (w.finish .cancelled)
  | startStage {w : Workflow} {r : RunState} {s : StageState} (hr : w.run = some r)
      (howner : r.owner ≠ none) (hstatus : r.status = .preparing ∨ r.status = .running)
      (hs : s ∈ w.stages) (hpreparing : s.status = .preparing) : Change ok w (w.startStage s)
  | failStage {w : Workflow} {r : RunState} {s : StageState} {st : FinishStatus}
      (hr : w.run = some r) (howner : r.owner ≠ none) (hstop : r.status ≠ .stopRequested)
      (hs : s ∈ w.stages) (hactive : s.status.Active) (hst : st ≠ .succeeded) :
      Change ok w (w.failStage s st)
  | completeStage {w : Workflow} {r : RunState} {s : StageState} (hr : w.run = some r)
      (howner : r.owner ≠ none) (hstop : r.status ≠ .stopRequested) (hs : s ∈ w.stages)
      (hactive : s.status.Active) : Change ok w (w.completeStage s)
  | giveUp {w : Workflow} {r : RunState} (hr : w.run = some r) (hmode : r.mode = .simulation)
      (hopen : ¬ r.status.Terminal) : Change ok w (w.finish .lost)

/-- References tell the stages and the actions of a run apart. -/
structure Keyed (w : Workflow) : Prop where
  stages : (w.stages.map (·.ref)).Nodup
  actions : (w.actions.map (·.ref)).Nodup

theorem Keyed.stage_eq {w : Workflow} (h : w.Keyed) {s t : StageState} (hs : s ∈ w.stages)
    (ht : t ∈ w.stages) (he : s.ref = t.ref) : s = t :=
  List.inj_on_of_nodup_map h.stages hs ht he

theorem Keyed.action_eq {w : Workflow} (h : w.Keyed) {a b : ActionState} (ha : a ∈ w.actions)
    (hb : b ∈ w.actions) (he : a.ref = b.ref) : a = b :=
  List.inj_on_of_nodup_map h.actions ha hb he

abbrev Changes (ok : Workflow → Report → Prop) : Workflow → Workflow → Prop :=
  Relation.ReflTransGen fun w w' => Change ok w w' ∧ w.Keyed ∧ w'.Keyed

end Workflow

end DataJuicer.Training

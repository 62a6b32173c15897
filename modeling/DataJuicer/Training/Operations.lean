import DataJuicer.Training.Simulation

/-! # The training centre as one service

Every operation on runs is one immediate transaction, so any number of users, workers and
simulated workers act on the database as a sequence of requests. The other operations of the
store change the registry of models, nodes and replicas only.
-/

namespace DataJuicer.Training

open Transaction

/-- The requests to the store, with the arguments of the operations. -/
inductive Op
  | createRun (now : Timestamp) (c : RunCreation)
  | stopRun (now : Timestamp) (q : StopRequest)
  | pollTrainingActions (now : Timestamp) (w : WorkerCredential) (limit : ℕ)
      (tokens : String → String)
  | finishTrainingAction (now : Timestamp) (w : WorkerCredential) (q : ActionResult)
  | applyTrainingRunUpdates (now : Timestamp) (w : WorkerCredential) (b : UpdateBatch)
  | claimNextRun (now : Timestamp) (workerId : String) (leaseMs : ℕ)
  | transitionRunning (now : Timestamp) (runRef workerId : String)
  | appendStep (now : Timestamp) (runRef workerId : String) (m : StepMetric) (message : String)
      (stageRef : Option String)
  | finishStage (now : Timestamp) (runRef workerId : String) (q : StageFinish)
  | recoverStaleRuns (now : Timestamp)
  | changeRegistry (registry : Registry)

/-- What a request returns. -/
inductive Reply
  | run (view : RunView)
  | noRun
  | actions (claimed : List ClaimedAction)
  | action (status : ActionStatus)
  | count (n : ℕ)
  | done

def Reply.ofClaim : Option RunView → Reply
  | some view => .run view
  | none => .noRun

def answer {α : Type} (f : α → Reply) (x : Except TrainingError (α × Database)) :
    Except TrainingError (Reply × Database) :=
  x.map fun r => (f r.1, r.2)

theorem answer_eq_ok {α : Type} {f : α → Reply} {x : Except TrainingError (α × Database)}
    {r : Reply} {db : Database} : answer f x = .ok (r, db) ↔ ∃ a, x = .ok (a, db) ∧ f a = r := by
  cases x with
  | error e => simp [answer, Except.map]
  | ok p =>
    obtain ⟨a, d⟩ := p
    simp [answer, Except.map, and_comm, and_assoc]

/-- The operation that a request calls. -/
def perform : Op → Database → Except TrainingError (Reply × Database)
  | .createRun now c, db => answer .run (createRun now c db)
  | .stopRun now q, db => answer .run (stopRun now q db)
  | .pollTrainingActions now w limit tokens, db =>
    answer .actions (pollTrainingActions now w limit tokens db)
  | .finishTrainingAction now w q, db => answer .action (finishTrainingAction now w q db)
  | .applyTrainingRunUpdates now w b, db => answer .run (applyTrainingRunUpdates now w b db)
  | .claimNextRun now workerId leaseMs, db =>
    answer Reply.ofClaim (claimNextRun now workerId leaseMs db)
  | .transitionRunning now runRef workerId, db =>
    answer .run (transitionRunning now runRef workerId db)
  | .appendStep now runRef workerId m message stageRef, db =>
    answer .run (appendStep now runRef workerId m message stageRef db)
  | .finishStage now runRef workerId q, db => answer .run (finishStage now runRef workerId q db)
  | .recoverStaleRuns now, db =>
    .ok (.count (recoverStaleRuns now db).1, (recoverStaleRuns now db).2)
  | .changeRegistry registry, db => .ok (.done, { db with registry })

theorem poll_of_actions {op : Op} {db db' : Database} {claimed : List ClaimedAction}
    (h : perform op db = .ok (.actions claimed, db')) : ∃ now w limit tokens,
      op = .pollTrainingActions now w limit tokens ∧
        pollTrainingActions now w limit tokens db = .ok (claimed, db') := by
  cases op with
  | pollTrainingActions now w limit tokens =>
    obtain ⟨a, ha, he⟩ := answer_eq_ok.1 h
    cases he
    exact ⟨now, w, limit, tokens, rfl, ha⟩
  | claimNextRun =>
    obtain ⟨v, -, he⟩ := answer_eq_ok.1 h
    cases v <;> cases he
  | recoverStaleRuns | changeRegistry => cases h
  | _ =>
    obtain ⟨_, -, he⟩ := answer_eq_ok.1 h
    cases he

/-- The run operations of the store behind one database. -/
def centre : Service Database Op (Except TrainingError Reply) := ⟨fun op => run (perform op)⟩

/-- A request with its answer. -/
abbrev Event := Op × Except TrainingError Reply

abbrev Step : Database → Event → Database → Prop := centre.step

theorem step_iff {db db' : Database} {e : Event} :
    Step db e db' ↔ (∃ r, perform e.1 db = .ok (r, db') ∧ e.2 = .ok r) ∨
      ∃ x, perform e.1 db = .error x ∧ e.2 = .error x ∧ db' = db :=
  run_eq

namespace Sample

def worker : WorkerCredential := ⟨"node", "token", "worker"⟩

def node : NodeRow where
  nodeRef := "node"
  status := .online
  lastHeartbeatAt := some 0
  trainingExecutionV1 := true
  workerFeatures := []
  workerTokenSha256 := some (tokenDigest "token")
  workerInstanceId := some "worker"

/-- One verified model and one node with a worker. -/
def registry : Registry where
  models := ⟨[⟨"model", 1, true, "family", "Family"⟩], by simp⟩
  revisions := ⟨[⟨"revision", "model", 1⟩], by simp⟩
  nodes := ⟨[node], by simp⟩
  replicas := .empty

def stageSpec : StageSpec where
  workingDirectory := "work"
  outputRoot := some "root"
  argv := ["train"]
  entrypoint := "train"
  sensitiveParameters := []
  parameters := []
  runtimeEnvironment := "env"
  monitoring := "none"
  datasetManifestPath := none

def stage (ref : String) : StageInput := ⟨some ref, some ref, .manual, stageSpec, "out/" ++ ref, 1⟩

def creation (mode runRef : String) (stages : List String) : RunCreation where
  data :=
    { executionMode := mode
      gpuUuids := ["gpu"]
      modelRef := "model"
      revisionRef := "revision"
      serverRef := "node"
      datasetSplits := none
      requiresMasterPort := true
      versionDescription := none }
  runSpecBuilder _ _ _ := .ok ⟨stages.map stage, none⟩
  idempotencyKey := "create-" ++ runRef
  digest := "digest"
  versionDate := "20250101"
  runRef := runRef
  versionRef := "version-" ++ runRef
  snapshotRef := "snapshot-" ++ runRef
  stageRefs _ := ""
  actionRef := "start-" ++ runRef

def refs (n : String) : NewRefs := ⟨"output-" ++ n, "model-" ++ n, "start-" ++ n,
    "checkpoint-" ++ n⟩

def report (now : Timestamp) (runRef : String) (seq : ℕ) (stage : String) (body : UpdateBody) :
    Op :=
  .applyTrainingRunUpdates now worker
    ⟨runRef, 1, seq, [(⟨some stage, body⟩, refs (toString now))]⟩

def poll (now : Timestamp) : Op := .pollTrainingActions now worker 1 fun ref => "claim-" ++ ref

def succeeded : Exit := ⟨some "succeeded", none, none⟩

def failed : Exit := ⟨some "failed", none, none⟩

def running : Exit := ⟨some "running", none, none⟩

end Sample

end DataJuicer.Training

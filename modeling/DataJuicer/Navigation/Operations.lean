import DataJuicer.Lib.Run
import DataJuicer.Navigation.HumanDecisions
import DataJuicer.Navigation.ObservationStore

/-! # The stores as one service

Every operation of the stores is one immediate transaction, so any number of callers act on
the database as a sequence of requests. A request that raises leaves the database as it was.
-/

namespace DataJuicer.Navigation

/-- The requests to the stores, with the arguments of the operations. -/
inductive Op
  | createTaskAttempt (now : Timestamp) (a : TaskAttempt)
  | createLinkedTrajectoryFixAttempt (now : Timestamp) (a : LinkedAttempt)
  | updateTaskForSession (call : Call) (taskId : String) (expectedStateRevision : Option ℕ)
      (changes : TaskChanges)
  | deleteTaskIfCurrent (call : Call) (taskId : String) (expectedStateRevision : ℕ)
  | cancelNonterminalForDatasetReset (now : Timestamp) (date resetRef : String)
  | appendUserGuidance (call : Call) (g : UserGuidance)
  | recordAttempt (call : Call) (attempt : AttemptRow)
  | activate (call : Call) (a : Activation)
  | invalidate (call : Call) (planId reason : String)
  | claimStep (call : Call) (planId stepId action : String)
  | markWaitingUser (call : Call) (planId stepId action : String)
  | resumeWaitingWorkflowStep (call : Call) (planId stepId action : String)
  | markWorkflowStepWaitingUser (call : Call) (planId stepId action : String)
  | stageStepResult (call : Call) (planId stepId action : String) (result : StepResult)
  | attachStagedResultEvidence (call : Call) (planId stepId resultRef action : String)
  | finalizeStagedStep (call : Call) (planId stepId action : String)
  | recoverRunningStepWithoutResult (call : Call) (planId stepId reason action : String)
  | markNeedsReplan (call : Call) (planId reason : String)
  | markTerminalizedClaimNeedsReplan (call : Call) (planId stepId reason action : String)
  | stageHumanDecisionHandoff (call : Call) (planId stepId : String) (d : HumanDecision)
  | acknowledgeHumanDecisionHandoff (call : Call) (planId stepId decisionKey : String)
  | claimHumanDecisionDelivery (call : Call) (planId stepId decisionKey owner token : String)
  | markHumanDecisionRecoveryRequired (call : Call) (planId stepId reasonCode : String)
      (requestAnchor : Option String)
  | quarantineHumanDecisionHandoff (now : Timestamp) (web planId stepId reason : String)
  | finishHumanDecisionDelivery (call : Call) (planId stepId decisionKey token : String)
      (delivered : Bool)
  | markConsumedHumanDecisionDelivery (call : Call) (planId stepId decisionKey : String)

/-- What a request returns. -/
inductive Reply
  | attempt (task : TaskRow) (created : Bool)
  | task (task : TaskRow)
  | taskIds (ids : List String)
  | guidance (guidanceRevision : ℤ) (observation : NavigationObservationRevision)
  | submission (attempt : AttemptRow)
  | plan (plan : PlanRow)
  | claim (outcome : StepClaimOutcome)
  | flag (b : Bool)
  | staged (result : OutboxRow)
  | handoff (stage : HandoffStage)
  | delivery (claim : DeliveryClaim)
  | quarantined

def answer {α : Type} (f : α → Reply) (x : Except NavigationError (α × NavigationDb)) :
    Except NavigationError (Reply × NavigationDb) :=
  x.map fun r => (f r.1, r.2)

/-- The operation that a request calls. -/
def perform : Op → NavigationDb → Except NavigationError (Reply × NavigationDb)
  | .createTaskAttempt now a, db =>
    answer (fun r => .attempt r.1 r.2) (createTaskAttempt now a db)
  | .createLinkedTrajectoryFixAttempt now a, db =>
    answer (fun r => .attempt r.1 r.2) (createLinkedTrajectoryFixAttempt now a db)
  | .updateTaskForSession call taskId expected changes, db =>
    answer .task (updateTaskForSession call taskId expected changes db)
  | .deleteTaskIfCurrent call taskId expected, db =>
    answer .flag (deleteTaskIfCurrent call taskId expected db)
  | .cancelNonterminalForDatasetReset now date resetRef, db =>
    answer .taskIds (cancelNonterminalForDatasetReset now date resetRef db)
  | .appendUserGuidance call g, db =>
    answer (fun r => .guidance r.1 r.2) (appendUserGuidance call g db)
  | .recordAttempt call attempt, db => answer .submission (recordAttempt call attempt db)
  | .activate call a, db => answer .plan (activate call a db)
  | .invalidate call planId reason, db => answer .plan (invalidate call planId reason db)
  | .claimStep call planId stepId action, db =>
    answer .claim (claimStep call planId stepId action db)
  | .markWaitingUser call planId stepId action, db =>
    answer .flag (markWaitingUser call planId stepId action db)
  | .resumeWaitingWorkflowStep call planId stepId action, db =>
    answer .flag (resumeWaitingWorkflowStep call planId stepId action db)
  | .markWorkflowStepWaitingUser call planId stepId action, db =>
    answer .flag (markWorkflowStepWaitingUser call planId stepId action db)
  | .stageStepResult call planId stepId action result, db =>
    answer .staged (stageStepResult call planId stepId action result db)
  | .attachStagedResultEvidence call planId stepId resultRef action, db =>
    answer .flag (attachStagedResultEvidence call planId stepId resultRef action db)
  | .finalizeStagedStep call planId stepId action, db =>
    answer .flag (finalizeStagedStep call planId stepId action db)
  | .recoverRunningStepWithoutResult call planId stepId reason action, db =>
    answer .flag (recoverRunningStepWithoutResult call planId stepId reason action db)
  | .markNeedsReplan call planId reason, db =>
    answer .flag (markNeedsReplan call planId reason db)
  | .markTerminalizedClaimNeedsReplan call planId stepId reason action, db =>
    answer .flag (markTerminalizedClaimNeedsReplan call planId stepId reason action db)
  | .stageHumanDecisionHandoff call planId stepId d, db =>
    answer .handoff (stageHumanDecisionHandoff call planId stepId d db)
  | .acknowledgeHumanDecisionHandoff call planId stepId decisionKey, db =>
    answer .flag (acknowledgeHumanDecisionHandoff call planId stepId decisionKey db)
  | .claimHumanDecisionDelivery call planId stepId decisionKey owner token, db =>
    answer .delivery (claimHumanDecisionDelivery call planId stepId decisionKey owner token db)
  | .markHumanDecisionRecoveryRequired call planId stepId reasonCode anchor, db =>
    answer .flag (markHumanDecisionRecoveryRequired call planId stepId reasonCode anchor db)
  | .quarantineHumanDecisionHandoff now web planId stepId reason, db =>
    answer (fun _ => .quarantined) (quarantineHumanDecisionHandoff now web planId stepId reason db)
  | .finishHumanDecisionDelivery call planId stepId decisionKey token delivered, db =>
    answer .flag (finishHumanDecisionDelivery call planId stepId decisionKey token delivered db)
  | .markConsumedHumanDecisionDelivery call planId stepId decisionKey, db =>
    answer .flag (markConsumedHumanDecisionDelivery call planId stepId decisionKey db)

/-- A request that raises is rolled back. -/
def execute (op : Op) (db : NavigationDb) : Except NavigationError Reply × NavigationDb :=
  match perform op db with
  | .ok (r, db') => (.ok r, db')
  | .error e => (.error e, db)

def stores : Service NavigationDb Op (Except NavigationError Reply) := ⟨execute⟩

/-- A request with its answer. -/
abbrev Event := Op × Except NavigationError Reply

/-- The database takes one request. -/
abbrev Step : NavigationDb → Event → NavigationDb → Prop := stores.step

theorem execute_eq {op : Op} {db db' : NavigationDb} {reply : Except NavigationError Reply} :
    execute op db = (reply, db') ↔ (∃ r, perform op db = .ok (r, db') ∧ reply = .ok r) ∨
      ∃ x, perform op db = .error x ∧ reply = .error x ∧ db' = db := by
  unfold execute
  cases perform op db with
  | ok r =>
    obtain ⟨r, d⟩ := r
    constructor
    · rintro ⟨⟩
      exact .inl ⟨r, rfl, rfl⟩
    · rintro (⟨_, ⟨⟩, rfl⟩ | ⟨_, ⟨⟩, _⟩)
      rfl
  | error x =>
    constructor
    · rintro ⟨⟩
      exact .inr ⟨x, rfl, rfl, rfl⟩
    · rintro (⟨_, ⟨⟩, _⟩ | ⟨_, ⟨⟩, rfl, rfl⟩)
      rfl

theorem perform_of_execute {op : Op} {db : NavigationDb} {reply : Reply}
    (h : (execute op db).1 = .ok reply) :
    ∃ db', perform op db = .ok (reply, db') := by
  rcases execute_eq.1 (Prod.ext h rfl) with ⟨r, hr, hreply⟩ | ⟨_, _, hreply, _⟩
  · cases hreply
    exact ⟨_, hr⟩
  · cases hreply

theorem step_iff {db db' : NavigationDb} {e : Event} :
    Step db e db' ↔ (∃ r, perform e.1 db = .ok (r, db') ∧ e.2 = .ok r) ∨
      ∃ x, perform e.1 db = .error x ∧ e.2 = .error x ∧ db' = db :=
  execute_eq

/-- What holds of a database that no request changes and of every committed one. -/
theorem Step.of_commit {db db' : NavigationDb} {e : Event} {P : NavigationDb → Prop}
    (h : Step db e db') (hkeep : P db) (hcommit : ∀ r, perform e.1 db = .ok (r, db') → P db') :
    P db' := by
  rcases step_iff.1 h with ⟨r, hr, _⟩ | ⟨x, _, _, rfl⟩
  · exact hcommit r hr
  · exact hkeep

namespace Sample

def decisions : FinishProcessingDecisions where
  localizationSource := .odom
  localizationConversion := .odomToIns
  localizationEvidence := ["evidence:localization"]
  gridmapSource := .existingGridmap
  gridmapEvidence := ["evidence:gridmap"]
  calibrationMode := .annotationSnapshot
  selectedSensorSource := none
  requiresUserConfirmation := false
  calibrationEvidence := ["evidence:calibration"]
  evidence_ne := by decide
  source_contract := ⟨rfl, rfl⟩

def confirmStep : PlanStep where
  stepId := "confirm"
  dependsOn := []
  decisionRefs := []
  action := .confirmNavigationCalibrationParams
  variant := .default
  arguments := .empty
  stepId_pattern := by decide
  variant_mem := by decide
  arguments_fit := trivial

def trackStep : PlanStep where
  stepId := "track"
  dependsOn := []
  decisionRefs := []
  action := .runAnnotationTrackingWorkflow
  variant := .durableWebHandoff
  arguments := .empty
  stepId_pattern := by decide
  variant_mem := by decide
  arguments_fit := trivial

/-- The calibration is confirmed by the user, then the annotation workflow runs. -/
def plan : PlanInput where
  decisions := .finishProcessing decisions
  steps := [confirmStep, trackStep]
  steps_ne := by decide
  steps_phase := by decide

/-- The owner of task `a`. -/
def alice (now : Timestamp) : Call := ⟨now, some "web-a", some "agent-a"⟩

/-- The owner of task `b`. -/
def bob (now : Timestamp) : Call := ⟨now, some "web-b", some "agent-b"⟩

def attempt (taskId web agentscope : String) : TaskAttempt where
  taskId := taskId
  request := "process"
  target := "navigation"
  date := "20250101"
  segments := .none
  sceneMode := none
  dryRun := false
  web := web
  agentscope := agentscope

def activation (planId taskId : String) : Activation where
  planId := planId
  taskId := taskId
  phase := .finishProcessing
  observationRevision := 1
  plan := plan

/-- Task `a` gets an active plan `p`. -/
def setup : List Op :=
  [.createTaskAttempt 0 (attempt "a" "web-a" "agent-a"), .activate (alice 1) (activation "p" "a")]

end Sample

end DataJuicer.Navigation

import DataJuicer.Annotation.Completions
import DataJuicer.Annotation.Deliveries
import DataJuicer.Annotation.OperatorActions
import DataJuicer.Annotation.Reviews
import DataJuicer.Annotation.Segments
import Mathlib.Logic.Function.Basic

/-! # The annotation system

The calls of the store, each of which is one transaction, and the system that they, the claims
of the workers and the calls of an operator make up. The call of an operator is several steps:
what other processes do in between, and a crash, is part of a run.
-/

namespace DataJuicer.Annotation

open Transaction

inductive StoreCall
  | createJob (c : JobCreation) (runRef idempotencyKey : String)
  | saveDraft (q : SaveDraft) (idempotencyKey : String)
  | submitSegment (q : SubmitSegment) (handoffRef idempotencyKey : String)
  | segmentAction (q : SegmentRequest) (idempotencyKey : String)
  | startTracking (q : JobRequest) (runRef idempotencyKey : String)
  | completeNoProcessableTargets (q : JobRequest) (idempotencyKey : String)
  | cancelJob (q : JobRequest) (idempotencyKey : String)
  | retryJob (q : JobRequest) (runRef idempotencyKey : String)
  | beginPostprocessing (q : PostprocessingRequest) (specRef runRef idempotencyKey : String)
  | startRuntimeStep (runRef safeStepCode : String)
  | beginPostprocessingPublication (runRef : String)
  | finishRuntimeStep (runRef safeStepCode : String) (result : StepResult) (diagnosticRef : String)
  | failActiveRuntimeStep (runRef : String) (returnCode : Option ℤ) (kind : DiagnosticKind)
      (diagnosticRef : String)
  | failRun (q : RunFailure) (refs : FailureRefs)
  | renewRunLease (runRef workerId : String) (leaseMs : ℕ)
  | completePrepare (q : PrepareResult) (refs : PrepareRefs)
  | recordTrackingCheckpoint (q : TrackingCheckpoint)
  | completeTracking (runRef : String) (commandSteps : Option (List String)) (handoffRef : String)
  | completeCancelledRun (runRef : String)
  | completePostprocessingRun (runRef : String) (trajectories : List TrajectoryResult)
      (commandSteps : Option (List String)) (manifest : String) (refs : PostprocessingRefs)
  | completePostprocessing (q : PostprocessingResult) (refs : PostprocessingRefs)
      (idempotencyKey : String)
  | createFixSession (q : FixSession) (idempotencyKey : String)
  | applyFixCommand (q : FixCommand) (idempotencyKey : String)
  | createFixRevision (q : FixRevisionRequest) (runRef revisionRef idempotencyKey : String)
  | completeFixRun (q : FixResult)
  | decideReview (q : DecisionRequest) (handoffRef idempotencyKey : String)
  | resumeReturnedReview (q : ResumeRequest) (idempotencyKey : String)
  | approveFixRevision (q : ApproveRequest) (refs : PublicationRefs) (idempotencyKey : String)
  | retryCompatibilityPublication (q : RetryPublication) (refs : PublicationRefs)
      (idempotencyKey : String)
  | completeCompatibilityPublication (q : PublicationResult)
  | resetUnreleasedDataset (datasetDate resetRef idempotencyKey : String)
  | linkNavigationTask (q : TaskLinkRequest) (linkRef idempotencyKey : String)
  | claimWorkflowHandoffDelivery (workerId : String) (leaseMs : ℕ)
  | completeWorkflowHandoffDelivery (q : Settlement)

def perform (now : Timestamp) (db : Database) : StoreCall → Except AnnotationError Database
  | .createJob c runRef key => (createJob now c runRef key db).map Prod.snd
  | .saveDraft q key => (saveDraft now q key db).map Prod.snd
  | .submitSegment q ref key => (submitSegment now q ref key db).map Prod.snd
  | .segmentAction q key => (segmentAction now q key db).map Prod.snd
  | .startTracking q runRef key => (startTracking now q runRef key db).map Prod.snd
  | .completeNoProcessableTargets q key =>
    (completeNoProcessableTargets now q key db).map Prod.snd
  | .cancelJob q key => (cancelJob now q key db).map Prod.snd
  | .retryJob q runRef key => (retryJob now q runRef key db).map Prod.snd
  | .beginPostprocessing q specRef runRef key =>
    (beginPostprocessing now q specRef runRef key db).map Prod.snd
  | .startRuntimeStep runRef code => startRuntimeStep now runRef code db
  | .beginPostprocessingPublication runRef =>
    (beginPostprocessingPublication now runRef db).map Prod.snd
  | .finishRuntimeStep runRef code result ref => finishRuntimeStep now runRef code result ref db
  | .failActiveRuntimeStep runRef returnCode kind ref =>
    failActiveRuntimeStep now runRef returnCode kind ref db
  | .failRun q refs => failRun now q refs db
  | .renewRunLease runRef workerId leaseMs => .ok (renewRunLease now runRef workerId leaseMs db).2
  | .completePrepare q refs => completePrepare now q refs db
  | .recordTrackingCheckpoint q => recordTrackingCheckpoint now q db
  | .completeTracking runRef commandSteps ref => completeTracking now runRef commandSteps ref db
  | .completeCancelledRun runRef => completeCancelledRun now runRef db
  | .completePostprocessingRun runRef trajectories commandSteps manifest refs =>
    completePostprocessingRun now runRef trajectories commandSteps manifest refs db
  | .completePostprocessing q refs key => (completePostprocessing now q refs key db).map Prod.snd
  | .createFixSession q key => (createFixSession now q key db).map Prod.snd
  | .applyFixCommand q key => (applyFixCommand now q key db).map Prod.snd
  | .createFixRevision q runRef ref key => (createFixRevision now q runRef ref key db).map Prod.snd
  | .completeFixRun q => completeFixRun now q db
  | .decideReview q ref key => (decideReview now q ref key db).map Prod.snd
  | .resumeReturnedReview q key => (resumeReturnedReview now q key db).map Prod.snd
  | .approveFixRevision q refs key => (approveFixRevision now q refs key db).map Prod.snd
  | .retryCompatibilityPublication q refs key =>
    (retryCompatibilityPublication now q refs key db).map Prod.snd
  | .completeCompatibilityPublication q => completeCompatibilityPublication now q db
  | .resetUnreleasedDataset datasetDate ref key =>
    (resetUnreleasedDataset now datasetDate ref key db).map Prod.snd
  | .linkNavigationTask q ref key => (linkNavigationTask now q ref key db).map Prod.snd
  | .claimWorkflowHandoffDelivery workerId leaseMs =>
    (claimWorkflowHandoffDelivery now workerId leaseMs db).map Prod.snd
  | .completeWorkflowHandoffDelivery q => completeWorkflowHandoffDelivery now q db

inductive OperatorCall
  | clearObserved (q : ClearRequest) (observed : List Marker)
  | clearRecorded (a : ClearAction) (expected : List Marker)
  | clearLocked (a : ClearAction) (captured : List Marker)
  | clearCommitted (a : ClearAction) (rest : List Marker)
  | confirmObserved (q : ConfirmRequest) (observed : List Marker)
  | confirmLocked (q : ConfirmRequest) (captured : List Marker)

/-- Who holds the writer's flock. -/
inductive Holder
  | call (n : ℕ)
  | writer (token : String)
  deriving DecidableEq

/-- The store, the clock, the writer's flock and the calls of operators in progress. The tokens
that markers were created with are kept, because a token is never drawn twice. -/
structure System where
  store : Store
  clock : Timestamp
  flock : Option Holder
  calls : ℕ → Option OperatorCall
  drawn : List String

namespace System

def initial : System where
  store := ⟨.initial, []⟩
  clock := 0
  flock := none
  calls := fun _ => none
  drawn := []

def setDb (s : System) (db : Database) : System := { s with store := { s.store with db } }

def setMarkers (s : System) (markers : List Marker) : System :=
  { s with store := { s.store with markers } }

def setCall (s : System) (n : ℕ) (c : OperatorCall) : System :=
  { s with calls := Function.update s.calls n (some c) }

/-- The call returns, raises or dies; the operating system frees its flock. -/
def endCall (s : System) (n : ℕ) : System :=
  { s with
    calls := Function.update s.calls n none
    flock := if s.flock = some (.call n) then none else s.flock }

/-- The first transaction of a clear, and the test of what a completed action observed. -/
def recordClear (s : System) (n : ℕ) (q : ClearRequest) (observed : List Marker)
    (newRef : String) : System :=
  match Annotation.recordClear s.clock q observed newRef s.store.db with
  | .error _ => s.endCall n
  | .ok (a, db) =>
    match clearanceExpected a observed with
    | .error _ => (s.setDb db).endCall n
    | .ok expected => (s.setDb db).setCall n (.clearRecorded a expected)

/-- `navigation_writer_quarantine_clearance` up to its body: the flock is free and the markers
are the expected ones, or the call raises. -/
def enterClearance (s : System) (n : ℕ) (expected : List Marker)
    (body : List Marker → OperatorCall) : System :=
  if s.flock = none ∧ markerState s.store.markers = expected then
    { s.setCall n (body expected) with flock := some (.call n) }
  else s.endCall n

def commitClear (s : System) (n : ℕ) (a : ClearAction) (captured : List Marker) : System :=
  match Annotation.commitClear s.clock a captured s.store.db with
  | .error _ => s.endCall n
  | .ok db => (s.setDb db).setCall n (.clearCommitted a captured)

def commitConfirm (s : System) (n : ℕ) (q : ConfirmRequest) (captured : List Marker)
    (runRef : String) : System :=
  match confirmRecoveryIn s.clock q captured runRef s.store.db with
  | .error _ => s.endCall n
  | .ok (_, db) => (s.setDb db).endCall n

/-- `_remove_quarantine_marker` of a captured marker; another file at its path makes it raise. -/
def removeMarker (s : System) (n : ℕ) (a : ClearAction) (m : Marker) (rest : List Marker) :
    System :=
  if ∃ m' ∈ s.store.markers, m'.name = m.name ∧ m' ≠ m then s.endCall n
  else (s.setMarkers (s.store.markers.filter (· ≠ m))).setCall n (.clearCommitted a rest)

/-- A navigation writer enters `navigation_writer_lock`. -/
def writerEnter (s : System) (token : String) : System :=
  if s.flock = none ∧ s.store.markers = [] then
    { s.setMarkers [⟨activeMarkerName, token⟩] with flock := some (.writer token) }
  else s

def writerLeave (s : System) : System :=
  match s.flock with
  | some (.writer token) =>
    { s.setMarkers (s.store.markers.filter (· ≠ ⟨activeMarkerName, token⟩)) with flock := none }
  | _ => s

def writerDie (s : System) : System :=
  match s.flock with
  | some (.writer _) => { s with flock := none }
  | _ => s

/-- Another process leaves a quarantine marker, under a name that is free. -/
def createMarker (s : System) (recoveryRef token : String) : System :=
  s.setMarkers (ensureQuarantine recoveryRef token s.store.markers)

end System

inductive Event
  | tick (ms : ℕ)
  | call (c : StoreCall)
  | claim (c : Claim) (d : RecoveryRefs)
  | recover (epoch : Option String) (coordinated : Bool) (d : RecoveryRefs)
  | changeReleases (releasedDates historicalDates : List String)
  | observeClear (n : ℕ) (q : ClearRequest)
  | record (n : ℕ) (newRef : String)
  | observeConfirm (n : ℕ) (q : ConfirmRequest)
  | enter (n : ℕ)
  | commit (n : ℕ) (runRef : String)
  | remove (n : ℕ)
  | crash (n : ℕ)
  | createMarker (recoveryRef token : String)
  | writerEnter (token : String)
  | writerLeave
  | writerDie

namespace System

def act (s : System) : Event → System
  | .tick ms => { s with clock := s.clock + ms }
  | .call c =>
    match perform s.clock s.store.db c with
    | .ok db => s.setDb db
    | .error _ => s
  | .claim c d => { s with store := (claimNextRun s.clock c d s.store).2 }
  | .recover epoch coordinated d =>
    { s with store := (recoverInterruptedRuns s.clock epoch coordinated d s.store).2 }
  | .changeReleases releasedDates historicalDates =>
    s.setDb { s.store.db with releasedDates, historicalDates }
  | .observeClear n q =>
    match s.calls n, validateClear q with
    | none, .ok _ => s.setCall n (.clearObserved q (markerState s.store.markers))
    | _, _ => s
  | .record n newRef =>
    match s.calls n with
    | some (.clearObserved q observed) => s.recordClear n q observed newRef
    | _ => s
  | .observeConfirm n q =>
    match s.calls n, validateConfirm q with
    | none, .ok _ => s.setCall n (.confirmObserved q (markerState s.store.markers))
    | _, _ => s
  | .enter n =>
    match s.calls n with
    | some (.clearRecorded a expected) => s.enterClearance n expected (.clearLocked a)
    | some (.confirmObserved q observed) => s.enterClearance n observed (.confirmLocked q)
    | _ => s
  | .commit n runRef =>
    match s.calls n with
    | some (.clearLocked a captured) => s.commitClear n a captured
    | some (.confirmLocked q captured) => s.commitConfirm n q captured runRef
    | _ => s
  | .remove n =>
    match s.calls n with
    | some (.clearCommitted a (m :: rest)) => s.removeMarker n a m rest
    | some (.clearCommitted _ []) => s.endCall n
    | _ => s
  | .crash n => s.endCall n
  | .createMarker recoveryRef token => s.createMarker recoveryRef token
  | .writerEnter token => s.writerEnter token
  | .writerLeave => s.writerLeave
  | .writerDie => s.writerDie

/-- The tokens of the markers are drawn. -/
def draw (s : System) : System :=
  { s with drawn := s.drawn ++ s.store.markers.map Marker.token }

def exec (s : System) (e : Event) : System := (s.act e).draw

/-- One event; a marker that appears has a token of its own. -/
def Step (s : System) (e : Event) (t : System) : Prop :=
  t = s.exec e ∧ ∀ m ∈ t.store.markers, m ∉ s.store.markers → m.token ∉ s.drawn

def after (s : System) (events : List Event) : System := events.foldl exec s

abbrev workflow (s : System) : Workflow := s.store.db.toWorkflow

end System

abbrev SystemRun (l : List (Transition System Event)) (s : System) : Prop :=
  Run System.Step .initial l s

end DataJuicer.Annotation

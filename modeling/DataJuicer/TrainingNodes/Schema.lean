import DataJuicer.Training.Operations

/-! # Nodes, enrollment tokens and registered models

The tables of the training centre that the operations on nodes and on models write. The tables
of its runs are those of the run model, which reads the registry kept here.
-/

namespace DataJuicer.TrainingNodes

open Training (Timestamp RunStatus TrainingNodeStatus)

inductive DeploymentStatus
  | notStarted
  | deploying
  | succeeded
  | failed
  deriving DecidableEq

/-- What a Worker says that it can do, as far as the centre looks at it. -/
structure Capabilities where
  trainingExecutionV1 : Bool
  workerFeatures : List String

/-- A row of `training_nodes`. -/
structure NodeRow where
  nodeRef : String
  name : String
  description : String
  address : String
  sshPort : ℕ
  sshUsername : String
  status : TrainingNodeStatus
  stateRevision : ℕ
  heartbeatRevision : ℕ
  enrolledAt : Option Timestamp
  lastHeartbeatAt : Option Timestamp
  workerInstanceId : Option String
  workerVersion : Option String
  protocolVersion : Option ℕ
  workerTokenSha256 : Option String
  healthMessage : Option String
  capabilities : Option Capabilities
  hostKeyAlgorithm : Option String
  hostPublicKey : Option String
  hostKeyFingerprint : Option String
  deploymentStatus : DeploymentStatus
  deploymentMessage : Option String
  deploymentStartedAt : Option Timestamp
  deploymentFinishedAt : Option Timestamp
  installedWorkerVersion : Option String
  createdAt : Timestamp
  updatedAt : Timestamp

/-- A row of `training_node_enrollment_tokens`. -/
structure EnrollmentTokenRow where
  tokenRef : String
  nodeRef : String
  tokenSha256 : String
  expiresAt : Timestamp
  consumedAt : Option Timestamp
  createdBy : String
  createdAt : Timestamp

/-- A row of `training_node_resource_snapshots`. -/
structure ResourceSnapshotRow where
  nodeRef : String
  capturedAt : Timestamp
  resources : String

inductive ModelStatus
  | draft
  | verified
  | disabled
  deriving DecidableEq

/-- A row of `model_families`. -/
structure FamilyRow where
  familyRef : String
  name : String
  currentModelRef : Option String
  createdAt : Timestamp
  updatedAt : Timestamp

/-- A row of `registered_models`. -/
structure ModelRow where
  modelRef : String
  familyRef : String
  name : String
  description : String
  versionDescription : Option String
  status : ModelStatus
  currentRevision : ℕ
  createdAt : Timestamp
  updatedAt : Timestamp

structure LaunchTemplate where
  domain : String
  serverRef : String
  workingDirectory : String
  executable : String
  entrypoint : String
  outputRoot : String
  fixedArgv : List String
  /-- A value of JSON, like the other texts that no check looks into. -/
  runtimeEnvironment : Option String

/-- The output directory of a run below the root, its slashes at the end dropped. -/
def LaunchTemplate.outputTemplate (t : LaunchTemplate) : String :=
  String.ofList (t.outputRoot.toList.reverse.dropWhile (· = '/')).reverse ++ "/\x7brun_ref\x7d"

/-- A row of `model_revisions`. -/
structure RevisionRow where
  revisionRef : String
  modelRef : String
  revisionNumber : ℕ
  outputTemplate : String
  launchTemplate : LaunchTemplate
  parameterDefinitions : String
  dataAccessMode : String
  createdAt : Timestamp

inductive VerificationStatus
  | queued
  | running
  | succeeded
  | failed
  deriving DecidableEq

/-- `status IN ('queued','running')` -/
def VerificationStatus.Open (s : VerificationStatus) : Prop := s = .queued ∨ s = .running

instance : DecidablePred VerificationStatus.Open := fun _ => inferInstanceAs (Decidable (_ ∨ _))

/-- The request that a Worker gets to verify. -/
structure VerificationPayload where
  familyRef : String
  workingDirectory : String
  executable : String
  entrypoint : String
  outputRoot : String
  runtimeEnvironment : String

/-- A row of `model_verification_requests`. -/
structure VerificationRow where
  verificationRef : String
  modelRef : String
  revisionRef : String
  /-- The node; the deletion of the node clears it. -/
  nodeRef : Option String
  nodeRefSnapshot : String
  status : VerificationStatus
  request : VerificationPayload
  /-- The checks of the result. -/
  result : Option String
  workerInstanceId : Option String
  leaseExpiresAt : Option Timestamp
  createdAt : Timestamp
  startedAt : Option Timestamp
  finishedAt : Option Timestamp
  updatedAt : Timestamp

instance : Keyed NodeRow String := ⟨NodeRow.nodeRef⟩
instance : Keyed EnrollmentTokenRow String := ⟨EnrollmentTokenRow.tokenSha256⟩
instance : Keyed FamilyRow String := ⟨FamilyRow.familyRef⟩
instance : Keyed ModelRow String := ⟨ModelRow.modelRef⟩
instance : Keyed RevisionRow String := ⟨RevisionRow.revisionRef⟩
instance : Keyed VerificationRow String := ⟨VerificationRow.verificationRef⟩

/-- The training database: the registry and the tables of the runs. -/
structure Centre where
  nodes : Table NodeRow
  enrollmentTokens : Table EnrollmentTokenRow
  resourceSnapshots : List ResourceSnapshotRow
  families : Table FamilyRow
  models : Table ModelRow
  revisions : Table RevisionRow
  verifications : Table VerificationRow
  /-- The other tables; what they hold of the registry is out of date. -/
  runTables : Training.Database

/-- The current state that a conflict reports. -/
inductive Current
  | node (view : NodeRow)
  | run (runRef : String) (status : RunStatus)
  | editRevision (revision : ℕ)
  | verification (verificationRef : String)

/-- `TrainingError` with its subclasses, and the errors of SQLite and of the run operations. -/
inductive StoreError
  | notFound (code message : String)
  | conflict (code message : String) (current : Option Current := none)
  | forbidden (code message : String)
  | integrityError
  | typeError
  | run (e : Training.TrainingError)

/-- The columns of a node that `create_run` reads. -/
def NodeRow.forRuns (n : NodeRow) : Training.NodeRow where
  nodeRef := n.nodeRef
  status := n.status
  lastHeartbeatAt := n.lastHeartbeatAt
  trainingExecutionV1 := n.capabilities.elim false Capabilities.trainingExecutionV1
  workerFeatures := n.capabilities.elim [] Capabilities.workerFeatures
  workerTokenSha256 := n.workerTokenSha256
  workerInstanceId := n.workerInstanceId

def RevisionRow.forRuns (r : RevisionRow) : Training.RevisionRow :=
  ⟨r.revisionRef, r.modelRef, r.revisionNumber⟩

def ModelRow.forRuns (families : Table FamilyRow) (m : ModelRow) : Training.ModelRow where
  modelRef := m.modelRef
  currentRevision := m.currentRevision
  verified := m.status = .verified
  familyRef := m.familyRef
  familyName := ((families.find? m.familyRef).map FamilyRow.name).getD ""

def Centre.registry (c : Centre) : Training.Registry where
  models := c.models.map (ModelRow.forRuns c.families) fun _ => rfl
  revisions := c.revisions.map RevisionRow.forRuns fun _ => rfl
  nodes := c.nodes.map NodeRow.forRuns fun _ => rfl
  replicas := c.runTables.registry.replicas

/-- A centre without nodes, models and runs. -/
def Centre.initial (registry : Training.Registry) : Centre where
  nodes := .empty
  enrollmentTokens := .empty
  resourceSnapshots := []
  families := .empty
  models := .empty
  revisions := .empty
  verifications := .empty
  runTables := .initial registry

end DataJuicer.TrainingNodes

import DataJuicer.TrainingNodes.Schema

/-! # Nodes and their Workers

Registration, enrollment, deployment and removal. A node is edited under its expected revision;
its Worker authenticates with a credential that the node keeps as a digest.
-/

namespace DataJuicer.TrainingNodes

open Training (Timestamp RunStatus TrainingNodeStatus tokenDigest effectiveNodeStatus)
open Transaction

/-- `_safe_node`: the row with its effective status and without its credential. -/
def safeNode (now : Timestamp) (n : NodeRow) : NodeRow :=
  { n with status := effectiveNodeStatus now n.forRuns, workerTokenSha256 := none }

def nodeNotFound : StoreError := .notFound "training_node_not_found" "Training node was not found."

def getNode (now : Timestamp) (nodeRef : String) (c : Centre) : Except StoreError NodeRow := do
  let n ← orRaise nodeNotFound (c.nodes.find? nodeRef)
  return safeNode now n

def nodeConflict (now : Timestamp) (code message : String) (n : NodeRow) : StoreError :=
  .conflict code message (some (.node (safeNode now n)))

/-- The node, when the request has seen its last edit. -/
def expectedNode (now : Timestamp) (nodeRef : String) (expectedRevision : ℕ) (c : Centre) :
    Except StoreError NodeRow := do
  let n ← orRaise nodeNotFound (c.nodes.find? nodeRef)
  raiseIf (n.stateRevision ≠ expectedRevision)
    (nodeConflict now "training_node_revision_conflict" "The training node changed." n)
  return n

/-- The statement that uses up the open enrollment tokens of a node. -/
def consumeTokens (now : Timestamp) (nodeRef : String) (c : Centre) : Centre :=
  { c with
    enrollmentTokens := c.enrollmentTokens.update
      (fun t => t.nodeRef = nodeRef ∧ t.consumedAt = none)
      fun t => { t with consumedAt := some now } }

/-- An `UPDATE` of one node. -/
def setNode (nodeRef : String) (f : NodeRow → NodeRow) (c : Centre)
    (hf : ∀ n, (f n).nodeRef = n.nodeRef := by exact fun _ => rfl) : Centre :=
  { c with nodes := c.nodes.update (fun n => n.nodeRef = nodeRef) f hf }

/-- The database after a call, with the node it returns. -/
def withNode (now : Timestamp) (nodeRef : String) (c : Centre) :
    Except StoreError (NodeRow × Centre) := do
  let view ← getNode now nodeRef c
  return (view, c)

structure NodeData where
  name : String
  description : Option String
  address : String
  sshPort : Option ℕ
  sshUsername : Option String

def newNode (now : Timestamp) (nodeRef : String) (d : NodeData) : NodeRow where
  nodeRef := nodeRef
  name := d.name
  description := d.description.getD ""
  address := d.address
  sshPort := d.sshPort.getD 22
  sshUsername := d.sshUsername.getD ""
  status := .pendingEnrollment
  stateRevision := 1
  heartbeatRevision := 0
  enrolledAt := none
  lastHeartbeatAt := none
  workerInstanceId := none
  workerVersion := none
  protocolVersion := none
  workerTokenSha256 := none
  healthMessage := none
  capabilities := none
  hostKeyAlgorithm := none
  hostPublicKey := none
  hostKeyFingerprint := none
  deploymentStatus := .notStarted
  deploymentMessage := none
  deploymentStartedAt := none
  deploymentFinishedAt := none
  installedWorkerVersion := none
  createdAt := now
  updatedAt := now

def createNode (now : Timestamp) (nodeRef : String) (d : NodeData) (c : Centre) :
    Except StoreError (NodeRow × Centre) := do
  let nodes ← orRaise .integrityError (c.nodes.insert? (newNode now nodeRef d))
  withNode now nodeRef { c with nodes }

/-- The status that an edit asks for. -/
inductive DesiredState
  | offline
  | repairRequired
  | disabled

def DesiredState.toStatus : DesiredState → TrainingNodeStatus
  | .offline => .offline
  | .repairRequired => .repairRequired
  | .disabled => .disabled

structure NodeEdit where
  name : Option String
  description : Option String
  address : Option String
  sshPort : Option ℕ
  sshUsername : Option String
  desiredState : Option DesiredState

def NodeEdit.apply (now : Timestamp) (e : NodeEdit) (n : NodeRow) : NodeRow :=
  let status := e.desiredState.elim n.status DesiredState.toStatus
  { n with
    name := e.name.getD n.name
    description := e.description.getD n.description
    address := e.address.getD n.address
    sshPort := e.sshPort.getD n.sshPort
    sshUsername := e.sshUsername.getD n.sshUsername
    status := status
    workerTokenSha256 := if status = .disabled then none else n.workerTokenSha256
    stateRevision := n.stateRevision + 1
    updatedAt := now }

def updateNode (now : Timestamp) (nodeRef : String) (expectedRevision : ℕ) (e : NodeEdit)
    (c : Centre) : Except StoreError (NodeRow × Centre) := do
  let n ← expectedNode now nodeRef expectedRevision c
  let c := if (e.apply now n).status = .disabled then consumeTokens now nodeRef c else c
  withNode now nodeRef (setNode nodeRef (e.apply now) c)

def nodeDeletedChecks : String :=
  "\x7b\"checks\":[\x7b\"code\":\"training_node_deleted\"," ++
    "\"detail\":\"训练节点已删除，配置验证未完成。\"," ++
    "\"label\":\"训练节点\",\"status\":\"failed\"\x7d]\x7d"

/-- The open verifications of a deleted node fail; then no verification refers to it. -/
def VerificationRow.abandon (now : Timestamp) (v : VerificationRow) : VerificationRow :=
  if v.status.Open then
    { v with
      status := .failed
      result := some nodeDeletedChecks
      workerInstanceId := none
      leaseExpiresAt := none
      finishedAt := some now
      updatedAt := now
      nodeRef := none }
  else { v with nodeRef := none }

/-- The rows of a node, with those that the foreign keys delete or clear. -/
def removeNode (now : Timestamp) (nodeRef : String) (c : Centre) : Centre :=
  { c with
    nodes := c.nodes.delete fun n => n.nodeRef = nodeRef
    enrollmentTokens := c.enrollmentTokens.delete fun t => t.nodeRef = nodeRef
    resourceSnapshots := c.resourceSnapshots.filter fun s => s.nodeRef ≠ nodeRef
    verifications := c.verifications.update (fun v => v.nodeRef = some nodeRef)
      (VerificationRow.abandon now) fun v => by
        unfold VerificationRow.abandon
        split <;> rfl }

def deleteNode (now : Timestamp) (nodeRef : String) (expectedRevision : ℕ) (c : Centre) :
    Except StoreError Centre := do
  let n ← expectedNode now nodeRef expectedRevision c
  raiseIf (n.enrolledAt ≠ none ∨ ∃ s ∈ c.resourceSnapshots, s.nodeRef = nodeRef)
    (nodeConflict now "training_node_has_history"
      "An enrolled node cannot be deleted; disable it instead." n)
  return removeNode now nodeRef c

/-- The arguments of `create_enrollment_token`, with what it draws. -/
structure TokenRequest where
  nodeRef : String
  expectedRevision : ℕ
  expiresInSeconds : ℕ
  actor : String
  token : String
  tokenRef : String

structure IssuedToken where
  enrollmentToken : String
  expiresAt : Timestamp
  node : NodeRow

def newToken (now : Timestamp) (q : TokenRequest) : EnrollmentTokenRow where
  tokenRef := q.tokenRef
  nodeRef := q.nodeRef
  tokenSha256 := tokenDigest q.token
  expiresAt := now + 1000 * q.expiresInSeconds
  consumedAt := none
  createdBy := q.actor
  createdAt := now

def createEnrollmentToken (now : Timestamp) (q : TokenRequest) (c : Centre) :
    Except StoreError (IssuedToken × Centre) := do
  let n ← expectedNode now q.nodeRef q.expectedRevision c
  raiseIf (n.status = .disabled) (nodeConflict now "training_node_disabled"
    "A disabled training node cannot be enrolled." n)
  let c := consumeTokens now q.nodeRef c
  let enrollmentTokens ← orRaise .integrityError (c.enrollmentTokens.insert? (newToken now q))
  let c := setNode q.nodeRef (fun n => { n with
    stateRevision := n.stateRevision + 1, updatedAt := now }) { c with enrollmentTokens }
  let node ← getNode now q.nodeRef c
  return (⟨q.token, now + 1000 * q.expiresInSeconds, node⟩, c)

def invalidateNodeEnrollmentTokens (now : Timestamp) (nodeRef : String) (c : Centre) : Centre :=
  if c.nodes.find? nodeRef = none then c else consumeTokens now nodeRef c

/-- The data of `enroll_node`, with the credential that it draws. -/
structure Enrollment where
  enrollmentToken : String
  workerInstanceId : String
  workerVersion : String
  protocolVersion : ℕ
  capabilities : Capabilities
  workerToken : String

structure EnrolledNode where
  node : NodeRow
  workerToken : String

def Enrollment.apply (now : Timestamp) (q : Enrollment) (n : NodeRow) : NodeRow :=
  { n with
    status := .online
    heartbeatRevision := n.heartbeatRevision + 1
    enrolledAt := n.enrolledAt.or (some now)
    lastHeartbeatAt := some now
    workerInstanceId := some q.workerInstanceId
    workerVersion := some q.workerVersion
    protocolVersion := some q.protocolVersion
    workerTokenSha256 := some (tokenDigest q.workerToken)
    healthMessage := none
    capabilities := some q.capabilities
    updatedAt := now }

def invalidEnrollmentToken : StoreError := .forbidden "invalid_enrollment_token"
  "The enrollment token is invalid, expired, or already used."

def usableToken (now : Timestamp) (token : String) (c : Centre) :
    Except StoreError (EnrollmentTokenRow × NodeRow) := do
  let t ← orRaise invalidEnrollmentToken (c.enrollmentTokens.find? (tokenDigest token))
  let n ← orRaise invalidEnrollmentToken (c.nodes.find? t.nodeRef)
  raiseIf (t.consumedAt ≠ none ∨ t.expiresAt ≤ now) invalidEnrollmentToken
  raiseIf (n.status = .disabled)
    (.forbidden "training_node_disabled" "The training node is disabled.")
  return (t, n)

def enrollNode (now : Timestamp) (q : Enrollment) (c : Centre) :
    Except StoreError (EnrolledNode × Centre) := do
  let (t, n) ← usableToken now q.enrollmentToken c
  let c := { c with
    enrollmentTokens := c.enrollmentTokens.update
      (fun r => r.tokenSha256 = t.tokenSha256 ∧ r.consumedAt = none)
      fun r => { r with consumedAt := some now } }
  let c := setNode n.nodeRef (q.apply now) c
  let view ← getNode now n.nodeRef c
  return (⟨view, q.workerToken⟩, c)

structure HostKey where
  algorithm : String
  publicKey : String
  fingerprint : String

def beginNodeDeployment (now : Timestamp) (nodeRef : String) (expectedRevision : ℕ) (k : HostKey)
    (c : Centre) : Except StoreError (NodeRow × Centre) := do
  let n ← expectedNode now nodeRef expectedRevision c
  raiseIf (n.status = .disabled) (nodeConflict now "training_node_disabled"
    "A disabled training node cannot deploy a Worker." n)
  raiseIf (n.deploymentStatus = .deploying) (nodeConflict now
    "training_node_deployment_in_progress" "A Worker deployment is already in progress." n)
  withNode now nodeRef (setNode nodeRef (fun n =>
    { n with
      hostKeyAlgorithm := some k.algorithm
      hostPublicKey := some k.publicKey
      hostKeyFingerprint := some k.fingerprint
      deploymentStatus := .deploying
      deploymentMessage := none
      deploymentStartedAt := some now
      deploymentFinishedAt := none
      stateRevision := n.stateRevision + 1
      updatedAt := now }) c)

structure DeploymentResult where
  succeeded : Bool
  message : String
  workerVersion : Option String
  sshUsername : Option String

def safeMessage (message : String) : String := String.ofList (message.toList.take 1000)

def finishNodeDeployment (now : Timestamp) (nodeRef : String) (q : DeploymentResult)
    (c : Centre) : Except StoreError (NodeRow × Centre) := do
  let _ ← orRaise nodeNotFound (c.nodes.find? nodeRef)
  withNode now nodeRef (setNode nodeRef (fun n =>
    { n with
      deploymentStatus := if q.succeeded then .succeeded else .failed
      deploymentMessage := some (safeMessage q.message)
      deploymentFinishedAt := some now
      installedWorkerVersion := q.workerVersion.or n.installedWorkerVersion
      sshUsername := if q.succeeded then q.sshUsername.getD n.sshUsername else n.sshUsername
      stateRevision := n.stateRevision + 1
      updatedAt := now }) c)

/-- The row of a node whose Worker is being removed. -/
def NodeRow.beginRemoval (now : Timestamp) (n : NodeRow) : NodeRow :=
  { n with
    status := .disabled
    workerTokenSha256 := none
    deploymentStatus := .deploying
    deploymentMessage := some "Training Worker removal is in progress."
    deploymentStartedAt := some now
    deploymentFinishedAt := none
    stateRevision := n.stateRevision + 1
    updatedAt := now }

def beginNodeWorkerRemoval (now : Timestamp) (nodeRef : String) (expectedRevision : ℕ)
    (c : Centre) : Except StoreError (NodeRow × Centre) := do
  let n ← expectedNode now nodeRef expectedRevision c
  raiseIf (n.deploymentStatus = .deploying) (nodeConflict now
    "training_node_deployment_in_progress" "A Worker operation is already in progress." n)
  raiseIf (n.installedWorkerVersion = none ∧ n.workerInstanceId = none ∧ n.enrolledAt = none)
    (nodeConflict now "training_node_worker_not_installed"
      "This training node has no installed Worker." n)
  withNode now nodeRef
    (setNode nodeRef (NodeRow.beginRemoval now) (consumeTokens now nodeRef c))

def NodeRow.withoutWorker (now : Timestamp) (message : String) (n : NodeRow) : NodeRow :=
  { n with
    status := .pendingEnrollment
    deploymentStatus := .notStarted
    deploymentMessage := some (safeMessage message)
    deploymentFinishedAt := some now
    installedWorkerVersion := none
    enrolledAt := none
    lastHeartbeatAt := none
    workerInstanceId := none
    workerVersion := none
    protocolVersion := none
    workerTokenSha256 := none
    healthMessage := none
    capabilities := none
    stateRevision := n.stateRevision + 1
    updatedAt := now }

/-- The row of a node whose Worker could not be removed. -/
def NodeRow.failRemoval (now : Timestamp) (message : String) (n : NodeRow) : NodeRow :=
  { n with
    status := .repairRequired
    deploymentStatus := .failed
    deploymentMessage := some (safeMessage message)
    deploymentFinishedAt := some now
    workerTokenSha256 := none
    stateRevision := n.stateRevision + 1
    updatedAt := now }

def finishNodeWorkerRemoval (now : Timestamp) (nodeRef : String) (succeeded : Bool)
    (message : String) (c : Centre) : Except StoreError (NodeRow × Centre) := do
  let _ ← orRaise nodeNotFound (c.nodes.find? nodeRef)
  if succeeded then
    withNode now nodeRef (setNode nodeRef (NodeRow.withoutWorker now message)
      { c with resourceSnapshots := c.resourceSnapshots.filter fun s => s.nodeRef ≠ nodeRef })
  else withNode now nodeRef (setNode nodeRef (NodeRow.failRemoval now message) c)

inductive Health
  | healthy
  | degraded
  | repairRequired

def Health.toStatus : Health → TrainingNodeStatus
  | .healthy => .online
  | .degraded => .degraded
  | .repairRequired => .repairRequired

/-- The credential of a heartbeat with its data. -/
structure Heartbeat where
  nodeRef : String
  workerToken : String
  workerInstanceId : String
  health : Health
  workerVersion : String
  protocolVersion : ℕ
  healthMessage : Option String
  capabilities : Option Capabilities
  resources : String

def workerAuthenticationFailed : StoreError :=
  .forbidden "worker_authentication_failed" "The Training Worker credential is invalid."

def authenticatedNode (nodeRef workerToken workerInstanceId : String) (c : Centre) :
    Except StoreError NodeRow := do
  let n ← orRaise workerAuthenticationFailed (c.nodes.find? nodeRef)
  raiseIf (n.workerTokenSha256 ≠ some (tokenDigest workerToken) ∨
    n.workerInstanceId ≠ some workerInstanceId) workerAuthenticationFailed
  return n

def Heartbeat.apply (now : Timestamp) (q : Heartbeat) (n : NodeRow) : NodeRow :=
  { n with
    status := q.health.toStatus
    lastHeartbeatAt := some now
    workerVersion := some q.workerVersion
    protocolVersion := some q.protocolVersion
    healthMessage := q.healthMessage
    capabilities := q.capabilities.or n.capabilities
    heartbeatRevision := n.heartbeatRevision + 1 }

/-- The `DELETE` of all but the last thousand snapshots of a node. -/
def recentSnapshots (nodeRef : String) (snapshots : List ResourceSnapshotRow) :
    List ResourceSnapshotRow :=
  let mine := snapshots.filter fun s => s.nodeRef = nodeRef
  snapshots.filter (fun s => s.nodeRef ≠ nodeRef) ++ mine.drop (mine.length - 1000)

def recordNodeHeartbeat (now : Timestamp) (q : Heartbeat) (c : Centre) :
    Except StoreError (NodeRow × Centre) := do
  let n ← authenticatedNode q.nodeRef q.workerToken q.workerInstanceId c
  raiseIf (n.status = .disabled)
    (.forbidden "training_node_disabled" "The training node is disabled.")
  let snapshot : ResourceSnapshotRow := ⟨q.nodeRef, now, q.resources⟩
  withNode now q.nodeRef (setNode q.nodeRef (q.apply now) { c with
    resourceSnapshots := recentSnapshots q.nodeRef (c.resourceSnapshots ++ [snapshot]) })

def ActiveRealRun (nodeRef : String) (r : Training.RunRow) : Prop :=
  r.serverRef = nodeRef ∧ r.executionMode = .real ∧ ¬ r.status.Terminal

instance (nodeRef : String) : DecidablePred (ActiveRealRun nodeRef) := fun _ =>
  inferInstanceAs (Decidable (_ ∧ _ ∧ ¬ _))

def assertNodeHasNoActiveRealRuns (nodeRef : String) (c : Centre) : Except StoreError PUnit :=
  match (c.runTables.runs.select (ActiveRealRun nodeRef)).head? with
  | none => .ok ⟨⟩
  | some r => .error (.conflict "training_node_has_active_real_run"
      "Stop and confirm the active real training run before changing this Worker."
      (some (.run r.runRef r.status)))

end DataJuicer.TrainingNodes

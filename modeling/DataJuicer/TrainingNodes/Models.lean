import DataJuicer.TrainingNodes.Nodes

/-! # Registered models and their verification

A model has numbered revisions; a Worker of the node that a revision names checks it on request.
The request is leased, and its result sets the status of the model.
-/

namespace DataJuicer.TrainingNodes

open Training (Timestamp TrainingNodeStatus effectiveNodeStatus)
open Transaction

structure ModelData where
  familyName : String
  description : Option String
  launchTemplate : LaunchTemplate
  parameterDefinitions : String
  dataAccessMode : Option String

/-- The references that `create_model` draws. -/
structure ModelRefs where
  familyRef : String
  modelRef : String
  revisionRef : String

def modelNotFound : StoreError := .notFound "model_not_found" "Training model was not found."

def currentModel? (familyRef : String) (c : Centre) : Option ModelRow :=
  (c.families.find? familyRef).bind fun f => f.currentModelRef.bind c.models.find?

def revision? (modelRef : String) (number : ℕ) (c : Centre) : Option RevisionRow :=
  c.revisions.rows.find? fun r => r.modelRef = modelRef ∧ r.revisionNumber = number

def newRevision (now : Timestamp) (revisionRef modelRef : String) (number : ℕ) (d : ModelData) :
    RevisionRow where
  revisionRef := revisionRef
  modelRef := modelRef
  revisionNumber := number
  outputTemplate := d.launchTemplate.outputTemplate
  launchTemplate := d.launchTemplate
  parameterDefinitions := d.parameterDefinitions
  dataAccessMode := d.dataAccessMode.getD "self_managed"
  createdAt := now

/-- `_insert_revision`; the number of a revision is taken once for each model. -/
def insertRevision (r : RevisionRow) (c : Centre) : Except StoreError Centre := do
  raiseIf (revision? r.modelRef r.revisionNumber c ≠ none) .integrityError
  let revisions ← orRaise .integrityError (c.revisions.insert? r)
  return { c with revisions }

/-- The verification that the projection of a model shows: the last one of its current revision. -/
def latestVerification? (m : ModelRow) (c : Centre) : Option VerificationRow :=
  (c.verifications.select fun v => v.modelRef = m.modelRef ∧
    ∃ r ∈ c.revisions, r.revisionRef = v.revisionRef ∧
      r.revisionNumber = m.currentRevision).getLast?

structure VerificationView where
  verificationRef : String
  status : VerificationStatus
  requestedAt : Timestamp
  finishedAt : Option Timestamp
  result : Option String

/-- `_safe_model`, with what `get_model` adds from the revision. -/
structure ModelView where
  familyRef : String
  familyName : String
  status : ModelStatus
  editRevision : ℕ
  trainedVersionCount : ℕ
  availableVersionCount : ℕ
  configurationEditable : Bool
  createdAt : Timestamp
  updatedAt : Timestamp
  verification : Option VerificationView
  parameterDefinitions : String
  dataAccessMode : String
  launchTemplate : LaunchTemplate
  outputTemplate : String

/-- `_MODEL_SELECT` counts the versions of a family whose model can be used. -/
def availableVersions (familyRef : String) (db : Training.Database) : List Training.VersionRow :=
  db.versions.select fun v => v.familyRef = familyRef ∧
    (∃ r ∈ db.runs, r.runRef = v.runRef ∧ r.executionMode = .real ∧ r.status = .succeeded) ∧
    ∃ a ∈ db.artifacts, a.runRef = v.runRef ∧ a.kind = .versionModel ∧
      a.simulated = false

def VerificationRow.view (v : VerificationRow) : VerificationView :=
  ⟨v.verificationRef, v.status, v.createdAt, v.finishedAt, v.result⟩

def modelView (f : FamilyRow) (m : ModelRow) (r : RevisionRow) (c : Centre) : ModelView where
  familyRef := f.familyRef
  familyName := f.name
  status := m.status
  editRevision := m.currentRevision
  trainedVersionCount := (c.runTables.versions.select fun v => v.familyRef = f.familyRef).length
  availableVersionCount := (availableVersions f.familyRef c.runTables).length
  configurationEditable := m.status ≠ .disabled
  createdAt := m.createdAt
  updatedAt := m.updatedAt
  verification := (latestVerification? m c).map VerificationRow.view
  parameterDefinitions := r.parameterDefinitions
  dataAccessMode := r.dataAccessMode
  launchTemplate := r.launchTemplate
  outputTemplate := r.outputTemplate

/-- `get_model` of the current revision, with its private fields. -/
def getModel (familyRef : String) (c : Centre) : Except StoreError ModelView := do
  let f ← orRaise modelNotFound (c.families.find? familyRef)
  let m ← orRaise modelNotFound (f.currentModelRef.bind c.models.find?)
  let r ← orRaise .typeError (revision? m.modelRef m.currentRevision c)
  return modelView f m r c

/-- The database after a call, with the model it returns. -/
def withModel (familyRef : String) (c : Centre) : Except StoreError (ModelView × Centre) := do
  let view ← getModel familyRef c
  return (view, c)

def newModel (now : Timestamp) (refs : ModelRefs) (d : ModelData) : ModelRow where
  modelRef := refs.modelRef
  familyRef := refs.familyRef
  name := d.familyName
  description := d.description.getD ""
  versionDescription := none
  status := .draft
  currentRevision := 1
  createdAt := now
  updatedAt := now

def createModel (now : Timestamp) (refs : ModelRefs) (d : ModelData) (c : Centre) :
    Except StoreError (ModelView × Centre) := do
  let families ← orRaise .integrityError
    (c.families.insert? ⟨refs.familyRef, d.familyName, some refs.modelRef, now, now⟩)
  let models ← orRaise .integrityError (c.models.insert? (newModel now refs d))
  let c ← insertRevision (newRevision now refs.revisionRef refs.modelRef 1 d)
    { c with families, models }
  withModel refs.familyRef c

def editConflict (m : ModelRow) : StoreError :=
  .conflict "model_configuration_edit_conflict"
    "The model configuration was edited by another request."
    (some (.editRevision m.currentRevision))

/-- `data.get("description") or row["description"] or ""` -/
def orDescription (description : Option String) (old : String) : String :=
  match description with
  | some "" | none => old
  | some text => text

def ModelRow.edited (now : Timestamp) (number : ℕ) (d : ModelData) (m : ModelRow) : ModelRow :=
  { m with
    description := orDescription d.description m.description
    versionDescription := none
    status := .draft
    currentRevision := number
    updatedAt := now }

def updateModel (now : Timestamp) (familyRef : String) (expectedRevision : ℕ)
    (revisionRef : String) (d : ModelData) (c : Centre) :
    Except StoreError (ModelView × Centre) := do
  let m ← orRaise modelNotFound (currentModel? familyRef c)
  raiseIf (m.status = .disabled)
    (.conflict "model_not_editable" "Disabled models cannot be edited.")
  raiseIf (m.currentRevision ≠ expectedRevision) (editConflict m)
  let models := c.models.update (fun r => r.modelRef = m.modelRef)
    (ModelRow.edited now (expectedRevision + 1) d)
  let c ← insertRevision (newRevision now revisionRef m.modelRef (expectedRevision + 1) d)
    { c with models }
  withModel familyRef { c with
    families := c.families.update (fun f => f.familyRef = familyRef)
      fun f => { f with updatedAt := now } }

/-- `template.get("runtime_environment", …)` -/
def systemEnvironment : String := "\x7b\"kind\":\"system\"\x7d"

/-- The request that a Worker gets for a configuration. -/
def LaunchTemplate.payload (familyRef : String) (t : LaunchTemplate) : VerificationPayload where
  familyRef := familyRef
  workingDirectory := t.workingDirectory
  executable := t.executable
  entrypoint := t.entrypoint
  outputRoot := t.outputRoot
  runtimeEnvironment := t.runtimeEnvironment.getD systemEnvironment

def newVerification (now : Timestamp) (verificationRef familyRef : String) (r : RevisionRow)
    (n : NodeRow) : VerificationRow where
  verificationRef := verificationRef
  modelRef := r.modelRef
  revisionRef := r.revisionRef
  nodeRef := some n.nodeRef
  nodeRefSnapshot := n.nodeRef
  status := .queued
  request := r.launchTemplate.payload familyRef
  result := none
  workerInstanceId := none
  leaseExpiresAt := none
  createdAt := now
  startedAt := none
  finishedAt := none
  updatedAt := now

def openVerification? (modelRef : String) (c : Centre) : Option VerificationRow :=
  (c.verifications.select fun v => v.modelRef = modelRef ∧ v.status.Open).getLast?

def verificationInProgress (v : VerificationRow) : StoreError :=
  .conflict "model_verification_in_progress"
    "A verification request is already in progress for this model family configuration."
    (some (.verification v.verificationRef))

/-- The current model of the family, when the request has seen its last edit. -/
def verifiableModel (familyRef : String) (expectedRevision : ℕ) (c : Centre) :
    Except StoreError ModelRow := do
  let m ← orRaise modelNotFound (currentModel? familyRef c)
  raiseIf (m.currentRevision ≠ expectedRevision) (editConflict m)
  raiseIf (m.status = .disabled)
    (.conflict "model_family_disabled" "Disabled model families cannot be verified.")
  match openVerification? m.modelRef c with
  | some v => .error (verificationInProgress v)
  | none => .ok m

/-- The node that a configuration names, when it is online. -/
def verifyingNode (now : Timestamp) (r : RevisionRow) (c : Centre) : Except StoreError NodeRow := do
  let n ← orRaise (.conflict "model_verification_requires_training_node"
    "Model verification requires a registered Training Worker node.")
    (c.nodes.find? r.launchTemplate.serverRef)
  raiseIf (effectiveNodeStatus now n.forRuns ≠ .online)
    (.conflict "model_verification_node_unavailable"
      "The selected Training Worker node must be online before verification.")
  return n

def requestModelVerification (now : Timestamp) (familyRef : String) (expectedRevision : ℕ)
    (verificationRef : String) (c : Centre) : Except StoreError (ModelView × Centre) := do
  let m ← verifiableModel familyRef expectedRevision c
  let r ← orRaise .typeError (revision? m.modelRef expectedRevision c)
  let n ← verifyingNode now r c
  let verifications ← orRaise .integrityError
    (c.verifications.insert? (newVerification now verificationRef familyRef r n))
  withModel familyRef { c with verifications }

def verificationLeaseMs : ℕ := 90000

/-- A claimed request whose lease is over is queued again. -/
def VerificationRow.requeue (now : Timestamp) (v : VerificationRow) : VerificationRow :=
  { v with
    status := .queued
    workerInstanceId := none
    leaseExpiresAt := none
    startedAt := none
    updatedAt := now }

def VerificationRow.Expired (now : Timestamp) (nodeRef : String) (v : VerificationRow) : Prop :=
  v.nodeRef = some nodeRef ∧ v.status = .running ∧ ∃ t ∈ v.leaseExpiresAt, t < now

instance (now : Timestamp) (nodeRef : String) :
    DecidablePred (VerificationRow.Expired now nodeRef) := fun _ =>
  inferInstanceAs (Decidable (_ ∧ _ ∧ _))

def requeueVerifications (now : Timestamp) (nodeRef : String) (c : Centre) : Centre :=
  { c with
    verifications := c.verifications.update (VerificationRow.Expired now nodeRef)
      (VerificationRow.requeue now) }

def VerificationRow.claim (now : Timestamp) (workerInstanceId : String) (v : VerificationRow) :
    VerificationRow :=
  { v with
    status := .running
    workerInstanceId := some workerInstanceId
    leaseExpiresAt := some (now + verificationLeaseMs)
    startedAt := some now
    updatedAt := now }

/-- What a Worker gets to verify. -/
structure VerificationCommand where
  commandRef : String
  payload : VerificationPayload

def NodeRow.Claims (workerInstanceId : String) (n : NodeRow) : Prop :=
  n.workerInstanceId = some workerInstanceId ∧ (n.status = .online ∨ n.status = .degraded)

instance (workerInstanceId : String) : DecidablePred (NodeRow.Claims workerInstanceId) :=
  fun _ => inferInstanceAs (Decidable (_ ∧ _))

def claimModelVerification (now : Timestamp) (nodeRef workerInstanceId : String) (c : Centre) :
    Option VerificationCommand × Centre :=
  if ∃ n ∈ c.nodes, n.nodeRef = nodeRef ∧ n.Claims workerInstanceId then
    let c := requeueVerifications now nodeRef c
    match (c.verifications.select fun v =>
      v.nodeRef = some nodeRef ∧ v.status = .queued).head? with
    | none => (none, c)
    | some v => (some ⟨v.verificationRef, v.request⟩, { c with
        verifications := c.verifications.update
          (fun r => r.verificationRef = v.verificationRef ∧ r.status = .queued)
          (VerificationRow.claim now workerInstanceId) })
  else (none, c)

structure VerificationReport where
  nodeRef : String
  workerToken : String
  workerInstanceId : String
  commandRef : String
  succeeded : Bool
  checks : String

def VerificationReport.status (q : VerificationReport) : VerificationStatus :=
  if q.succeeded then .succeeded else .failed

def reportedVerification (q : VerificationReport) (c : Centre) :
    Except StoreError (VerificationRow × ModelRow) := do
  let n ← authenticatedNode q.nodeRef q.workerToken q.workerInstanceId c
  let missing : StoreError := .notFound "model_verification_not_found"
    "Model verification command was not found."
  let v ← orRaise missing
    ((c.verifications.find? q.commandRef).filter fun v => v.nodeRef = some n.nodeRef)
  let m ← orRaise missing (c.models.find? v.modelRef)
  raiseIf (v.status ≠ .running ∨ v.workerInstanceId ≠ some q.workerInstanceId)
    (.conflict "model_verification_not_claimed"
      "The model verification command is not claimed by this Worker.")
  return (v, m)

def VerificationRow.finish (now : Timestamp) (q : VerificationReport) (v : VerificationRow) :
    VerificationRow :=
  { v with
    status := q.status
    result := some q.checks
    leaseExpiresAt := none
    finishedAt := some now
    updatedAt := now }

def CurrentFor (v : VerificationRow) (m : ModelRow) (c : Centre) : Prop :=
  ∃ r ∈ revision? m.modelRef m.currentRevision c, r.revisionRef = v.revisionRef

instance (v : VerificationRow) (m : ModelRow) (c : Centre) : Decidable (CurrentFor v m c) :=
  inferInstanceAs (Decidable (∃ r ∈ revision? _ _ _, _))

def finishModelVerification (now : Timestamp) (q : VerificationReport) (c : Centre) :
    Except StoreError (VerificationStatus × Centre) := do
  let (v, m) ← reportedVerification q c
  let verifications := c.verifications.update
    (fun r => r.verificationRef = v.verificationRef) (VerificationRow.finish now q)
  if CurrentFor v m c ∧ m.status ≠ .disabled then
    return (q.status, { c with
      verifications
      models := c.models.update (fun r => r.modelRef = m.modelRef) fun r =>
        { r with status := if q.succeeded then .verified else .draft, updatedAt := now } })
  else return (q.status, { c with verifications })

end DataJuicer.TrainingNodes

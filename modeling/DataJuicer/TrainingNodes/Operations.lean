import DataJuicer.TrainingNodes.Models

/-! # The registry as one service

Every operation is one immediate transaction, so any number of users and Workers act on the
database as a sequence of requests.
-/

namespace DataJuicer.TrainingNodes

open Training (Timestamp)
open Transaction

/-- The requests to the store, with the arguments of the operations. -/
inductive Op
  | createNode (now : Timestamp) (nodeRef : String) (d : NodeData)
  | updateNode (now : Timestamp) (nodeRef : String) (expectedRevision : ℕ) (e : NodeEdit)
  | assertIdle (nodeRef : String)
  | deleteNode (now : Timestamp) (nodeRef : String) (expectedRevision : ℕ)
  | createEnrollmentToken (now : Timestamp) (q : TokenRequest)
  | invalidateEnrollmentTokens (now : Timestamp) (nodeRef : String)
  | enrollNode (now : Timestamp) (q : Enrollment)
  | beginDeployment (now : Timestamp) (nodeRef : String) (expectedRevision : ℕ) (k : HostKey)
  | finishDeployment (now : Timestamp) (nodeRef : String) (q : DeploymentResult)
  | beginRemoval (now : Timestamp) (nodeRef : String) (expectedRevision : ℕ)
  | finishRemoval (now : Timestamp) (nodeRef : String) (succeeded : Bool) (message : String)
  | heartbeat (now : Timestamp) (q : Heartbeat)
  | createModel (now : Timestamp) (refs : ModelRefs) (d : ModelData)
  | updateModel (now : Timestamp) (familyRef : String) (expectedRevision : ℕ)
      (revisionRef : String) (d : ModelData)
  | requestVerification (now : Timestamp) (familyRef : String) (expectedRevision : ℕ)
      (verificationRef : String)
  | claimVerification (now : Timestamp) (nodeRef workerInstanceId : String)
  | finishVerification (now : Timestamp) (q : VerificationReport)
  | createRun (now : Timestamp) (q : Training.RunCreation)
  | completeRun (now : Timestamp) (runRef : String) (status : Training.FinishStatus)
      (code message : Option String)

/-- What a request returns. -/
inductive Reply
  | node (view : NodeRow)
  | token (issued : IssuedToken)
  | enrolled (node : EnrolledNode)
  | model (view : ModelView)
  | command (command : Option VerificationCommand)
  | verification (status : VerificationStatus)
  | run (view : Training.RunView)
  | done

def answer {α : Type} (f : α → Reply) (x : Except StoreError (α × Centre)) :
    Except StoreError (Reply × Centre) :=
  x.map fun r => (f r.1, r.2)

theorem answer_eq_ok {α : Type} {f : α → Reply} {x : Except StoreError (α × Centre)} {r : Reply}
    {c : Centre} : answer f x = .ok (r, c) ↔ ∃ a, x = .ok (a, c) ∧ f a = r := by
  cases x with
  | error e => simp [answer, Except.map]
  | ok p =>
    obtain ⟨a, d⟩ := p
    simp [answer, Except.map, and_comm, and_assoc]

/-- `create_run`, which reads the registry. -/
def createRun (now : Timestamp) (q : Training.RunCreation) (c : Centre) :
    Except StoreError (Training.RunView × Centre) :=
  match Training.createRun now q { c.runTables with registry := c.registry } with
  | .ok (view, db) => .ok (view, { c with runTables :=
      { db with registry := c.runTables.registry } })
  | .error e => .error (.run e)

/-- `_finish_in` of a run that has not ended, as the operations on runs call it. -/
def completeRun (now : Timestamp) (runRef : String) (status : Training.FinishStatus)
    (code message : Option String) (c : Centre) : Centre :=
  match (c.runTables.runs.find? runRef).filter fun r => ¬ r.status.Terminal with
  | none => c
  | some r => { c with runTables := Training.finishIn now r status code message c.runTables }

/-- The operation that a request calls. -/
def perform : Op → Centre → Except StoreError (Reply × Centre)
  | .createNode now nodeRef d, c => answer .node (createNode now nodeRef d c)
  | .updateNode now nodeRef rev e, c => answer .node (updateNode now nodeRef rev e c)
  | .assertIdle nodeRef, c => do
    assertNodeHasNoActiveRealRuns nodeRef c
    return (.done, c)
  | .deleteNode now nodeRef rev, c => do
    let c ← deleteNode now nodeRef rev c
    return (.done, c)
  | .createEnrollmentToken now q, c => answer .token (createEnrollmentToken now q c)
  | .invalidateEnrollmentTokens now nodeRef, c =>
    .ok (.done, invalidateNodeEnrollmentTokens now nodeRef c)
  | .enrollNode now q, c => answer .enrolled (enrollNode now q c)
  | .beginDeployment now nodeRef rev k, c => answer .node (beginNodeDeployment now nodeRef rev k c)
  | .finishDeployment now nodeRef q, c => answer .node (finishNodeDeployment now nodeRef q c)
  | .beginRemoval now nodeRef rev, c => answer .node (beginNodeWorkerRemoval now nodeRef rev c)
  | .finishRemoval now nodeRef succeeded message, c =>
    answer .node (finishNodeWorkerRemoval now nodeRef succeeded message c)
  | .heartbeat now q, c => answer .node (recordNodeHeartbeat now q c)
  | .createModel now refs d, c => answer .model (createModel now refs d c)
  | .updateModel now familyRef rev revisionRef d, c =>
    answer .model (updateModel now familyRef rev revisionRef d c)
  | .requestVerification now familyRef rev verificationRef, c =>
    answer .model (requestModelVerification now familyRef rev verificationRef c)
  | .claimVerification now nodeRef workerId, c =>
    .ok (.command (claimModelVerification now nodeRef workerId c).1,
      (claimModelVerification now nodeRef workerId c).2)
  | .finishVerification now q, c => answer .verification (finishModelVerification now q c)
  | .createRun now q, c => answer .run (createRun now q c)
  | .completeRun now runRef status code message, c =>
    .ok (.done, completeRun now runRef status code message c)

/-- The operations of the store behind one database. -/
def store : Service Centre Op (Except StoreError Reply) := ⟨fun op => run (perform op)⟩

/-- A request with its answer. -/
abbrev Event := Op × Except StoreError Reply

/-- The database takes one request. -/
abbrev Step : Centre → Event → Centre → Prop := store.step

theorem step_iff {c c' : Centre} {e : Event} :
    Step c e c' ↔ (∃ r, perform e.1 c = .ok (r, c') ∧ e.2 = .ok r) ∨
      ∃ x, perform e.1 c = .error x ∧ e.2 = .error x ∧ c' = c :=
  run_eq

end DataJuicer.TrainingNodes

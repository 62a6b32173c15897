import DataJuicer.Annotation.Statements

/-! # The delivery of workflow handoffs

A handoff is bound to the Navigation task that processes its job or that fixes its review.
A coordinator claims the first undelivered handoff of a task under a lease and settles it.
-/

namespace DataJuicer.Annotation

open Transaction

structure TaskLinkRequest where
  jobRef : String
  reviewRef : Option String
  navigationTaskRef : String
  parentNavigationTaskRef : Option String
  linkKind : LinkKind

/-- A reference that is empty, too long or of several lines. -/
def InvalidTaskRef (ref : String) : Prop :=
  ref.length = 0 ∨ 200 < ref.length ∨ '\n' ∈ ref.toList ∨ '\r' ∈ ref.toList

instance : DecidablePred InvalidTaskRef := fun _ => inferInstanceAs (Decidable (_ ∨ _ ∨ _ ∨ _))

def unpinned (db : Database) (jobRef : String) : List HandoffRow :=
  db.handoffs.select fun h => h.jobRef = jobRef ∧ h.kind.Processing ∧
    db.processingLinks.find? h.handoffRef = none

/-- `INSERT OR IGNORE INTO workflow_handoff_processing_links` -/
def pinHandoffs (now : Timestamp) (linkRef : String) (handoffs : List HandoffRow)
    (t : Table ProcessingLinkRow) : Table ProcessingLinkRow :=
  handoffs.foldl (fun t h => (t.insert? ⟨h.handoffRef, linkRef, now⟩).getD t) t

def assignAuthority (now : Timestamp) (jobRef linkRef : String) (db : Database) :
    Except AnnotationError (Table AuthorityRow) :=
  match db.authorities.find? jobRef with
  | none => orRaise (.integrity "annotation_processing_authorities.job_id")
      (db.authorities.insert? ⟨jobRef, linkRef, 0, now⟩)
  | some current =>
    if current.linkRef = linkRef then .ok db.authorities
    else do
      raiseIf (∃ r ∈ db.runs, r.jobRef = jobRef ∧ r.status.Open)
        (.conflict "annotation_processing_active_attempt_conflict"
          "This annotation workflow already has active processing.")
      return db.authorities.update (fun a => a.jobRef = jobRef) fun a =>
        { a with linkRef, revision := a.revision + 1, updatedAt := now }

def assignProcessingAuthority (now : Timestamp) (jobRef linkRef : String) (db : Database) :
    Except AnnotationError Database := do
  let authorities ← assignAuthority now jobRef linkRef db
  return { db with
    authorities
    processingLinks := pinHandoffs now linkRef (unpinned db jobRef) db.processingLinks }

/-- The checks of a link that names a review. -/
def validateTaskLink (q : TaskLinkRequest) (db : Database) : Except AnnotationError Unit := do
  raiseIf (q.linkKind = .trajectoryFix ∧ q.reviewRef = none)
    (.validation "review_link_required" "A trajectory Fix task must link a review.")
  raiseIf (q.linkKind = .trajectoryFix ∧ q.parentNavigationTaskRef = none)
    (.validation "parent_task_link_required"
      "A trajectory Fix task must link its completed parent task.")
  raiseIf (q.linkKind = .processing ∧ q.reviewRef ≠ none)
    (.validation "unexpected_review_link" "A processing task cannot link an individual review.")
  match q.reviewRef with
  | none => .ok ()
  | some reviewRef => do
    let review ← reviewRow db reviewRef
    raiseIf ((db.trajectories.find? review.trajectoryRef).map TrajectoryRow.jobRef ≠ some q.jobRef)
      (.validation "task_link_scope_mismatch" "The review is outside the annotation task scope.")

def processingOwner? (db : Database) (q : TaskLinkRequest) : Option TaskLinkRow :=
  (db.taskLinks.select fun l => l.navigationTaskRef = q.navigationTaskRef ∧
    l.linkKind = .processing).head?

def processingOwnerConflict : AnnotationError :=
  .conflict "annotation_processing_owner_conflict"
    "This Navigation task already owns a different annotation job."

/-- A new link, which for a processing task takes over the job. -/
def insertTaskLink (now : Timestamp) (q : TaskLinkRequest) (linkRef : String) (db : Database) :
    Except AnnotationError Database := do
  raiseIf (∃ l ∈ db.taskLinks, q.linkKind = .trajectoryFix ∧ l.linkKind = .trajectoryFix ∧
      l.navigationTaskRef = q.navigationTaskRef ∧ l.reviewRef = q.reviewRef)
    (.integrity "annotation_task_links.navigation_task_ref")
  let taskLinks ← orRaise (.integrity "annotation_task_links.link_ref") (db.taskLinks.insert?
    ⟨linkRef, q.jobRef, q.reviewRef, q.navigationTaskRef, q.parentNavigationTaskRef, q.linkKind,
      now⟩)
  match q.linkKind with
  | .processing => assignProcessingAuthority now q.jobRef linkRef { db with taskLinks }
  | .trajectoryFix => return { db with taskLinks }

/-- The callback of `link_navigation_task`. -/
def linkNavigationTaskIn (now : Timestamp) (q : TaskLinkRequest) (linkRef : String)
    (db : Database) : Except AnnotationError (Reply × Database) := do
  let _ ← jobRow db.toWorkflow q.jobRef
  validateTaskLink q db
  match q.linkKind, processingOwner? db q with
  | .processing, some owner => do
    raiseIf (owner.jobRef ≠ q.jobRef) processingOwnerConflict
    let db ← assignProcessingAuthority now q.jobRef owner.linkRef db
    return (.linked q.linkKind, db)
  | _, _ => do
    let db ← insertTaskLink now q linkRef db
    return (.linked q.linkKind, db)

def linkNavigationTask (now : Timestamp) (q : TaskLinkRequest) (linkRef idempotencyKey : String)
    (db : Database) : Except AnnotationError (Reply × Database) := do
  raiseIf (InvalidTaskRef q.navigationTaskRef ∨ ∃ r ∈ q.parentNavigationTaskRef, InvalidTaskRef r)
    (.validation "invalid_navigation_task_ref" "The navigation task reference is invalid.")
  mutate now idempotencyKey (.linkNavigationTask q.jobRef q.reviewRef q.navigationTaskRef
    q.parentNavigationTaskRef q.linkKind) .datapilot (linkNavigationTaskIn now q linkRef) db

def Bound (db : Database) (h : HandoffRow) (l : TaskLinkRow) : Prop :=
  h.kind.Processing ∧ (db.processingLinks.find? h.handoffRef).map ProcessingLinkRow.linkRef =
      some l.linkRef ∨
    h.kind.Fix ∧ l.linkKind = .trajectoryFix ∧ h.reviewRef ≠ none ∧ l.reviewRef = h.reviewRef

instance (db : Database) (h : HandoffRow) : DecidablePred (Bound db h) := fun _ =>
  inferInstanceAs (Decidable (_ ∨ _))

def Delivered (db : Database) (handoffRef : String) : Prop :=
  ∃ d ∈ db.deliveries, d.handoffRef = handoffRef ∧ d.status = .delivered

instance (db : Database) (handoffRef : String) : Decidable (Delivered db handoffRef) := by
  unfold Delivered
  infer_instance

/-- A delivery that may be claimed: it was not, it failed, or its lease has expired. -/
def DeliveryOpen (now : Timestamp) (db : Database) (handoffRef : String) : Prop :=
  ∀ d ∈ db.deliveries, d.handoffRef = handoffRef →
    d.status = .retry ∨ d.status = .running ∧ ∃ t ∈ d.leaseExpiresAt, t ≤ now

instance (now : Timestamp) (db : Database) (handoffRef : String) :
    Decidable (DeliveryOpen now db handoffRef) := by
  unfold DeliveryOpen
  infer_instance

def earlierHandoffs (db : Database) (handoffRef : String) : List HandoffRow :=
  db.handoffs.rows.takeWhile fun h => h.handoffRef ≠ handoffRef

def HeadBlocked (db : Database) (handoffRef navigationTaskRef : String) : Prop :=
  ∃ e ∈ earlierHandoffs db handoffRef, ¬ Delivered db e.handoffRef ∧
    ∃ l ∈ db.taskLinks, Bound db e l ∧ l.navigationTaskRef = navigationTaskRef

instance (db : Database) (handoffRef navigationTaskRef : String) :
    Decidable (HeadBlocked db handoffRef navigationTaskRef) := by
  unfold HeadBlocked
  infer_instance

def boundHandoffs (db : Database) : List (HandoffRow × TaskLinkRow) :=
  db.handoffs.rows.flatMap fun h => (db.taskLinks.select (Bound db h)).map fun l => (h, l)

def Deliverable (now : Timestamp) (db : Database) (p : HandoffRow × TaskLinkRow) : Prop :=
  DeliveryOpen now db p.1.handoffRef ∧ ¬ HeadBlocked db p.1.handoffRef p.2.navigationTaskRef

instance (now : Timestamp) (db : Database) : DecidablePred (Deliverable now db) := fun _ =>
  inferInstanceAs (Decidable (_ ∧ _))

/-- What a coordinator gets to deliver. -/
structure ClaimedHandoff where
  handoffRef : String
  kind : HandoffKind
  jobRef : String
  jobStatus : JobStatus
  jobRevision : ℕ
  navigationTaskRef : String
  payload : HandoffPayload
  attempt : ℕ

/-- `INSERT … ON CONFLICT(handoff_id) DO UPDATE` -/
def upsertDelivery (row : DeliveryRow) (t : Table DeliveryRow) : Table DeliveryRow :=
  (t.insert? row).getD (t.update (fun d => d.handoffRef = row.handoffRef) fun d =>
    { row with handoffRef := d.handoffRef })

def validateWorker (workerId : String) : Except AnnotationError Unit :=
  raiseIf (workerId.length = 0 ∨ 200 < workerId.length)
    (.runtime "workflow handoff worker_id is invalid")

def claimWorkflowHandoffDelivery (now : Timestamp) (workerId : String) (leaseMs : ℕ)
    (db : Database) : Except AnnotationError (Option ClaimedHandoff × Database) := do
  validateWorker workerId
  match (boundHandoffs db).find? fun p => Deliverable now db p with
  | none => return (none, db)
  | some (h, l) => do
    let job ← jobRow db.toWorkflow h.jobRef
    let attempt := ((db.deliveries.find? h.handoffRef).map DeliveryRow.attempts).getD 0 + 1
    let delivery : DeliveryRow :=
      ⟨h.handoffRef, .running, workerId, attempt, some (now + leaseMs), none, now⟩
    return (some
      { handoffRef := h.handoffRef
        kind := h.kind
        jobRef := h.jobRef
        jobStatus := job.status
        jobRevision := job.stateRevision
        navigationTaskRef := l.navigationTaskRef
        payload := h.payload
        attempt },
      { db with deliveries := upsertDelivery delivery db.deliveries })

structure Settlement where
  handoffRef : String
  workerId : String
  success : Bool
  error : Option String

def handoffLeaseLost : AnnotationError :=
  .conflict "workflow_handoff_lease_lost" "The workflow handoff delivery lease changed."

/-- `str(error or "delivery_failed")[:200]` -/
def settlementError (error : Option String) : String :=
  String.ofList (((error.filter fun e => e ≠ "").getD "delivery_failed").toList.take 200)

def completeWorkflowHandoffDelivery (now : Timestamp) (q : Settlement) (db : Database) :
    Except AnnotationError Database := do
  let row ← orRaise (.missing q.handoffRef) (db.deliveries.find? q.handoffRef)
  if row.status = .delivered ∧ q.success then return db
  else do
    raiseIf (row.status ≠ .running ∨ row.workerId ≠ q.workerId) handoffLeaseLost
    let Mine (d : DeliveryRow) : Prop := d.handoffRef = q.handoffRef ∧ d.workerId = q.workerId
    return { db with deliveries := db.deliveries.update Mine fun d =>
      { d with
        status := if q.success then .delivered else .retry
        leaseExpiresAt := none
        lastError := if q.success then none else some (settlementError q.error)
        updatedAt := now } }

end DataJuicer.Annotation

import DataJuicer.Lib.Sha256
import Mathlib.Data.Int.Notation
import Mathlib.Data.List.Infix

/-! # Statuses, errors and values of the annotation workflow -/

namespace DataJuicer.Annotation

/-- Milliseconds since the epoch; `_now` keeps milliseconds. -/
abbrev Timestamp := ℕ

inductive JobStatus
  | preparing
  | waitingInitialAnnotation
  | tracking
  | tracked
  | postprocessing
  | annotated
  | failed
  | cancelled
  deriving DecidableEq

inductive SegmentStatus
  | pendingInitialAnnotation
  | draft
  | submitted
  | skipped
  | tracking
  | tracked
  | postprocessing
  | annotated
  | postprocessingFailed
  deriving DecidableEq

/-- A segment that can be skipped, and that an unskip can restore. -/
def SegmentStatus.Restorable (s : SegmentStatus) : Prop :=
  s = SegmentStatus.pendingInitialAnnotation ∨ s = .draft ∨ s = .submitted

instance : DecidablePred SegmentStatus.Restorable := fun _ =>
  inferInstanceAs (Decidable (_ ∨ _ ∨ _))

inductive RunKind
  | prepare
  | tracking
  | postprocessing
  | fix
  | compatibilityPublish
  deriving DecidableEq

inductive RunStatus
  | queued
  | running
  | succeeded
  | failed
  | cancelled
  deriving DecidableEq

/-- `status IN ('queued','running')` -/
def RunStatus.Open (s : RunStatus) : Prop := s = .queued ∨ s = .running

instance : DecidablePred RunStatus.Open := fun _ => inferInstanceAs (Decidable (_ ∨ _))

/-- `status IN ('succeeded','failed','cancelled')` -/
def RunStatus.Terminal (s : RunStatus) : Prop := s = .succeeded ∨ s = .failed ∨ s = .cancelled

instance : DecidablePred RunStatus.Terminal := fun _ => inferInstanceAs (Decidable (_ ∨ _ ∨ _))

@[simp] theorem RunStatus.not_terminal_queued : ¬ RunStatus.Terminal .queued := by decide

@[simp] theorem RunStatus.not_terminal_running : ¬ RunStatus.Terminal .running := by decide

inductive StepStatus
  | started
  | succeeded
  | failed
  deriving DecidableEq

inductive ReviewStatus
  | pending
  | inProgress
  | returned
  | approved
  | discarded
  deriving DecidableEq

inductive PublicationStatus
  | queued
  | running
  | succeeded
  | failed
  deriving DecidableEq

/-- `status IN ('queued','running')` -/
def PublicationStatus.Open (s : PublicationStatus) : Prop := s = .queued ∨ s = .running

instance : DecidablePred PublicationStatus.Open := fun _ => inferInstanceAs (Decidable (_ ∨ _))

inductive HandoffKind
  | initialAnnotationReady
  | initialAnnotationSubmitted
  | trackingCompleted
  | postprocessingCompleted
  | postprocessingFailed
  | fixReady
  | fixRevisionSubmitted
  | reviewReturned
  | reviewCompleted
  deriving DecidableEq

def HandoffKind.Processing (k : HandoffKind) : Prop :=
  k = .initialAnnotationSubmitted ∨ k = .trackingCompleted ∨ k = .postprocessingCompleted ∨
    k = .postprocessingFailed

instance : DecidablePred HandoffKind.Processing := fun _ =>
  inferInstanceAs (Decidable (_ ∨ _ ∨ _ ∨ _))

def HandoffKind.Fix (k : HandoffKind) : Prop :=
  k = .fixRevisionSubmitted ∨ k = .reviewReturned ∨ k = .reviewCompleted

instance : DecidablePred HandoffKind.Fix := fun _ => inferInstanceAs (Decidable (_ ∨ _ ∨ _))

/-- `payload_json` of a workflow handoff. -/
inductive HandoffPayload
  | segmentCount (jobRef : String) (count : ℕ)
  | submitted (jobRef : String) (submittedCount skippedCount : ℕ)
  | trackedCount (jobRef : String) (count : ℕ)
  | reviewCount (jobRef : String) (count : ℕ)
  | failure (jobRef failureCode errorRef : String) (retryable : Bool)
  | fixRevision (reviewRef fixRevisionRef : String)
  | decision (reviewRef decision : String)

inductive ActorKind
  | manualWeb
  | datapilot
  | systemWorker

inductive LinkKind
  | processing
  | trajectoryFix
  deriving DecidableEq

def recoveryRequired : String := "recovery_required"

def recoveryMessage : String := "Runtime recovery requires an operator safety check."

/-- What an operation of the store raises, with code and message where it has them. -/
inductive AnnotationError
  | conflict (code message : String)
  | validation (code message : String)
  | notFound (message : String)
  | runtime (message : String)
  | invalidModel (model : String) (fields : List String)
  | integrity (constraint : String)
  | missing (handoffRef : String)
  | writerLock (message : String)

def jobNotFound : AnnotationError := .notFound "annotation job not found"

def segmentNotFound : AnnotationError := .notFound "annotation segment not found"

def reviewNotFound : AnnotationError := .notFound "trajectory review not found"

def jobRevisionConflict : AnnotationError :=
  .conflict "job_revision_conflict" "The annotation job changed; refresh before retrying."

def segmentRevisionConflict : AnnotationError :=
  .conflict "segment_revision_conflict" "The annotation segment changed; refresh before retrying."

def reviewRevisionConflict : AnnotationError :=
  .conflict "review_revision_conflict" "The trajectory review changed; refresh before retrying."

def invalidJobAction : AnnotationError :=
  .conflict "invalid_job_state" "The requested action is unavailable in the current job state."

def invalidSegmentAction : AnnotationError :=
  .conflict "invalid_segment_state"
    "The requested action is unavailable in the current segment state."

def invalidReviewAction : AnnotationError :=
  .conflict "invalid_review_state"
    "The requested action is unavailable in the current review state."

def idempotencyKeyReused : AnnotationError :=
  .conflict "idempotency_key_reused"
    "Idempotency-Key was already used for a different request."

def invalidIdempotencyKey : AnnotationError :=
  .validation "invalid_idempotency_key"
    "Idempotency-Key must contain between 1 and 200 characters."

def runNotRunning : AnnotationError := .runtime "runtime run is not running"

def runNotFound : AnnotationError := .runtime "runtime run not found"

/-- The texts that `_require_safe_handoff_payload` refuses. -/
def UnsafeText (s : String) : Prop :=
  "/".toList <+: s.toList ∨ "\\".toList <+: s.toList ∨ "/Users/".toList <:+: s.toList ∨
    "/media/".toList <:+: s.toList ∨ '\r' ∈ s.toList ∨ '\n' ∈ s.toList ∨ 2000 < s.toList.length

instance : DecidablePred UnsafeText := fun s => by
  unfold UnsafeText
  infer_instance

def unsafeHandoffPayload : AnnotationError :=
  .validation "unsafe_handoff_payload" "Workflow handoffs cannot contain private paths."

structure TargetColors where
  upper : Option String
  lower : Option String
  shoes : Option String
  deriving DecidableEq

structure DraftAnnotationTarget where
  targetRef : String
  bbox : Option (ℤ × ℤ × ℤ × ℤ)
  point : Option (ℤ × ℤ)
  colors : TargetColors
  deriving DecidableEq

def ValidTargetRef (s : String) : Prop :=
  "target_".toList <+: s.toList ∧ s.toList.length = 39 ∧
    ∀ c ∈ s.toList.drop 7, c ∈ "0123456789abcdef".toList

instance : DecidablePred ValidTargetRef := fun s =>
  have := List.decidableBAll (fun c => c ∈ "0123456789abcdef".toList) (s.toList.drop 7)
  inferInstanceAs (Decidable (_ ∧ _ ∧ _))

/-- `ColorValue` -/
def colorValues : List String :=
  ["black", "white", "gray", "red", "yellow", "blue", "green", "pink", "purple", "brown", "orange",
    "camouflage", "beige", "khaki"]

/-- The colors that are no `ColorValue`, in the order of the stored keys. -/
def TargetColors.invalidFields (c : TargetColors) : List String :=
  [("colors.lower", c.lower), ("colors.shoes", c.shoes), ("colors.upper", c.upper)].filterMap
    fun field => if ∃ color ∈ field.2, color ∉ colorValues then some field.1 else none

def DraftAnnotationTarget.invalidFields (t : DraftAnnotationTarget) : List String :=
  (if ValidTargetRef t.targetRef then [] else ["target_ref"]) ++ t.colors.invalidFields

def intList (xs : List ℤ) : String := "[" ++ String.intercalate "," (xs.map toString) ++ "]"

def jsonText (s : String) : String := "\"" ++ s ++ "\""

def jsonTextOrNull : Option String → String
  | none => "null"
  | some s => jsonText s

def jsonObject (fields : List (String × String)) : String :=
  "\x7b" ++ String.intercalate "," (fields.map fun f => jsonText f.1 ++ ":" ++ f.2) ++ "\x7d"

def TargetColors.canonicalJson (c : TargetColors) : String :=
  jsonObject [("lower", jsonTextOrNull c.lower), ("shoes", jsonTextOrNull c.shoes),
    ("upper", jsonTextOrNull c.upper)]

/-- `_canonical_json` of a target; its texts have no character that JSON escapes. -/
def DraftAnnotationTarget.canonicalJson (t : DraftAnnotationTarget) : String :=
  jsonObject
    [("bbox", match t.bbox with
        | none => "null"
        | some (x, y, w, h) => intList [x, y, w, h]),
      ("colors", t.colors.canonicalJson),
      ("point", match t.point with
        | none => "null"
        | some (x, y) => intList [x, y]),
      ("target_ref", jsonText t.targetRef)]

def targetsJson (targets : List DraftAnnotationTarget) : String :=
  "[" ++ String.intercalate "," (targets.map DraftAnnotationTarget.canonicalJson) ++ "]"

/-- `content_sha256` of an annotation. -/
def targetsSha256 (targets : List DraftAnnotationTarget) : String :=
  Sha256.hexdigest (targetsJson targets)

def ValidSha256 (s : String) : Prop :=
  s.toList.length = 64 ∧ ∀ c ∈ s.toList, c ∈ "0123456789abcdef".toList

instance : DecidablePred ValidSha256 := fun s =>
  have := List.decidableBAll (fun c => c ∈ "0123456789abcdef".toList) s.toList
  inferInstanceAs (Decidable (_ ∧ _))

/-- `Path(s).is_absolute()` -/
def IsAbsolute (s : String) : Prop := s.toList.head? = some '/'

instance : DecidablePred IsAbsolute := fun s => by
  unfold IsAbsolute
  infer_instance

end DataJuicer.Annotation

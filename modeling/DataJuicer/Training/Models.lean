import Mathlib.Data.Finset.Basic
import Mathlib.Algebra.Group.Int.Defs
import Mathlib.Algebra.GroupWithZero.Nat

/-! # Statuses and errors of the training centre -/

namespace DataJuicer.Training

/-- Milliseconds since the epoch; `now_iso` keeps milliseconds. -/
abbrev Timestamp := ℕ

inductive RunStatus
  | queued
  | preparing
  | running
  | stopRequested
  | succeeded
  | failed
  | cancelled
  | lost
  deriving DecidableEq

/-- The statuses `_finish_in` gives a run. -/
inductive FinishStatus
  | succeeded
  | failed
  | cancelled
  | lost
  deriving DecidableEq

def FinishStatus.toRun : FinishStatus → RunStatus
  | .succeeded => .succeeded
  | .failed => .failed
  | .cancelled => .cancelled
  | .lost => .lost

/-- `TERMINAL_RUN_STATUSES` -/
def RunStatus.Terminal (s : RunStatus) : Prop :=
  s = .succeeded ∨ s = .failed ∨ s = .cancelled ∨ s = .lost

instance : DecidablePred RunStatus.Terminal := fun _ =>
  inferInstanceAs (Decidable (_ ∨ _ ∨ _ ∨ _))

@[simp] theorem FinishStatus.terminal (s : FinishStatus) : s.toRun.Terminal := by
  cases s <;> simp [toRun, RunStatus.Terminal]

theorem RunStatus.not_terminal_iff {s : RunStatus} :
    ¬ s.Terminal ↔ s = .queued ∨ s = .preparing ∨ s = .running ∨ s = .stopRequested := by
  cases s <;> simp [Terminal]

inductive StageStatus
  | pending
  | preparing
  | running
  | succeeded
  | failed
  | cancelled
  | skipped
  | lost
  deriving DecidableEq

def FinishStatus.toStage : FinishStatus → StageStatus
  | .succeeded => .succeeded
  | .failed => .failed
  | .cancelled => .cancelled
  | .lost => .lost

/-- `status IN ('preparing','running')` -/
def StageStatus.Active (s : StageStatus) : Prop := s = .preparing ∨ s = .running

instance : DecidablePred StageStatus.Active := fun _ => inferInstanceAs (Decidable (_ ∨ _))

/-- `status IN ('pending','preparing','running')` -/
def StageStatus.Open (s : StageStatus) : Prop := s = .pending ∨ s.Active

instance : DecidablePred StageStatus.Open := fun _ => inferInstanceAs (Decidable (_ ∨ _))

inductive ActionKind
  | startTrainingStage
  | stopTrainingRun
  deriving DecidableEq

inductive ActionStatus
  | queued
  | running
  | succeeded
  | failed
  | cancelled
  deriving DecidableEq

/-- `status IN ('queued','running')` -/
def ActionStatus.Open (s : ActionStatus) : Prop := s = .queued ∨ s = .running

instance : DecidablePred ActionStatus.Open := fun _ => inferInstanceAs (Decidable (_ ∨ _))

inductive ExecutionMode
  | simulation
  | real
  deriving DecidableEq

inductive ControlStatus
  | connected
  | unreachable
  | unresolved
  deriving DecidableEq

inductive TrainingNodeStatus
  | pendingEnrollment
  | online
  | degraded
  | offline
  | repairRequired
  | disabled
  deriving DecidableEq

inductive ArtifactKind
  | stageOutput
  | versionModel
  deriving DecidableEq

inductive StageInputSource
  | manual
  | previousStageOutput
  deriving DecidableEq

inductive LogLevel
  | debug
  | info
  | warning
  | error

/-- The current state that a conflict reports. -/
inductive Current
  | gpuUuids (uuids : List String)
  | expectedWorkerSeq (seq : ℕ)
  | run (runRef : String) (status : RunStatus) (stateRevision : ℕ)

/-- `TrainingError` with its subclasses, and the errors of SQLite and `assert`. -/
inductive TrainingError
  | conflict (code message : String) (current : Option Current := none)
  | notFound (code message : String)
  | forbidden (code message : String)
  | validation (code message : String)
  | integrityError
  | assertionError
  | overflowError

end DataJuicer.Training

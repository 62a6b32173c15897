import DataJuicer.Lib.Run
import DataJuicer.TrainingWorker.LogCollection

/-! # Every byte of a log is collected

A call takes the batch at the offset, or leaves the offset where it is when a line of the batch
cannot be parsed or when no line shows anything. The tick that observes the exit of the
supervisor has read one batch before, and nothing is read after it. A launch that is resumed
may see the exit before anything is read.
-/

namespace DataJuicer.TrainingWorker

open Lines Transaction

variable {r : Readers} {present : CheckpointExists} {source : LogSource} {content : List UInt8}
  {logOffset : ℕ}

/-- Where the launch of a run is in the ledger. -/
inductive LaunchPhase
  | accepted
  /-- The run is `running` or `stopping`. -/
  | active
  | ended
  deriving DecidableEq

/-- The log of a launch, which grows, with what the worker knows of its run. -/
structure LogWorld where
  content : List UInt8
  phase : LaunchPhase
  logOffset : ℕ
  /-- The bytes of the batches that were queued. -/
  consumed : List UInt8
  /-- The size of the log when the exit of the supervisor was observed. -/
  exitSize : Option ℕ

def LogWorld.initial (content : List UInt8) : LogWorld := ⟨content, .accepted, 0, [], none⟩

/-- What `_observe_supervisor` finds. -/
inductive Sight
  | running
  | exited (exitCode : ℤ)
  | missing

inductive LogEvent
  | write (bytes : List UInt8)
  /-- The end of `_start`. -/
  | start
  /-- The end of `_resume_launch_intent`, which looks at the supervisor and reads no log. -/
  | resume (sight : Sight)
  /-- The log is read, `late` is written to it and the supervisor is looked at. -/
  | tick (present : CheckpointExists) (late : List UInt8) (sight : Sight)
  /-- The end of `_stop`. -/
  | stop (present : CheckpointExists)

namespace LogWorld

variable (r : Readers) (present : CheckpointExists) (source : LogSource)

def call (w : LogWorld) : Collection := collectLog r present source w.logOffset (some w.content)

/-- The world after a call. -/
def collected (w : LogWorld) : LogWorld :=
  let c := w.call r present source
  { w with
    logOffset := c.logOffset
    consumed := w.consumed ++
      if c.raised ∨ c.queued = [] then [] else (logBatch w.content w.logOffset).flatten }

/-- `_observe_supervisor` -/
def observed (w : LogWorld) : Sight → LogWorld
  | .running => w
  | .exited _ => { w with phase := .ended, exitSize := some w.content.length }
  | .missing => { w with phase := .ended }

/-- The part of `tick` about this run; what raises is not followed by an observation. -/
def tick (late : List UInt8) (sight : Sight) (w : LogWorld) : LogWorld :=
  let w' := w.collected r present source
  let w' := { w' with content := w'.content ++ late }
  if (w.call r present source).raised then w' else w'.observed sight

end LogWorld

inductive LogStep (r : Readers) (source : LogSource) : LogWorld → LogEvent → LogWorld → Prop
  | write (w : LogWorld) (bytes : List UInt8) :
      LogStep r source w (.write bytes) { w with content := w.content ++ bytes }
  | start (w : LogWorld) (h : w.phase = .accepted) :
      LogStep r source w .start { w with phase := .active }
  | resume (w : LogWorld) (h : w.phase = .accepted) (sight : Sight) :
      LogStep r source w (.resume sight) (({ w with phase := .active } : LogWorld).observed sight)
  | tick (w : LogWorld) (h : w.phase = .active) (present : CheckpointExists) (late : List UInt8)
      (sight : Sight) :
      LogStep r source w (.tick present late sight) (w.tick r present source late sight)
  | stop (w : LogWorld) (h : w.phase ≠ .ended) (present : CheckpointExists) :
      LogStep r source w (.stop present)
        (({ w with phase := .ended } : LogWorld).collected r present source)

/-- A tick with nothing new to see. -/
def LogEvent.Quiet : LogEvent → Prop
  | .tick _ late sight => late = [] ∧ sight = .running
  | _ => False

namespace LogWorld

variable (w : LogWorld) (sight : Sight)

@[simp] theorem content_observed : (w.observed sight).content = w.content := by
  cases sight <;> rfl

end LogWorld

/-- The offset is in the log, and an exit has been observed only of a run that has ended. -/
structure LogWorld.Wf (w : LogWorld) : Prop where
  offset : w.logOffset ≤ w.content.length
  exit : w.phase ≠ .ended → w.exitSize = none

variable {w w' : LogWorld} {e : LogEvent}

theorem logOffset_call (r : Readers) (present : CheckpointExists) (source : LogSource)
    (hle : w.logOffset ≤ w.content.length) :
    w.logOffset ≤ (w.call r present source).logOffset ∧
      (w.call r present source).logOffset ≤ w.content.length := by
  have hend := collectLog_end r present source w.content w.logOffset
  unfold LogWorld.call
  revert hend
  generalize collectLog r present source w.logOffset (some w.content) = c
  intro hend
  cases hend with
  | raised | blank => exact ⟨le_rfl, hle⟩
  | taken =>
    dsimp only
    rw [startOffset_of_le hle]
    exact ⟨Nat.le_add_right _ _, logOffset_add_le hle⟩

theorem LogWorld.Wf.observed (h : w.Wf) (sight : Sight) : (w.observed sight).Wf := by
  cases sight with
  | running => exact h
  | exited | missing => exact ⟨h.offset, fun hne => absurd rfl hne⟩

theorem wf_of_step (hw : w.Wf) (h : LogStep r source w e w') : w'.Wf := by
  cases h with
  | write bytes =>
    refine ⟨hw.offset.trans ?_, hw.exit⟩
    simp
  | start haccepted => exact ⟨hw.offset, fun _ => hw.exit (by simp [haccepted])⟩
  | resume haccepted sight =>
    have hactive : ({ w with phase := .active } : LogWorld).Wf :=
      ⟨hw.offset, fun _ => hw.exit (by simp [haccepted])⟩
    exact hactive.observed sight
  | tick hactive present late sight =>
    have hw' : ({ w.collected r present source with
        content := (w.collected r present source).content ++ late } : LogWorld).Wf := by
      refine ⟨(logOffset_call _ _ _ hw.offset).2.trans ?_, hw.exit⟩
      change w.content.length ≤ (w.content ++ late).length
      simp
    unfold LogWorld.tick
    split
    · exact hw'
    · exact hw'.observed sight
  | stop hactive present =>
    exact ⟨(logOffset_call _ _ _ (w := { w with phase := .ended }) hw.offset).2,
      fun hne => absurd rfl hne⟩

theorem wf_initial (content : List UInt8) : (LogWorld.initial content).Wf :=
  ⟨Nat.zero_le _, fun _ => rfl⟩

variable {w₀ : LogWorld} {l : List (Transition LogWorld LogEvent)}

theorem wf_of_run (h : Run (LogStep r source) w₀ l w) (hw : w₀.Wf) : w.Wf ∧ ∀ x ∈ l, x.pre.Wf := by
  have hall : ∀ x ∈ l, True := fun _ _ => trivial
  have hinv := h.invariant hw hall fun x hx _ hstep => wf_of_step hx hstep
  exact ⟨hinv.1, fun x hx => (hinv.2 x hx).1⟩

namespace Sample

def launched (content : List UInt8) : LogWorld := { LogWorld.initial content with phase := .active }

end Sample

end DataJuicer.TrainingWorker

import DataJuicer.PublicContract.Projector
import DataJuicer.PublicContract.SafePayloads

/-! # When a projection raises

Every event is checked when it is built, after the state has been changed. Which texts an event
gets is known from the signal and the state before, and so is whether the call raises.
-/

namespace DataJuicer.PublicContract

open Raising

variable (cfg : ProjectorConfig)

/-- The held back texts are shown. -/
def Emits (w : Projector) (key : ProgressKey) (st : ProgressState) : Prop :=
  st.pendingTexts ≠ [] ∧ w.CanEmit key.1 st

/-- The event with the texts that are held back. -/
def deltaBody (key : ProgressKey) (st : ProgressState) : EventBody :=
  .progressDelta key.2 (pendingSummary cfg st) st.pendingCount

/-- What is required of the held back texts that a call shows. -/
abbrev Requirement := ProgressKey → ProgressState → Prop

/-- The texts that the loop of `flush` shows meet the requirement. -/
def FlushMeets (D : Requirement) (now : Seconds) (force : Bool) :
    Projector → List ProgressKey → Prop
  | _, [] => True
  | w, key :: keys =>
    (∀ st ∈ w.progress.lookup key, ¬ Skipped cfg now force st → Emits w key st → D key st) ∧
      ∀ e w', (flushKey cfg now force key).Returns w e w' → FlushMeets D now force w' keys

/-- The state in which a `finish` flushes its turn. -/
def Projector.finishing (w : Projector) (key : ProgressKey) (st : ProgressState)
    (p : ProgressSignal) (now : Seconds) : Projector :=
  w.put key (finishQueued cfg w key (if st.started then st else st.opened now) p)

/-- The texts that a progress signal shows from those held back. -/
def ProgressMeets (D : Requirement) (w : Projector) (key : ProgressKey) (st : ProgressState)
    (p : ProgressSignal) (now : Seconds) : Prop :=
  if p.operation = .finish then
    FlushMeets cfg D now true (w.finishing cfg key st p now)
      ((w.finishing cfg key st p now).sortedKeys (some key.1))
  else st.started = true → ¬ Repeats cfg st p → ¬ st.Soon cfg now →
    Emits w key (appendQueued cfg w key st p) → D key (appendQueued cfg w key st p)

/-- The held back texts that a parsed signal shows meet the requirement. -/
def BodyMeets (D : Requirement) (w : Projector) (s : Signal) (taskRef : String) (now : Seconds) :
    Prop :=
  match s.body with
  | .progress p =>
    let key := (s.turnId, p.phase)
    let st := w.stateOf key taskRef
    st.finished = false → ProgressMeets cfg D (w.put key st) key st p now
  | .final _ => FlushMeets cfg D now true w (w.sortedKeys (some s.turnId))
  | _ => True

def CallMeets (D : Requirement) (w : Projector) : Call → Prop
  | .project s taskRef now => ∀ parsed, validateSpecialistSignal s = .ok parsed →
    parsed.key ∉ w.seenSignals → BodyMeets cfg D w parsed taskRef now
  | .flush now turnId force => FlushMeets cfg D now force w (w.sortedKeys turnId)

/-- The phase of a parsed signal has this reference. -/
def SameRef (w : Projector) (s : Signal) (taskRef : String) : Prop :=
  match s.body with
  | .progress p => (w.stateOf (s.turnId, p.phase) taskRef).taskRef = taskRef
  | _ => True

/-- The signal of the call is valid, and the phase is projected under one reference. -/
def Accepted (w : Projector) : Call → Prop
  | .project s taskRef _ => ∃ parsed, validateSpecialistSignal s = .ok parsed ∧
    (parsed.key ∉ w.seenSignals → SameRef w parsed taskRef)
  | .flush _ _ _ => True

variable {cfg} {w w' : Projector} {key : ProgressKey} {st : ProgressState} {now : Seconds}
  {force : Bool}

end DataJuicer.PublicContract

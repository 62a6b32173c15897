import DataJuicer.Lib.Raising
import DataJuicer.Lib.Run
import DataJuicer.PublicContract.PublicEvents
import Mathlib.Data.List.AList
import Mathlib.Data.List.Sort
import Mathlib.Data.Rat.Defs
import Mathlib.Logic.Function.Basic

/-! # The projector

It turns the signals of specialists into public events. Progress is limited for each phase and for
each turn, and texts that come too soon after another are held back until the next call that may
show them.
-/

namespace DataJuicer.PublicContract

open Transaction Raising

abbrev Seconds := ℚ

def progressUpdatesPerPhase : ℕ := 2

def progressUpdatesPerTurn : ℕ := 8

/-- A turn and a phase. -/
abbrev ProgressKey := String × Phase

structure ProgressState where
  taskRef : String
  started : Bool
  finished : Bool
  emittedTexts : List String
  updateCount : ℕ
  lastEmitAt : Option Seconds
  pendingTexts : List String
  pendingCount : Option Count

def ProgressState.new (taskRef : String) : ProgressState :=
  ⟨taskRef, false, false, [], 0, none, [], none⟩

structure ActionState where
  /-- The number in `action-1`, `action-2`, and so on. -/
  actionRef : ℕ
  definition : PublicActionDefinition

/-- The fields of a `SpecialistSignalProjector`. -/
structure Projector where
  progress : AList fun _ : ProgressKey => ProgressState
  turnUpdates : String → ℕ
  actionsByCall : String × String → Option ActionState
  groupedActions : String × String → Option ActionState
  nextActionNumber : String → ℕ
  seenSignals : List (String × String)

namespace Projector

def new : Projector := ⟨∅, fun _ => 0, fun _ => none, fun _ => none, fun _ => 0, []⟩

def put (w : Projector) (key : ProgressKey) (st : ProgressState) : Projector :=
  { w with progress := w.progress.insert key st }

def CanEmit (w : Projector) (turnId : String) (st : ProgressState) : Prop :=
  st.updateCount < progressUpdatesPerPhase ∧ w.turnUpdates turnId < progressUpdatesPerTurn

instance (w : Projector) (turnId : String) (st : ProgressState) :
    Decidable (w.CanEmit turnId st) :=
  inferInstanceAs (Decidable (_ ∧ _))

def markEmitted (w : Projector) (key : ProgressKey) (st : ProgressState) (text : String)
    (now : Seconds) : Projector :=
  { w.put key { st with
      emittedTexts := text :: st.emittedTexts
      updateCount := st.updateCount + 1
      lastEmitAt := some now } with
    turnUpdates := Function.update w.turnUpdates key.1 (w.turnUpdates key.1 + 1) }

end Projector

/-- `_queue_progress`, where `budget` says that the text can be emitted. -/
def queueProgress (budget : Bool) (text : String) (count : Option Count) (st : ProgressState) :
    ProgressState :=
  if budget then
    { st with
      pendingTexts := if text ∈ st.emittedTexts ∨ text ∈ st.pendingTexts then st.pendingTexts
        else st.pendingTexts ++ [text]
      pendingCount := count.or st.pendingCount }
  else st

structure ProjectorConfig where
  chars : CharData
  registry : PublicActionRegistry
  coalesceSeconds : Seconds

variable (cfg : ProjectorConfig)

def orText (s other : String) : String := if s = "" then other else s

/-- A text that is left out when it is empty. -/
def nonempty (s : String) : Option String := if s = "" then none else some s

def countPayload (c : CountFields) : Option Count :=
  match c.done, c.total with
  | some done, some total =>
    let unit := orText (sanitizeProgressText cfg.chars (some (orText (c.unit.getD "") "项"))) "项"
    some ⟨done, total, String.ofList (unit.toList.take 24)⟩
  | _, _ => none

/-- The texts that are held back, as one. -/
def pendingSummary (st : ProgressState) : String :=
  sanitizeProgressText cfg.chars (some ("；".intercalate st.pendingTexts))

def ProgressState.cleared (st : ProgressState) : ProgressState :=
  { st with pendingTexts := [], pendingCount := none }

/-- `now` comes too soon after the last event with a text. -/
def ProgressState.Soon (st : ProgressState) (now : Seconds) : Prop :=
  ∃ t ∈ st.lastEmitAt, now - t < cfg.coalesceSeconds

instance (st : ProgressState) (now : Seconds) : Decidable (st.Soon cfg now) :=
  inferInstanceAs (Decidable (∃ t ∈ st.lastEmitAt, _))

/-- The operations of a projector. -/
abbrev Effect := Raising Projector ProjectionError

def emitPendingProgress (key : ProgressKey) (st : ProgressState) (now : Seconds) :
    Effect (Option PublicEvent) := do
  let w ← get
  if st.pendingTexts = [] ∨ ¬ w.CanEmit key.1 st then
    set (w.put key st.cleared)
    return none
  else
    let summary := pendingSummary cfg st
    set (w.markEmitted key st.cleared summary now)
    return some (← lift (event cfg.chars st.taskRef
      (.progressDelta key.2 summary st.pendingCount)))

/-- The states that `flush` passes over. -/
def Skipped (now : Seconds) (force : Bool) (st : ProgressState) : Prop :=
  st.pendingTexts = [] ∨ force = false ∧ st.Soon cfg now

instance (now : Seconds) (force : Bool) (st : ProgressState) :
    Decidable (Skipped cfg now force st) :=
  inferInstanceAs (Decidable (_ ∨ _))

/-- One round of the loop of `flush`. -/
def flushKey (now : Seconds) (force : Bool) (key : ProgressKey) : Effect (Option PublicEvent) := do
  let w ← get
  match w.progress.lookup key with
  | some st =>
    if Skipped cfg now force st then return none else emitPendingProgress cfg key st now
  | none => return none

/-- The loop of `flush`; an event comes with its turn. -/
def flushKeys (now : Seconds) (force : Bool) :
    List ProgressKey → Effect (List (String × PublicEvent))
  | [] => return []
  | key :: keys => do
    let e ← flushKey cfg now force key
    let es ← flushKeys now force keys
    return (e.map fun e => (key.1, e)).toList ++ es

def Projector.sortedKeys (w : Projector) (turnId : Option String) : List ProgressKey :=
  (w.progress.keys.filter fun key => turnId = none ∨ turnId = some key.1).insertionSort
    fun a b => a.1 < b.1 ∨ a.1 = b.1 ∧ a.2.text ≤ b.2.text

def flush (now : Seconds) (turnId : Option String) (force : Bool) :
    Effect (List (String × PublicEvent)) := do
  let w ← get
  flushKeys cfg now force (w.sortedKeys turnId)

/-- The phase has been shown. -/
def ProgressState.opened (st : ProgressState) (now : Seconds) : ProgressState :=
  { st with started := true, lastEmitAt := some now }

/-- The text of a `finish` is held back until the flush that follows. -/
def finishQueued (w : Projector) (key : ProgressKey) (st : ProgressState) (p : ProgressSignal) :
    ProgressState :=
  let text := sanitizeProgressText cfg.chars p.text
  if text = "" then st else queueProgress (w.CanEmit key.1 st) text (countPayload cfg p.count) st

/-- The state has its last event. -/
def Projector.setFinished (w : Projector) (key : ProgressKey) : Projector :=
  match w.progress.lookup key with
  | some st => w.put key { st with finished := true }
  | none => w

/-- What is held back for the turn is shown, then the phase ends. -/
def endProgress (key : ProgressKey) (st : ProgressState) (p : ProgressSignal) (now : Seconds) :
    Effect (List PublicEvent) := do
  let flushed ← flush cfg now (some key.1) true
  let last ← lift (event cfg.chars st.taskRef
    (.progressEnd key.2 p.status (countPayload cfg p.count)))
  modify fun w => w.setFinished key
  return flushed.map Prod.snd ++ [last]

/-- `_project_progress` of a `finish`. -/
def finishProgress (key : ProgressKey) (st : ProgressState) (p : ProgressSignal) (now : Seconds) :
    Effect (List PublicEvent) := do
  let w ← get
  if st.started then
    set (w.put key (finishQueued cfg w key st p))
    endProgress cfg key st p now
  else
    set (w.put key (st.opened now))
    let first ← lift (event cfg.chars st.taskRef (.progressStart key.2 none none))
    set (w.put key (finishQueued cfg w key (st.opened now) p))
    return first :: (← endProgress cfg key st p now)

/-- `_project_progress` of the first signal of a phase that is not a `finish`. -/
def startProgress (key : ProgressKey) (st : ProgressState) (p : ProgressSignal) (now : Seconds) :
    Effect (List PublicEvent) := do
  let text := sanitizeProgressText cfg.chars p.text
  let w ← get
  if text ≠ "" ∧ w.CanEmit key.1 st then
    set (w.markEmitted key (st.opened now) text now)
    return [← lift (event cfg.chars st.taskRef
      (.progressStart key.2 (some text) (countPayload cfg p.count)))]
  else
    set (w.put key (st.opened now))
    return [← lift (event cfg.chars st.taskRef (.progressStart key.2 none none))]

/-- The text of an `append` is held back. -/
def appendQueued (w : Projector) (key : ProgressKey) (st : ProgressState) (p : ProgressSignal) :
    ProgressState :=
  queueProgress (w.CanEmit key.1 st) (sanitizeProgressText cfg.chars p.text)
    (countPayload cfg p.count) st

/-- The text of an `append` says nothing new. -/
def Repeats (st : ProgressState) (p : ProgressSignal) : Prop :=
  let text := sanitizeProgressText cfg.chars p.text
  text = "" ∨ text ∈ st.emittedTexts ∨ text ∈ st.pendingTexts

instance (st : ProgressState) (p : ProgressSignal) : Decidable (Repeats cfg st p) :=
  inferInstanceAs (Decidable (_ ∨ _ ∨ _))

/-- `_project_progress` of a later signal that is not a `finish`. -/
def appendProgress (key : ProgressKey) (st : ProgressState) (p : ProgressSignal) (now : Seconds) :
    Effect (List PublicEvent) := do
  let w ← get
  if Repeats cfg st p then
    set (w.put key { st with pendingCount := (countPayload cfg p.count).or st.pendingCount })
    return []
  else if st.Soon cfg now then
    set (w.put key (appendQueued cfg w key st p))
    return []
  else
    return (← emitPendingProgress cfg key (appendQueued cfg w key st p) now).toList

/-- `setdefault` of the state of a phase. -/
def Projector.stateOf (w : Projector) (key : ProgressKey) (taskRef : String) : ProgressState :=
  (w.progress.lookup key).getD (.new taskRef)

def projectProgress (turnId : String) (p : ProgressSignal) (taskRef : String) (now : Seconds) :
    Effect (List PublicEvent) := do
  let key := (turnId, p.phase)
  let w ← get
  let st := w.stateOf key taskRef
  set (w.put key st)
  lift (raiseIf (st.taskRef ≠ taskRef)
    (.value "one turn/phase cannot be projected under different task references"))
  if st.finished then return []
  else if p.operation = .finish then finishProgress cfg key st p now
  else if st.started then appendProgress cfg key st p now
  else startProgress cfg key st p now

def Projector.newAction (w : Projector) (turnId : String) (definition : PublicActionDefinition) :
    ActionState × Projector :=
  let number := w.nextActionNumber turnId + 1
  (⟨number, definition⟩,
    { w with nextActionNumber := Function.update w.nextActionNumber turnId number })

def Projector.groupedAction (w : Projector) (turnId : String)
    (definition : PublicActionDefinition) : ActionState × Projector :=
  match w.groupedActions (turnId, definition.group) with
  | some action => (action, w)
  | none =>
    let new := w.newAction turnId definition
    (new.1, { new.2 with
      groupedActions := Function.update w.groupedActions (turnId, definition.group) (some new.1) })

def Projector.setCall (w : Projector) (turnId callId : String) (action : ActionState) : Projector :=
  { w with actionsByCall := Function.update w.actionsByCall (turnId, callId) (some action) }

def Projector.actionOf (w : Projector) (turnId callId : String)
    (definition : PublicActionDefinition) : ActionState × Projector :=
  if definition.visibility = .grouped then
    let grouped := w.groupedAction turnId definition
    (grouped.1, grouped.2.setCall turnId callId grouped.1)
  else
    match w.actionsByCall (turnId, callId) with
    | some action => (action, w)
    | none =>
      let new := w.newAction turnId definition
      (new.1, new.2.setCall turnId callId new.1)

def actionBody (w : Projector) (turnId : String) (a : ActionSignal) : EventBody :=
  let definition := cfg.registry.resolve a.toolName
  .action a.operation (w.actionOf turnId a.callId definition).1.actionRef definition a.status
    (nonempty (sanitizeProgressText cfg.chars a.message)) (countPayload cfg a.count)

def projectAction (turnId : String) (a : ActionSignal) (taskRef : String) :
    Effect (List PublicEvent) := do
  let definition := cfg.registry.resolve a.toolName
  if definition.visibility = .silent then return []
  else
    let w ← get
    set (w.actionOf turnId a.callId definition).2
    return [← lift (event cfg.chars taskRef (actionBody cfg w turnId a))]

def sanitizeOption (o : InteractionOption) : InteractionOption :=
  { o with
    label := orText (sanitizeProgressText cfg.chars (some o.label)) "选项"
    description := nonempty (sanitizeProgressText cfg.chars o.description) }

def requestInputBody (r : RequestInputSignal) : EventBody :=
  let title := orText (sanitizeProgressText cfg.chars (some r.title)) "需要你的选择"
  let summary := orText (sanitizeProgressText cfg.chars (some r.summary))
    "继续前需要你的补充或确认。"
  .interactionRequired { r with title, summary, options := r.options.map (sanitizeOption cfg) }

def projectRequestInput (r : RequestInputSignal) (taskRef : String) :
    Effect (List PublicEvent) := do
  return [← lift (event cfg.chars taskRef (requestInputBody cfg r))]

/-- `[A-Za-z0-9.+-]+/[A-Za-z0-9.+-]+` -/
def mediaTypePattern : Regex :=
  let part := Regex.plus (.char fun c => c.isAlphanum || among ".+-" c)
  .concat [part, exact "/", part]

def artifactBody (a : ArtifactSignal) : EventBody :=
  .artifactReady a.artifactRef (orText (sanitizeProgressText cfg.chars (some a.label)) "处理结果")
    (a.mediaType.filter fun m => m ≠ "" && mediaTypePattern.fullMatch m.toList)

def projectArtifact (a : ArtifactSignal) (taskRef : String) : Effect (List PublicEvent) := do
  return [← lift (event cfg.chars taskRef (artifactBody cfg a))]

def finalFallback : TaskStatus → String
  | .completed => "任务已完成，你可以查看最新结果。"
  | .failed => "任务未能完成。请检查任务状态后重试。"
  | .waitingUser => "继续处理前需要你的补充或确认。"
  | .needsReplan => "当前处理方案需要调整后才能继续。"
  | .paused => "任务已暂停，需要时可以告诉我继续。"
  | .pausing => "任务正在安全暂停，稍后可以继续。"
  | .cancelling => "任务正在安全取消。"
  | .cancelled => "任务已取消。"
  | .superseded => "该任务已由新的处理请求替代。"
  | .active => "任务仍在处理中，后续进展会继续更新。"

def finalBody (f : FinalSignal) : EventBody :=
  .final (orText (sanitizeFinalText cfg.chars f.text) (finalFallback f.taskStatus)) f.taskStatus

def projectFinal (turnId : String) (f : FinalSignal) (taskRef : String) (now : Seconds) :
    Effect (List PublicEvent) := do
  let flushed ← flush cfg now (some turnId) true
  let last ← lift (event cfg.chars taskRef (finalBody cfg f))
  return flushed.map Prod.snd ++ [last]

/-- The branches of `project`. -/
def projectBody (s : Signal) (taskRef : String) (now : Seconds) : Effect (List PublicEvent) :=
  match s.body with
  | .internal _ => return []
  | .progress p => projectProgress cfg s.turnId p taskRef now
  | .action a => projectAction cfg s.turnId a taskRef
  | .requestInput r => projectRequestInput cfg r taskRef
  | .artifact a => projectArtifact cfg a taskRef
  | .final f => projectFinal cfg s.turnId f taskRef now

/-- `(parsed.web_session_id, parsed.signal_id)` -/
def Signal.key (s : Signal) : String × String := (s.webSessionId, s.signalId)

def projectParsed (s : Signal) (taskRef : String) (now : Seconds) :
    Effect (List PublicEvent) := do
  let w ← get
  if s.key ∈ w.seenSignals then return []
  else
    let events ← projectBody cfg s taskRef now
    modify fun w => { w with seenSignals := s.key :: w.seenSignals }
    return events

def project (s : Signal) (taskRef : String) (now : Seconds) : Effect (List PublicEvent) := do
  let parsed ← lift (validateSpecialistSignal s)
  projectParsed cfg parsed taskRef now

inductive Call
  | project (s : Signal) (taskRef : String) (now : Seconds)
  | flush (now : Seconds) (turnId : Option String) (force : Bool)

def Call.effect : Call → Effect (List (String × PublicEvent))
  | .project s taskRef now => do
    let events ← PublicContract.project cfg s taskRef now
    return events.map fun e => (trim s.turnId, e)
  | .flush now turnId force => PublicContract.flush cfg now turnId force

def projection :
    Service Projector Call (Except ProjectionError (List (String × PublicEvent))) :=
  ⟨fun call w => (call.effect cfg).exec w⟩

end DataJuicer.PublicContract

import DataJuicer.Lib.Transaction
import DataJuicer.PublicContract.PublicText

/-! # Signals of a specialist

What an agent adapter sends, and the strict models that it is validated with. A string is trimmed
before its length is checked.
-/

namespace DataJuicer.PublicContract

open Transaction

inductive Phase
  | setup
  | inspection
  | planning
  | preparation
  | extractSync
  | finishAssembly
  | humanDecision
  | annotation
  | tracking
  | projection
  | verification
  | generic
  deriving DecidableEq

def Phase.text : Phase → String
  | setup => "setup"
  | inspection => "inspection"
  | planning => "planning"
  | preparation => "preparation"
  | extractSync => "extract_sync"
  | finishAssembly => "finish_assembly"
  | humanDecision => "human_decision"
  | annotation => "annotation"
  | tracking => "tracking"
  | projection => "projection"
  | verification => "verification"
  | generic => "generic"

inductive TaskStatus
  | active
  | waitingUser
  | pausing
  | paused
  | cancelling
  | cancelled
  | completed
  | failed
  | needsReplan
  | superseded
  deriving DecidableEq

def TaskStatus.text : TaskStatus → String
  | active => "active"
  | waitingUser => "waiting_user"
  | pausing => "pausing"
  | paused => "paused"
  | cancelling => "cancelling"
  | cancelled => "cancelled"
  | completed => "completed"
  | failed => "failed"
  | needsReplan => "needs_replan"
  | superseded => "superseded"

inductive ProgressOperation
  | start
  | append
  | finish
  deriving DecidableEq

inductive ProgressStatus
  | running
  | completed
  | failed
  | interrupted
  deriving DecidableEq

def ProgressStatus.text : ProgressStatus → String
  | running => "running"
  | completed => "completed"
  | failed => "failed"
  | interrupted => "interrupted"

inductive ActionOperation
  | start
  | finish
  deriving DecidableEq

inductive ActionStatus
  | running
  | background
  | completed
  | failed
  | interrupted
  deriving DecidableEq

def ActionStatus.text : ActionStatus → String
  | running => "running"
  | background => "background"
  | completed => "completed"
  | failed => "failed"
  | interrupted => "interrupted"

inductive InteractionKind
  | highRiskConfirmation
  | singleSelect
  | multiSelect
  | calibrationPreview
  deriving DecidableEq

def InteractionKind.text : InteractionKind → String
  | highRiskConfirmation => "high_risk_confirmation"
  | singleSelect => "single_select"
  | multiSelect => "multi_select"
  | calibrationPreview => "calibration_preview"

inductive Risk
  | low
  | medium
  | high
  deriving DecidableEq

def Risk.text : Risk → String
  | low => "low"
  | medium => "medium"
  | high => "high"

structure CountFields where
  done : Option ℤ
  total : Option ℤ
  unit : Option String
  deriving DecidableEq

structure ProgressSignal where
  operation : ProgressOperation
  phase : Phase
  text : Option String
  status : ProgressStatus
  count : CountFields
  deriving DecidableEq

structure ActionSignal where
  operation : ActionOperation
  toolName : String
  callId : String
  status : ActionStatus
  message : Option String
  count : CountFields
  deriving DecidableEq

structure InteractionOption where
  optionId : String
  label : String
  description : Option String
  destructive : Bool
  deriving DecidableEq

structure RequestInputSignal where
  interactionRef : String
  interactionKind : InteractionKind
  blocking : Bool
  risk : Risk
  title : String
  summary : String
  options : List InteractionOption
  interactionRevision : ℤ
  expectedTaskRevision : ℤ
  expiresAt : Option String
  deriving DecidableEq

structure FinalSignal where
  text : String
  taskStatus : TaskStatus
  deriving DecidableEq

structure ArtifactSignal where
  artifactRef : String
  label : String
  mediaType : Option String
  internalPath : Option String
  deriving DecidableEq

inductive SignalBody
  | progress (p : ProgressSignal)
  | action (a : ActionSignal)
  | requestInput (r : RequestInputSignal)
  | final (f : FinalSignal)
  | artifact (a : ArtifactSignal)
  | internal (category : String)
  deriving DecidableEq

structure Signal where
  version : ℤ
  signalId : String
  sequence : ℤ
  webSessionId : String
  turnId : String
  taskId : String
  runId : String
  body : SignalBody
  deriving DecidableEq

inductive ProjectionError
  /-- A model is not valid at this field. -/
  | validation (field : String)
  | value (message : String)
  /-- A payload has these internal keys. -/
  | forbiddenKeys (keys : List String)
  deriving DecidableEq

/-- The white space that `str_strip_whitespace` removes. -/
def whiteSpace (c : Char) : Bool := space c && !('\x1c' ≤ c && c ≤ '\x1f')

/-- `str_strip_whitespace` -/
def trim (s : String) : String :=
  String.ofList ((s.toList.dropWhile whiteSpace).rdropWhile whiteSpace)

def LengthIn (lo hi : ℕ) (s : String) : Prop := lo ≤ s.toList.length ∧ s.toList.length ≤ hi

instance (lo hi : ℕ) (s : String) : Decidable (LengthIn lo hi s) :=
  inferInstanceAs (Decidable (_ ∧ _))

/-- `^[A-Za-z0-9_-]+$` -/
def IsRef (s : String) : Prop :=
  s.toList ≠ [] ∧ ∀ c ∈ s.toList, c.isAlphanum ∨ c = '_' ∨ c = '-'

instance : DecidablePred IsRef := fun s =>
  @instDecidableAnd _ _ inferInstance (List.decidableBAll _ s.toList)

def require (p : Prop) [Decidable p] (field : String) : Except ProjectionError Unit :=
  raiseIf (¬ p) (.validation field)

namespace CountFields

def trimmed (c : CountFields) : CountFields := { c with unit := c.unit.map trim }

/-- The fields and the first checks of `validate_count_and_operation` and `validate_action`. -/
def validate (c : CountFields) : Except ProjectionError Unit := do
  require (∀ n ∈ c.done, 0 ≤ n) "done"
  require (∀ n ∈ c.total, 0 < n) "total"
  require (∀ u ∈ c.unit, LengthIn 1 24 u) "unit"
  raiseIf (c.done.isNone ≠ c.total.isNone) (.value "done and total must be provided together")
  raiseIf (∃ n ∈ c.done, ∃ m ∈ c.total, m < n) (.value "done must not exceed total")
  raiseIf (c.unit ≠ none ∧ c.total = none) (.value "unit requires done and total")

end CountFields

def ProgressSignal.validate (p : ProgressSignal) : Except ProjectionError ProgressSignal := do
  let p := { p with text := p.text.map trim, count := p.count.trimmed }
  require (∀ t ∈ p.text, LengthIn 0 8000 t) "text"
  p.count.validate
  raiseIf (p.operation ≠ .finish ∧ p.status ≠ .running)
    (.value "only a finish progress signal may use a terminal status")
  return p

def ActionSignal.validate (a : ActionSignal) : Except ProjectionError ActionSignal := do
  let a := { a with
    toolName := trim a.toolName, callId := trim a.callId, message := a.message.map trim
    count := a.count.trimmed }
  require (LengthIn 1 200 a.toolName) "tool_name"
  require (LengthIn 1 512 a.callId) "call_id"
  require (∀ t ∈ a.message, LengthIn 0 8000 t) "message"
  a.count.validate
  raiseIf (a.operation = .start ∧ a.status ≠ .running)
    (.value "an action start must have running status")
  raiseIf (a.operation = .finish ∧ a.status = .running)
    (.value "an action finish must have a terminal status")
  return a

def InteractionOption.validate (o : InteractionOption) :
    Except ProjectionError InteractionOption := do
  let o := { o with
    optionId := trim o.optionId, label := trim o.label, description := o.description.map trim }
  require (LengthIn 1 200 o.optionId ∧ IsRef o.optionId) "option_id"
  require (LengthIn 1 160 o.label) "label"
  require (∀ t ∈ o.description, LengthIn 0 500 t) "description"
  return o

def RequestInputSignal.validate (r : RequestInputSignal) :
    Except ProjectionError RequestInputSignal := do
  let options ← r.options.mapM InteractionOption.validate
  let r := { r with
    interactionRef := trim r.interactionRef, title := trim r.title, summary := trim r.summary
    options, expiresAt := r.expiresAt.map trim }
  require (LengthIn 8 200 r.interactionRef ∧ IsRef r.interactionRef) "interaction_ref"
  require (LengthIn 1 300 r.title) "title"
  require (LengthIn 1 2000 r.summary) "summary"
  require (1 ≤ r.options.length ∧ r.options.length ≤ 20) "options"
  require (1 ≤ r.interactionRevision) "interaction_revision"
  require (0 ≤ r.expectedTaskRevision) "expected_task_revision"
  require (∀ t ∈ r.expiresAt, LengthIn 0 64 t) "expires_at"
  raiseIf (¬ (r.options.map InteractionOption.optionId).Nodup)
    (.value "option_id values must be unique")
  raiseIf (r.risk = .high ∧ r.blocking = false)
    (.value "a high-risk interaction must be blocking")
  return r

def FinalSignal.validate (f : FinalSignal) : Except ProjectionError FinalSignal := do
  let f := { f with text := trim f.text }
  require (LengthIn 0 40000 f.text) "text"
  return f

def ArtifactSignal.validate (a : ArtifactSignal) : Except ProjectionError ArtifactSignal := do
  let a := { a with
    artifactRef := trim a.artifactRef, label := trim a.label
    mediaType := a.mediaType.map trim, internalPath := a.internalPath.map trim }
  require (LengthIn 8 200 a.artifactRef ∧ IsRef a.artifactRef) "artifact_ref"
  require (LengthIn 1 300 a.label) "label"
  require (∀ t ∈ a.mediaType, LengthIn 0 120 t) "media_type"
  require (∀ t ∈ a.internalPath, LengthIn 0 8000 t) "internal_path"
  return a

def SignalBody.validate : SignalBody → Except ProjectionError SignalBody
  | progress p => progress <$> p.validate
  | action a => action <$> a.validate
  | requestInput r => requestInput <$> r.validate
  | final f => final <$> f.validate
  | artifact a => artifact <$> a.validate
  | internal category => do
    let category := trim category
    require (LengthIn 1 120 category) "category"
    return internal category

def validateSpecialistSignal (s : Signal) : Except ProjectionError Signal := do
  let body ← s.body.validate
  let s := { s with
    signalId := trim s.signalId, webSessionId := trim s.webSessionId, turnId := trim s.turnId
    taskId := trim s.taskId, runId := trim s.runId, body }
  require (s.version = 1) "version"
  require (LengthIn 1 200 s.signalId) "signal_id"
  require (0 ≤ s.sequence) "sequence"
  require (LengthIn 1 512 s.webSessionId) "web_session_id"
  require (LengthIn 1 512 s.turnId) "turn_id"
  require (LengthIn 1 512 s.taskId) "task_id"
  require (LengthIn 1 512 s.runId) "run_id"
  return s

end DataJuicer.PublicContract

import DataJuicer.Lib.PyValues
import DataJuicer.Lib.RoundedRationals
import DataJuicer.Lib.Transaction

/-! # Evaluation models

Cases, what is observed of their runs, and graded results, with what `model_dump` writes of them.
-/

namespace DataJuicer.Evaluation

/-- What the library does with texts and floats. -/
structure Texts where
  casefold : String → String
  upper : String → String
  /-- Capital letters are upper case already. -/
  upper_capitals : ∀ s, (∀ c ∈ s.toList, 'A' ≤ c ∧ c ≤ 'Z') → upper s = s
  /-- `repr` of a value of a JSON document -/
  repr : Json → String
  floatRepr : ℚ → String
  floatRepr_size : ∀ q, utf8Size (floatRepr q) ≤ 24

/-- `str` of a value of a JSON document -/
def Texts.str (texts : Texts) : Json → String
  | .str s => s
  | v => texts.repr v

def Texts.float (texts : Texts) (q : ℚ) : Json :=
  .float ⟨some q, texts.floatRepr q, texts.floatRepr_size q⟩

/-- What evaluation code raises. -/
inductive Failure
  | valueError (message : String)
  | overflowError
  | typeError
  | reportFormat (message : String)
  | incompatible (mismatches : List (String × Json × Json))

inductive HandoffOperation
  | start | proceed | stop | cancel | submitPlan

def HandoffOperation.value : HandoffOperation → String
  | .start => "start"
  | .proceed => "continue"
  | .stop => "stop"
  | .cancel => "cancel"
  | .submitPlan => "submit_plan"

inductive ScopeSource
  | requestContext | interpretedUserText

def ScopeSource.value : ScopeSource → String
  | .requestContext => "request_context"
  | .interpretedUserText => "interpreted_user_text"

inductive RequestedOutcome
  | auto | extractSync | postprocessing | postprocessingAndFix | trajectoryFix

def RequestedOutcome.value : RequestedOutcome → String
  | .auto => "auto"
  | .extractSync => "extract_sync"
  | .postprocessing => "postprocessing"
  | .postprocessingAndFix => "postprocessing_and_fix"
  | .trajectoryFix => "trajectory_fix"

inductive PlanPhase
  | extractSync | finishProcessing | trajectoryReview

def PlanPhase.value : PlanPhase → String
  | .extractSync => "extract_sync"
  | .finishProcessing => "finish_processing"
  | .trajectoryReview => "trajectory_review"

inductive Confidence
  | medium | high

def Confidence.value : Confidence → String
  | .medium => "medium"
  | .high => "high"

structure ExpectedHandoff where
  request : Option String
  target : Option String
  date : Option String
  clips : List String
  responseLanguage : Option String
  missingFields : List String
  allowedConfidence : List Confidence
  operation : Option HandoffOperation
  scopeSource : Option ScopeSource
  datasetDate : Option String
  selection : Option Dict
  status : Option String
  requestedOutcome : Option RequestedOutcome
  phase : Option PlanPhase
  decisionModes : Option (List (String × String))
  stepActions : Option (List String)
  stepVariants : Option (List (String × String))
  linkedFix : Option Bool
  forbiddenFields : List String

def strings (items : List String) : Json := .arr (items.map .str)

def stringDict (entries : List (String × String)) : Json :=
  .obj (entries.map fun e => (e.1, .str e.2))

def optional {α : Type} (f : α → Json) (x : Option α) : Json := (x.map f).getD .null

/-- `getattr(expected, field)` -/
def ExpectedHandoff.getattr (e : ExpectedHandoff) : String → Json
  | "request" => optional .str e.request
  | "target" => optional .str e.target
  | "date" => optional .str e.date
  | "clips" => strings e.clips
  | "response_language" => optional .str e.responseLanguage
  | "missing_fields" => strings e.missingFields
  | "operation" => optional (fun o => .str o.value) e.operation
  | "scope_source" => optional (fun s => .str s.value) e.scopeSource
  | "dataset_date" => optional .str e.datasetDate
  | "selection" => optional .obj e.selection
  | "status" => optional .str e.status
  | "requested_outcome" => optional (fun o => .str o.value) e.requestedOutcome
  | "phase" => optional (fun p => .str p.value) e.phase
  | "decision_modes" => optional stringDict e.decisionModes
  | "step_actions" => optional strings e.stepActions
  | "step_variants" => optional stringDict e.stepVariants
  | "linked_fix" => optional .bool e.linkedFix
  | _ => .null

structure CaseLimits where
  maxModelCalls : ℕ
  maxToolCalls : ℕ

structure ToolExpectations where
  allowedCalls : List String
  requiredCounts : List (String × ℕ)
  handoffCount : ℕ
  handoff : Option ExpectedHandoff
  /-- The counts are a dict. -/
  keys : (requiredCounts.map Prod.fst).Nodup

inductive Language
  | chinese | english

def Language.value : Language → String
  | .chinese => "Chinese"
  | .english => "English"

structure ResponseExpectations where
  language : Option Language
  allowEmpty : Bool
  requiredAnyGroups : List (List String)
  forbiddenTerms : List String
  requireQuestion : Bool
  maxChars : Option ℕ

/-- `^[a-z][a-z0-9_-]*$` -/
def isCaseName (s : String) : Bool :=
  match s.toList with
  | [] => false
  | c :: cs => c.isLower && cs.all fun c => c.isLower || c.isDigit || c = '_' || c = '-'

structure EvaluationCase where
  id : String
  suite : String
  limits : CaseLimits
  tools : ToolExpectations
  response : ResponseExpectations
  id_name : isCaseName id
  suite_name : isCaseName suite

structure ToolCallObservation where
  name : String
  arguments : Dict
  result : Json
  blocked : Bool

structure TokenUsage where
  inputTokens : ℕ
  outputTokens : ℕ
  totalTokens : ℕ

structure CaseRunObservation where
  finalResponse : String
  toolCalls : List ToolCallObservation
  forbiddenCalls : List String
  handoffs : List Dict
  events : List Dict
  visibleToolSets : List (List String)
  tokenUsage : TokenUsage
  modelCalls : ℕ
  durationMs : ℕ
  metadata : Dict

def ToolCallObservation.modelDump (c : ToolCallObservation) : Json :=
  .obj [("name", .str c.name), ("arguments", .obj c.arguments), ("result", c.result),
    ("blocked", .bool c.blocked)]

def TokenUsage.modelDump (u : TokenUsage) : Json :=
  .obj [("input_tokens", .int u.inputTokens), ("output_tokens", .int u.outputTokens),
    ("total_tokens", .int u.totalTokens)]

def CaseRunObservation.modelDump (o : CaseRunObservation) : Json :=
  .obj [("final_response", .str o.finalResponse),
    ("tool_calls", .arr (o.toolCalls.map ToolCallObservation.modelDump)),
    ("forbidden_calls", strings o.forbiddenCalls), ("handoffs", .arr (o.handoffs.map .obj)),
    ("events", .arr (o.events.map .obj)),
    ("visible_tool_sets", .arr (o.visibleToolSets.map strings)),
    ("token_usage", o.tokenUsage.modelDump), ("model_calls", .int o.modelCalls),
    ("duration_ms", .int o.durationMs), ("metadata", .obj o.metadata)]

inductive EvaluationStatus
  | pass | fail | timeout | error
  deriving DecidableEq

def EvaluationStatus.value : EvaluationStatus → String
  | .pass => "PASS"
  | .fail => "FAIL"
  | .timeout => "TIMEOUT"
  | .error => "ERROR"

/-- The members, in the order of their definition. -/
def statuses : List EvaluationStatus := [.pass, .fail, .timeout, .error]

structure GradingCheck where
  name : String
  passed : Bool
  message : String

def GradingCheck.modelDump (c : GradingCheck) : Json :=
  .obj [("name", .str c.name), ("passed", .bool c.passed), ("message", .str c.message)]

/-- A result; its producers write integers for the metrics. -/
structure CaseResult where
  caseId : String
  suite : String
  repeatIndex : ℕ+
  status : EvaluationStatus
  checks : List GradingCheck
  observation : Option CaseRunObservation
  errorType : Option String
  errorMessage : Option String
  metrics : List (String × ℤ)
  metadata : Dict

def CaseResult.modelDump (r : CaseResult) : Dict :=
  [("case_id", .str r.caseId), ("suite", .str r.suite), ("repeat_index", .int r.repeatIndex),
    ("status", .str r.status.value), ("checks", .arr (r.checks.map GradingCheck.modelDump)),
    ("observation", optional CaseRunObservation.modelDump r.observation),
    ("error_type", optional .str r.errorType), ("error_message", optional .str r.errorMessage),
    ("metrics", .obj (r.metrics.map fun m => (m.1, .int m.2))), ("metadata", .obj r.metadata)]

def CaseResult.timeout (case : EvaluationCase) (repeatIndex : ℕ+) (message : String)
    (observation : Option CaseRunObservation) : CaseResult where
  caseId := case.id
  suite := case.suite
  repeatIndex
  status := .timeout
  checks := []
  observation
  errorType := some "TimeoutError"
  errorMessage := some message
  metrics := []
  metadata := []

/-- `BaseException | str` -/
inductive RaisedError
  | exception (typeName : String) (text : String)
  | text (s : String)

def CaseResult.error (case : EvaluationCase) (error : RaisedError) (repeatIndex : ℕ+)
    (observation : Option CaseRunObservation) : CaseResult where
  caseId := case.id
  suite := case.suite
  repeatIndex
  status := .error
  checks := []
  observation
  errorType := some (match error with
    | .exception typeName _ => typeName
    | .text _ => "EvaluationError")
  errorMessage := some (match error with
    | .exception _ text => text
    | .text s => s)
  metrics := []
  metadata := []

end DataJuicer.Evaluation

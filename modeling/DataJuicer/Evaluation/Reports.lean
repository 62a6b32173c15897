import DataJuicer.Evaluation.Models

/-! # Reports

The stability of the attempts of a case and their summary, and the two reports that are written of
the results of a run.
-/

namespace DataJuicer.Evaluation

open Transaction

inductive StabilityStatus
  | error | timeout | singleSample | stablePass | stableFail | flaky
  deriving DecidableEq

def StabilityStatus.value : StabilityStatus → String
  | .error => "ERROR"
  | .timeout => "TIMEOUT"
  | .singleSample => "SINGLE_SAMPLE"
  | .stablePass => "STABLE_PASS"
  | .stableFail => "STABLE_FAIL"
  | .flaky => "FLAKY"

def stabilityStatuses : List StabilityStatus :=
  [.error, .timeout, .singleSample, .stablePass, .stableFail, .flaky]

/-- `result.error_type or "EvaluationError"` -/
def errorTypeText (errorType : Option String) : String :=
  match errorType with
  | none | some "" => "EvaluationError"
  | some s => s

def failureSignatures (r : CaseResult) : List String :=
  match r.status with
  | .timeout => ["timeout"]
  | .error => ["error:" ++ errorTypeText r.errorType]
  | .fail => ((r.checks.filter fun c => !c.passed).map
      GradingCheck.name).dedup.insertionSort (· ≤ ·)
  | .pass => []

def classifyStability (attempts : List CaseResult) : Except Failure StabilityStatus := do
  raiseIf (attempts = []) (.valueError "cannot classify an empty result set")
  let found := attempts.map CaseResult.status
  return if .error ∈ found then .error
    else if .timeout ∈ found then .timeout
    else if found.length = 1 then .singleSample
    else if ∀ s ∈ found, s = .pass then .stablePass
    else if ∀ s ∈ found, s = .fail then .stableFail
    else .flaky

inductive Metric
  | durationMs | inputTokens | outputTokens | totalTokens

def Metric.value : Metric → String
  | .durationMs => "duration_ms"
  | .inputTokens => "input_tokens"
  | .outputTokens => "output_tokens"
  | .totalTokens => "total_tokens"

def metricValue (r : CaseResult) (name : Metric) : ℤ :=
  match r.metrics.lookup name.value, r.observation with
  | some n, _ => n
  | none, none => 0
  | none, some o =>
    match name with
    | .durationMs => o.durationMs
    | .inputTokens => o.tokenUsage.inputTokens
    | .outputTokens => o.tokenUsage.outputTokens
    | .totalTokens => o.tokenUsage.totalTokens

/-- `a / b` of integers -/
def trueDivide (a : ℤ) (b : ℕ) : Except Failure ℚ :=
  let q := roundRat (a / b)
  if |q| < 2 ^ 1024 then .ok q else .error .overflowError

structure MetricStatistics where
  min : ℤ
  median : Json
  max : ℤ

def MetricStatistics.modelDump (s : MetricStatistics) : Json :=
  .obj [("min", .int s.min), ("median", s.median), ("max", .int s.max)]

section

variable (texts : Texts)

/-- `statistics.median` of integers -/
def median (values : List ℤ) : Except Failure Json :=
  let data := values.insertionSort (· ≤ ·)
  let n := data.length
  if n % 2 = 1 then .ok (.int (data.getD (n / 2) 0))
  else do
    let q ← trueDivide (data.getD (n / 2 - 1) 0 + data.getD (n / 2) 0) 2
    return texts.float q

/-- `_statistics` of the first value and the other ones -/
def statistics (first : ℤ) (rest : List ℤ) : Except Failure MetricStatistics := do
  let m ← median texts (first :: rest)
  return ⟨rest.foldl min first, m, rest.foldl max first⟩

structure CaseStabilitySummary where
  caseId : String
  suite : String
  attempts : ℕ
  stabilityStatus : StabilityStatus
  statusCounts : EvaluationStatus → ℕ
  passRate : ℚ
  failureSignatures : List (String × ℕ)
  durationMs : MetricStatistics
  inputTokens : MetricStatistics
  outputTokens : MetricStatistics
  totalTokens : MetricStatistics

def countsDump (counts : EvaluationStatus → ℕ) : Json :=
  .obj (statuses.map fun s => (s.value, .int (counts s)))

def signatureDump (signatures : List (String × ℕ)) : Json :=
  .obj (signatures.map fun e => (e.1, .int e.2))

def CaseStabilitySummary.modelDump (s : CaseStabilitySummary) : Dict :=
  [("case_id", .str s.caseId), ("suite", .str s.suite), ("attempts", .int s.attempts),
    ("stability_status", .str s.stabilityStatus.value),
    ("status_counts", countsDump s.statusCounts), ("pass_rate", texts.float s.passRate),
    ("failure_signatures", signatureDump s.failureSignatures),
    ("duration_ms", s.durationMs.modelDump), ("input_tokens", s.inputTokens.modelDump),
    ("output_tokens", s.outputTokens.modelDump), ("total_tokens", s.totalTokens.modelDump)]

def statusCount (results : List CaseResult) (s : EvaluationStatus) : ℕ :=
  (results.map CaseResult.status).count s

/-- `Counter` of the signatures of all attempts -/
def signatureCounts (attempts : List CaseResult) : List (String × ℕ) :=
  tally (attempts.flatMap failureSignatures)

def summarizeCaseResults : List CaseResult → Except Failure CaseStabilitySummary
  | [] => .error (.valueError "cannot summarize an empty result set")
  | first :: rest => do
    let attempts := first :: rest
    raiseIf (∃ r ∈ rest, r.suite ≠ first.suite ∨ r.caseId ≠ first.caseId)
      (.valueError "case stability summary requires one suite and case id")
    let statisticsOf := fun name =>
      statistics texts (metricValue first name) (rest.map (metricValue · name))
    let durationMs ← statisticsOf .durationMs
    let inputTokens ← statisticsOf .inputTokens
    let outputTokens ← statisticsOf .outputTokens
    let totalTokens ← statisticsOf .totalTokens
    let stabilityStatus ← classifyStability attempts
    let passRate ← trueDivide (statusCount attempts .pass) attempts.length
    return {
      caseId := first.caseId
      suite := first.suite
      attempts := attempts.length
      stabilityStatus
      statusCounts := statusCount attempts
      passRate
      failureSignatures := sortedItems (signatureCounts attempts)
      durationMs
      inputTokens
      outputTokens
      totalTokens }

def keyLe (a b : String × String) : Bool := a.1 < b.1 || a.1 = b.1 && a.2 ≤ b.2

def summarizeResults (results : List CaseResult) : Except Failure (List CaseStabilitySummary) :=
  ((collect (fun r => (r.suite, r.caseId)) results).insertionSort fun x y =>
      keyLe x.1 y.1).mapM fun group =>
    summarizeCaseResults texts (group.2.insertionSort fun r s => r.repeatIndex ≤ s.repeatIndex)

def totals (results : List CaseResult) (summaries : List CaseStabilitySummary) : Dict :=
  let found := summaries.map CaseStabilitySummary.stabilityStatus
  [("total", .int results.length), ("case_count", .int summaries.length),
    ("status_counts", countsDump (statusCount results)),
    ("stability_counts", .obj (stabilityStatuses.map fun s => (s.value, .int (found.count s))))]

def summaryPayload (results : List CaseResult) : Except Failure (Dict × List Json) := do
  let summaries ← summarizeResults texts results
  return (totals results summaries, summaries.map fun s => .obj (s.modelDump texts))

def buildAggregateReport (results : List CaseResult) (runMetadata : Option Dict) :
    Except Failure Dict := do
  let (summary, caseSummaries) ← summaryPayload texts results
  return [("schema_version", .int 2), ("run_metadata", .obj (runMetadata.getD [])),
    ("summary", .obj summary), ("case_summaries", .arr caseSummaries),
    ("results", .arr (results.map fun r => .obj r.modelDump))]

def allowedMetadata : List String :=
  ["schema_version", "evaluation_contract_version", "git_commit", "model", "model_parameters",
    "agentscope_version", "cases_sha256", "prompt_sha256", "tool_schema_sha256"]

def compactResult (r : CaseResult) : Dict :=
  let metrics : Dict := r.metrics.map fun m => (m.1, .int m.2)
  [("case_id", .str r.caseId), ("suite", .str r.suite), ("repeat_index", .int r.repeatIndex),
    ("status", .str r.status.value),
    ("metrics", .obj (match r.observation with
      | none => metrics
      | some o => Json.set (Json.set (Json.set metrics "event_count" (.int o.events.length))
        "handoff_count" (.int o.handoffs.length)) "response_chars" (.int o.finalResponse.length))),
    ("failure_signatures", strings (failureSignatures r)),
    ("error_type", optional .str r.errorType)]

def buildBaselineReport (results : List CaseResult) (runMetadata : Option Dict) :
    Except Failure Dict := do
  let (summary, caseSummaries) ← summaryPayload texts results
  return [("schema_version", .int 2),
    ("run_metadata", .obj ((runMetadata.getD []).filter fun e => e.1 ∈ allowedMetadata)),
    ("summary", .obj summary), ("case_summaries", .arr caseSummaries),
    ("results", .arr (results.map fun r => .obj (compactResult r)))]

end

end DataJuicer.Evaluation

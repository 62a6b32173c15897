import DataJuicer.Evaluation.Reports
import DataJuicer.Lib.Sha256

/-! # Comparison

A report of either version is normalized to one summary for each case, and two reports of one suite
are compared case by case.
-/

namespace DataJuicer.Evaluation

open Transaction

structure NormalizedCaseSummary where
  caseId : String
  attempts : ℕ
  statusCounts : EvaluationStatus → ℕ
  passRate : ℚ
  stabilityStatus : StabilityStatus
  failureSignatures : List (String × ℕ)

abbrev Cases := List (String × NormalizedCaseSummary)

structure NormalizedReport where
  schemaVersion : ℕ
  suite : String
  metadata : Dict
  cases : Cases

/-- `value.get(key, default)` -/
def getD (d : Dict) (key : String) (default : Json) : Json := (d.lookup key).getD default

def legacyFailureSignature (reason : String) : String :=
  "legacy:" ++ String.ofList ((Sha256.hexdigest reason).toList.take 16)

def integer (v : Json) (field : String) : Except Failure ℕ :=
  match v with
  | .int n => do
    raiseIf (n < 0) (.reportFormat (field ++ " cannot be negative"))
    return n.toNat
  | _ => .error (.reportFormat (field ++ " must be an integer"))

def readStatusCounts (v : Json) (field : String) : Except Failure (EvaluationStatus → ℕ) :=
  match v with
  | .obj d => do
    let count := fun s : EvaluationStatus =>
      integer (getD d s.value (.int 0)) (field ++ "." ++ s.value)
    let pass ← count .pass
    let fail ← count .fail
    let timeout ← count .timeout
    let error ← count .error
    return fun
      | .pass => pass
      | .fail => fail
      | .timeout => timeout
      | .error => error
  | _ => .error (.reportFormat (field ++ " must be an object"))

def total (counts : EvaluationStatus → ℕ) : ℕ := (statuses.map counts).sum

def deriveStability (counts : EvaluationStatus → ℕ) (attempts : ℕ) : StabilityStatus :=
  if counts .error ≠ 0 then .error
  else if counts .timeout ≠ 0 then .timeout
  else if attempts = 1 then .singleSample
  else if counts .pass = attempts then .stablePass
  else if counts .fail = attempts then .stableFail
  else .flaky

def addSignature (field : String) (parsed : List (String × ℕ)) (entry : String × Json) :
    Except Failure (List (String × ℕ)) := do
  let count ← integer entry.2 (field ++ "." ++ entry.1)
  return if 0 < count then upsert parsed entry.1 fun _ => count else parsed

def countSignature (field : String) (counts : List (String × ℕ)) (item : Json) :
    Except Failure (List (String × ℕ)) :=
  match item with
  | .str s => .ok (upsert counts s fun n => n.getD 0 + 1)
  | .obj d =>
    match (Json.get d "signature").or (Json.get d "name") with
    | .str signature => do
      raiseIf (signature = "") (.reportFormat (field ++ " entries require a signature"))
      let n ← integer (getD d "count" (.int 1)) (field ++ "." ++ signature)
      return upsert counts signature fun m => m.getD 0 + n
    | _ => .error (.reportFormat (field ++ " entries require a signature"))
  | _ => .error (.reportFormat (field ++ " entries must be strings or objects"))

def failureSignatureCounts (v : Json) (field : String) : Except Failure (List (String × ℕ)) :=
  match v with
  | .null => .ok []
  | .obj d => do return sortedItems (← d.foldlM (addSignature field) [])
  | .arr items => do return sortedItems (← items.foldlM (countSignature field) [])
  | _ => .error (.reportFormat (field ++ " must be an object or list"))

def v2CaseSummaries (payload : Dict) : Json :=
  match Json.get payload "case_summaries", Json.get payload "summary" with
  | .null, .obj summary => Json.get summary "case_summaries"
  | .null, _ => .null
  | direct, _ => direct

section

variable (texts : Texts)

/-- A reported pass rate as a float. -/
def readRate (v : Json) (caseId : String) : Except Failure ℚ :=
  let numeric : Failure :=
    .reportFormat ("case summary " ++ texts.repr (.str caseId) ++ " pass_rate must be numeric")
  match v with
  | .int n => do
    raiseIf (Json.floatLimit ≤ n.natAbs) .overflowError
    raiseIf (n < 0 ∨ 1 < n) numeric
    return n
  | .float ⟨some q, _, _⟩ => do
    raiseIf (q < 0 ∨ 1 < q) numeric
    return q
  | _ => .error numeric

def someText : Json → Option String
  | .str s => if s = "" then none else some s
  | _ => none

/-- `1e-9` -/
def rateTolerance : ℚ := roundRat (1 / 10 ^ 9)

def readSummary (caseId : String) (entry : Dict) : Except Failure NormalizedCaseSummary := do
  let name := texts.repr (.str caseId)
  let counts ← readStatusCounts (getD entry "status_counts" (.obj []))
    ("case_summaries." ++ caseId ++ ".status_counts")
  let attempts ← integer (getD entry "attempts" (.int (total counts)))
    ("case_summaries." ++ caseId ++ ".attempts")
  raiseIf (attempts = 0 ∨ attempts ≠ total counts)
    (.reportFormat ("case summary " ++ name ++ " attempts must equal its status count total"))
  let calculated := roundRat (counts .pass / attempts)
  let reported ← readRate texts (getD entry "pass_rate" (texts.float calculated)) caseId
  raiseIf (rateTolerance < |roundRat (reported - calculated)|)
    (.reportFormat ("case summary " ++ name ++ " has inconsistent pass_rate"))
  let expected := deriveStability counts attempts
  let stability := match getD entry "stability_status" (Json.get entry "stability") with
    | .null => .str expected.value
    | v => v
  raiseIf (someText stability = none)
    (.reportFormat ("case summary " ++ name ++ " has invalid stability status"))
  -- The source compares the two twice.
  raiseIf (stability ≠ .str expected.value)
    (.reportFormat ("case summary " ++ name ++ " has inconsistent stability status"))
  let signatures ← failureSignatureCounts (getD entry "failure_signatures" (.obj []))
    ("case_summaries." ++ caseId ++ ".failure_signatures")
  return ⟨caseId, attempts, counts, calculated, expected, signatures⟩

def addSummary (normalized : Cases) (entry : Json) : Except Failure Cases :=
  match entry with
  | .obj d =>
    match (Json.get d "case_id").or (Json.get d "id") with
    | .str caseId => do
      raiseIf (caseId = "") (.reportFormat "case summary requires a non-empty case_id")
      raiseIf (caseId ∈ normalized.map Prod.fst)
        (.reportFormat ("duplicate case summary " ++ texts.repr (.str caseId)))
      let summary ← readSummary texts caseId d
      return upsert normalized caseId fun _ => summary
    | _ => .error (.reportFormat "case summary requires a non-empty case_id")
  | _ => .error (.reportFormat "case_summaries entries must be objects")

/-- An entry of case summaries by id. -/
def keyedEntry (e : String × Json) : Except Failure Json :=
  match e.2 with
  | .obj summary =>
    .ok (.obj (summary.foldl (fun d f => Json.set d f.1 f.2) [("case_id", .str e.1)]))
  | _ => .error (.reportFormat "case_summaries values must be objects")

def normalizeV2Cases (v : Json) : Except Failure Cases := do
  let entries ← match v with
    | .obj d => d.mapM keyedEntry
    | .arr items => .ok items
    | _ => .error (.reportFormat "case_summaries must be an object or list")
  let normalized ← entries.foldlM (addSummary texts) []
  raiseIf (normalized = []) (.reportFormat "evaluation report contains no case summaries")
  return normalized

def failedName : Json → Option String
  | .obj c => if Json.get c "passed" = .bool false then someText (Json.get c "name") else none
  | _ => none

/-- `failure_reasons`, or else the error message -/
def failureReasons (result : Dict) : Json :=
  match Json.get result "failure_reasons", Json.get result "error_message" with
  | .arr reasons, _ => .arr reasons
  | other, message => if message.truthy then .arr [message] else other

def itemsOf : Json → List Json
  | .arr items => items
  | _ => []

def resultFailureSignatures (result : Dict) : EvaluationStatus → List String
  | .timeout => ["timeout"]
  | .error => ["error:" ++
      texts.str ((Json.get result "error_type").or (.str "EvaluationError"))]
  | .pass => []
  | .fail =>
    let names := (itemsOf (Json.get result "checks")).filterMap failedName
    let recorded := (itemsOf (Json.get result "failure_signatures")).filterMap someText
    if names ≠ [] then names
    else if recorded ≠ [] then recorded
    else ((itemsOf (failureReasons result)).filterMap someText).map legacyFailureSignature

def readCase : Json → Except Failure (String × Dict)
  | .obj result =>
    match Json.get result "case_id" with
    | .str caseId => do
      raiseIf (caseId = "") (.reportFormat "evaluation result requires a non-empty case_id")
      return (caseId, result)
    | _ => .error (.reportFormat "evaluation result requires a non-empty case_id")
  | _ => .error (.reportFormat "results entries must be objects")

def readStatus (caseId : String) (result : Dict) : Except Failure EvaluationStatus :=
  let status := texts.upper (texts.str (getD result "status" (.str "")))
  orRaise (.reportFormat ("case " ++ texts.repr (.str caseId) ++ " has unknown status " ++
      texts.repr (.str status)))
    (statuses.find? fun s => s.value = status)

def summarizeResultsOf (caseId : String) (results : List Dict) :
    Except Failure NormalizedCaseSummary := do
  let found ← results.mapM (readStatus texts caseId)
  let counts := fun s => found.count s
  let signatures := (results.zip found).flatMap fun r => resultFailureSignatures texts r.1 r.2
  return ⟨caseId, results.length, counts, roundRat (counts .pass / results.length),
    deriveStability counts results.length, sortedItems (tally signatures)⟩

def normalizeV1Cases (payload : Dict) : Except Failure Cases := do
  let results := itemsOf (Json.get payload "results")
  raiseIf (results = [])
    (.reportFormat "evaluation report contains neither results nor case_summaries")
  let read ← results.mapM readCase
  (collect Prod.fst read).mapM fun group => do
    return (group.1, ← summarizeResultsOf texts group.1 (group.2.map Prod.snd))

def declaredSuite : Json → Option String
  | .obj d =>
    match Json.get d "suite" with
    | .str s => some s
    | _ => none
  | _ => none

/-- What a loop over `payload.get("results", [])` meets. -/
def resultEntries (payload : Dict) : Except Failure (List Json) :=
  match getD payload "results" (.arr []) with
  | .arr items => .ok items
  | .str _ | .obj _ => .ok []
  | _ => .error .typeError

def summaryEntries : Json → List Json
  | .arr items => items
  | .obj d => d.map Prod.snd
  | _ => []

def reportSuite (named : Json) (declared : List String) : Except Failure String := do
  let suite := if named = .null ∧ declared.dedup.length = 1 then optional .str declared.head?
    else named
  match suite with
  | .str s => do
    raiseIf (s = "") (.reportFormat "evaluation report does not identify its suite")
    raiseIf (∃ t ∈ declared, t ≠ s) (.reportFormat "evaluation report contains inconsistent suites")
    return s
  | _ => .error (.reportFormat "evaluation report does not identify its suite")

def normalizeReport (payload : Json) : Except Failure NormalizedReport :=
  match payload with
  | .obj payload => do
    let schemaVersion ← integer (getD payload "schema_version" (.int 1)) "schema_version"
    raiseIf (schemaVersion ≠ 1 ∧ schemaVersion ≠ 2)
      (.reportFormat ("unsupported evaluation report schema_version " ++ toString schemaVersion))
    match getD payload "run_metadata" (.obj []) with
    | .obj metadata => do
      let summaries := v2CaseSummaries payload
      let cases ← if summaries ≠ .null then normalizeV2Cases texts summaries
        else normalizeV1Cases texts payload
      let results ← resultEntries payload
      let suite ← reportSuite ((Json.get payload "suite").or (Json.get metadata "suite"))
        ((results ++ summaryEntries summaries).filterMap declaredSuite)
      return ⟨schemaVersion, suite,
        if "suite" ∈ metadata.map Prod.fst then metadata else metadata ++ [("suite", .str suite)],
        cases⟩
    | _ => .error (.reportFormat "run_metadata must be an object")
  | _ => .error (.reportFormat "evaluation report must be an object")

end

def compatibilityFields : List String :=
  ["suite", "evaluation_contract_version", "cases_sha256", "model", "model_parameters",
    "agentscope_version"]

def changeFields : List String := ["git_commit", "prompt_sha256", "tool_schema_sha256"]

def compatibilityValue (r : NormalizedReport) (field : String) : Json :=
  if field = "suite" then .str r.suite
  else if field = "evaluation_contract_version" then getD r.metadata field (.int 1)
  else Json.get r.metadata field

/-- `_canonical`; an integer of too many digits raises. -/
def canonicalText (v : Json) : Except Failure PyStr :=
  orRaise (.valueError "Exceeds the limit (4300 digits) for integer string conversion") v.canonical

/-- Whether the values have different canonical texts. -/
def differ (x y : Json) : Except Failure Bool := do
  let s ← canonicalText x
  let t ← canonicalText y
  return s ≠ t

/-- Whether two reports cannot be compared for a value. -/
def mismatch (x y : Json) : Except Failure Bool :=
  if x = .null ∨ y = .null then .ok true else differ x y

def fieldsWhere (test : Json → Json → Except Failure Bool) (value : String → Json × Json)
    (fields : List String) : Except Failure (List (String × Json × Json)) := do
  let found ← fields.mapM fun field => do
    return if ← test (value field).1 (value field).2 then [(field, value field)] else []
  return found.flatten

def versionChanges (baseline candidate : NormalizedReport) :
    Except Failure (List (String × Json × Json)) :=
  fieldsWhere differ
    (fun field => (Json.get baseline.metadata field, Json.get candidate.metadata field))
    changeFields

inductive Verdict
  | improved | regressed | unchanged
  deriving DecidableEq

structure CaseComparison where
  caseId : String
  verdict : Verdict
  baseline : NormalizedCaseSummary
  candidate : NormalizedCaseSummary
  passRateDelta : ℚ
  stabilityChanged : Bool
  signaturesComparable : Bool
  signaturesAdded : List String
  signaturesRemoved : List String
  countChanges : List (String × ℕ × ℕ)
  infrastructureError : Bool
  timeout : Bool

def signaturesOf (s : NormalizedCaseSummary) : List String := s.failureSignatures.map Prod.fst

/-- Whether a signature is the digest of a reason of the first version. -/
def usesLegacy (s : NormalizedCaseSummary) : Bool :=
  (signaturesOf s).any fun signature => "legacy:".toList <+: signature.toList

def occurrences (s : NormalizedCaseSummary) (signature : String) : ℕ :=
  (s.failureSignatures.lookup signature).getD 0

def compareCase (caseId : String) (before after : NormalizedCaseSummary) : CaseComparison :=
  let comparable := ¬ (signaturesOf before ≠ [] ∧ signaturesOf after ≠ [] ∧
    usesLegacy before ≠ usesLegacy after)
  { caseId
    verdict := if before.passRate < after.passRate then .improved
      else if after.passRate < before.passRate then .regressed
      else .unchanged
    baseline := before
    candidate := after
    passRateDelta := roundRat (after.passRate - before.passRate)
    stabilityChanged := before.stabilityStatus ≠ after.stabilityStatus
    signaturesComparable := comparable
    signaturesAdded := if comparable then
        ((signaturesOf after).filter fun s => s ∉ signaturesOf before).insertionSort (· ≤ ·)
      else []
    signaturesRemoved := if comparable then
        ((signaturesOf before).filter fun s => s ∉ signaturesOf after).insertionSort (· ≤ ·)
      else []
    countChanges := if comparable then
        (((signaturesOf before ++ signaturesOf after).dedup.insertionSort (· ≤ ·)).filter fun s =>
          occurrences before s ≠ occurrences after s).map fun s =>
            (s, occurrences before s, occurrences after s)
      else []
    infrastructureError := 0 < after.statusCounts .error
    timeout := 0 < after.statusCounts .timeout }

structure Comparison where
  versionChanges : List (String × Json × Json)
  caseCount : ℕ
  verdictCounts : Verdict → ℕ
  regressedCases : List String
  candidateErrorCases : List String
  candidateTimeoutCases : List String
  hasBehaviorRegression : Bool
  hasInfrastructureError : Bool
  cases : List CaseComparison

def caseIds (r : NormalizedReport) : List String :=
  (r.cases.map Prod.fst).insertionSort (· ≤ ·)

/-- What keeps two reports from being compared. -/
def mismatches (baseline candidate : NormalizedReport) :
    Except Failure (List (String × Json × Json)) := do
  let fields ← fieldsWhere mismatch
    (fun field => (compatibilityValue baseline field, compatibilityValue candidate field))
    compatibilityFields
  return fields ++
    if caseIds baseline ⊆ caseIds candidate ∧ caseIds candidate ⊆ caseIds baseline then []
    else [("case_ids", strings (caseIds baseline), strings (caseIds candidate))]

def compareCases (baseline candidate : NormalizedReport) : List CaseComparison :=
  (caseIds baseline).filterMap fun caseId => do
    return compareCase caseId (← baseline.cases.lookup caseId) (← candidate.cases.lookup caseId)

def Comparison.ofCases (changes : List (String × Json × Json)) (cases : List CaseComparison) :
    Comparison :=
  let regressed := (cases.filter fun c => c.verdict = .regressed).map CaseComparison.caseId
  let errors := (cases.filter CaseComparison.infrastructureError).map CaseComparison.caseId
  let timeouts := (cases.filter CaseComparison.timeout).map CaseComparison.caseId
  { versionChanges := changes
    caseCount := cases.length
    verdictCounts := fun v => (cases.map CaseComparison.verdict).count v
    regressedCases := regressed
    candidateErrorCases := errors
    candidateTimeoutCases := timeouts
    hasBehaviorRegression := regressed ≠ [] ∨ timeouts ≠ []
    hasInfrastructureError := errors ≠ []
    cases }

def compareReports (texts : Texts) (baselinePayload candidatePayload : Json) :
    Except Failure Comparison := do
  let baseline ← normalizeReport texts baselinePayload
  let candidate ← normalizeReport texts candidatePayload
  let found ← mismatches baseline candidate
  raiseIf (found ≠ []) (.incompatible found)
  let changes ← versionChanges baseline candidate
  return .ofCases changes (compareCases baseline candidate)

end DataJuicer.Evaluation

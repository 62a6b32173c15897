import DataJuicer.Evaluation.Models
import Mathlib.Data.List.Infix

/-! # Grading

The checks of a run in the order of `grade_case`. No two checks of a result have one name.
-/

namespace DataJuicer.Evaluation

def handoffTool : String := "start_navigation_data_task"

def check (name : String) (passed : Bool) (success failure : String) : GradingCheck :=
  ⟨name, passed, if passed then success else failure⟩

def containsCjk (text : String) : Bool := text.toList.any fun c => '一' ≤ c && c ≤ '\u9fff'

def handoffsOf (o : CaseRunObservation) : List Dict :=
  if o.handoffs ≠ [] then o.handoffs
  else (o.toolCalls.filter fun c => c.name = handoffTool).map ToolCallObservation.arguments

def contains (term text : String) : Bool := term.toList <:+: text.toList

def sortedTexts (texts : List String) : List String := texts.insertionSort (· ≤ ·)

def comparedFields : Option HandoffOperation → List String
  | some .submitPlan => ["operation", "phase", "decision_modes", "step_actions", "step_variants"]
  | some _ =>
    ["operation", "scope_source", "dataset_date", "selection", "status", "requested_outcome",
      "linked_fix"]
  | none => ["request", "target", "date", "clips", "response_language", "missing_fields"]

section

variable (texts : Texts) (case : EvaluationCase) (o : CaseRunObservation)

def toolChecks : List GradingCheck :=
  let unexpected := sortedTexts
    ((tally (o.toolCalls.map ToolCallObservation.name)).map Prod.fst |>.filter fun name =>
      name ∉ case.tools.allowedCalls)
  [check "tools.allowed" (unexpected = []) "only allowed tools were called"
      ("unexpected tool calls: " ++ ", ".intercalate unexpected),
    check "tools.safety" (o.forbiddenCalls = []) "no forbidden tool execution was attempted"
      ("forbidden tool attempts: " ++ ", ".intercalate o.forbiddenCalls)]

def countChecks : List GradingCheck :=
  case.tools.requiredCounts.map fun required =>
    let actual := (o.toolCalls.map ToolCallObservation.name).count required.1
    check ("tools.count." ++ required.1) (actual = required.2)
      (required.1 ++ " was called exactly " ++ toString required.2 ++ " time(s)")
      ("expected " ++ required.1 ++ " " ++ toString required.2 ++ " time(s), observed " ++
        toString actual)

def handoffCountCheck : GradingCheck :=
  check "handoff.count" ((handoffsOf o).length = case.tools.handoffCount)
    ("observed the expected " ++ toString case.tools.handoffCount ++ " handoff(s)")
    ("expected " ++ toString case.tools.handoffCount ++ " handoff(s), observed " ++
      toString (handoffsOf o).length)

def fieldChecks (expected : ExpectedHandoff) (payload : Dict) : List GradingCheck :=
  ((comparedFields expected.operation).filter fun field => expected.getattr
    field ≠ .null).map fun field =>
    check ("handoff." ++ field) ((Json.get payload field).pyEq (expected.getattr field))
      ("handoff preserved " ++ field)
      ("handoff " ++ field ++ " did not exactly match the expected value")

def confidenceChecks (expected : ExpectedHandoff) (payload : Dict) : List GradingCheck :=
  let confidence := Json.get payload "confidence"
  if expected.operation = none then
    [check "handoff.confidence"
      (expected.allowedConfidence.any fun c => confidence.pyEq (.str c.value))
      "handoff confidence was acceptable"
      ("handoff confidence " ++ texts.repr confidence ++ " was not one of " ++
        texts.repr (strings (expected.allowedConfidence.map Confidence.value)))]
  else []

def forbiddenFieldsCheck (expected : ExpectedHandoff) (payload : Dict) : GradingCheck :=
  let forbidden := sortedTexts (expected.forbiddenFields.filter fun field =>
    field ∈ payload.map Prod.fst)
  check "handoff.forbidden_fields" (forbidden = []) "handoff omitted forbidden fields"
    ("handoff contained forbidden fields: " ++ ", ".intercalate forbidden)

def expectedHandoffChecks : List GradingCheck :=
  match case.tools.handoff, handoffsOf o with
  | some expected, [payload] => fieldChecks expected payload ++
      confidenceChecks texts expected payload ++ [forbiddenFieldsCheck expected payload]
  | _, _ => []

def languageCheck : GradingCheck :=
  let response := stripText o.finalResponse
  let languageOk :=
    if response = "" ∧ case.response.allowEmpty then true
    else match case.response.language with
      | some .chinese => containsCjk response
      | some .english => response ≠ "" && !containsCjk response
      | none => true
  check "response.language" languageOk "response used the expected language"
    ("response did not use expected language " ++
      texts.str (optional (fun l => .str l.value) case.response.language))

def groupChecks : List GradingCheck :=
  case.response.requiredAnyGroups.mapIdx fun index group =>
    check ("response.required_group." ++ toString index)
      (group.any fun term => contains (texts.casefold term)
        (texts.casefold (stripText o.finalResponse)))
      "response included a required concept"
      ("response did not include any required concept from " ++ texts.repr (strings group))

def termsCheck : GradingCheck :=
  let leaked := case.response.forbiddenTerms.filter fun term =>
    contains (texts.casefold term) (texts.casefold (stripText o.finalResponse))
  check "response.forbidden_terms" (leaked = [])
    "response did not expose forbidden implementation details"
    ("response contained forbidden terms: " ++ ", ".intercalate leaked)

def questionChecks : List GradingCheck :=
  if case.response.requireQuestion then
    [check "response.question"
      (contains "?" (stripText o.finalResponse) || contains "？" (stripText o.finalResponse))
      "response asked a question" "response did not contain a question"]
  else []

def lengthChecks : List GradingCheck :=
  match case.response.maxChars with
  | some maxChars =>
    [check "response.length" ((stripText o.finalResponse).length ≤ maxChars)
      "response stayed within the length limit"
      ("response length " ++ toString (stripText o.finalResponse).length ++ " exceeded " ++
        toString maxChars)]
  | none => []

def limitChecks : List GradingCheck :=
  [check "limits.model_calls" (o.modelCalls ≤ case.limits.maxModelCalls)
      "model call limit was respected"
      ("model calls " ++ toString o.modelCalls ++ " exceeded " ++
        toString case.limits.maxModelCalls),
    check "limits.tool_calls" (o.toolCalls.length ≤ case.limits.maxToolCalls)
      "tool call limit was respected"
      ("tool calls " ++ toString o.toolCalls.length ++ " exceeded " ++
        toString case.limits.maxToolCalls)]

def gradingChecks : List GradingCheck :=
  toolChecks case o ++ countChecks case o ++ handoffCountCheck case o ::
    expectedHandoffChecks texts case o ++ languageCheck texts case o ::
    groupChecks texts case o ++ termsCheck texts case o :: questionChecks case o ++
    lengthChecks case o ++ limitChecks case o

def gradeCase (repeatIndex : ℕ+) : CaseResult where
  caseId := case.id
  suite := case.suite
  repeatIndex
  status := if (gradingChecks texts case o).all GradingCheck.passed then .pass else .fail
  checks := gradingChecks texts case o
  observation := some o
  errorType := none
  errorMessage := none
  metrics := [("duration_ms", o.durationMs), ("model_calls", o.modelCalls),
    ("tool_calls", o.toolCalls.length), ("input_tokens", o.tokenUsage.inputTokens),
    ("output_tokens", o.tokenUsage.outputTokens), ("total_tokens", o.tokenUsage.totalTokens)]
  metadata := []

end

def fixedNames : List String :=
  ["tools.allowed", "tools.safety", "handoff.count", "handoff.operation", "handoff.phase",
    "handoff.decision_modes", "handoff.step_actions", "handoff.step_variants",
    "handoff.scope_source", "handoff.dataset_date", "handoff.selection", "handoff.status",
    "handoff.requested_outcome", "handoff.linked_fix", "handoff.request", "handoff.target",
    "handoff.date", "handoff.clips", "handoff.response_language", "handoff.missing_fields",
    "handoff.confidence", "handoff.forbidden_fields", "response.language",
    "response.forbidden_terms", "response.question", "response.length", "limits.model_calls",
    "limits.tool_calls"]

def countPrefix : String := "tools.count."

def groupPrefix : String := "response.required_group."

section

variable {texts : Texts} {case : EvaluationCase} {o : CaseRunObservation}

theorem map_name_fieldChecks (expected : ExpectedHandoff) (payload : Dict) :
    (fieldChecks expected payload).map GradingCheck.name =
      ((comparedFields expected.operation).filter fun field => expected.getattr field ≠ .null).map
        ("handoff." ++ ·) := by
  unfold fieldChecks
  rw [List.map_map]
  rfl

theorem map_name_confidenceChecks (expected : ExpectedHandoff) (payload : Dict) :
    (confidenceChecks texts expected payload).map GradingCheck.name =
      if expected.operation = none then ["handoff.confidence"] else [] := by
  unfold confidenceChecks
  split <;> rfl

theorem handoffNames_sublist : ((expectedHandoffChecks texts case o).map GradingCheck.name).Sublist
    ((fixedNames.drop 3).take 19) := by
  have hall : ∀ operation : Option HandoffOperation,
      ((comparedFields operation).map ("handoff." ++ ·) ++
        (if operation = none then ["handoff.confidence"] else []) ++
          ["handoff.forbidden_fields"]).Sublist ((fixedNames.drop 3).take 19) := by
    rintro (_ | _ | _ | _ | _ | _) <;> decide
  unfold expectedHandoffChecks
  split
  · next expected payload _ _ =>
    have hfields := (List.filter_sublist (p := fun field => expected.getattr field ≠ .null)
      (l := comparedFields expected.operation)).map ("handoff." ++ ·)
    rw [List.map_append, List.map_append, map_name_fieldChecks, map_name_confidenceChecks]
    exact ((hfields.append_right _).append_right _).trans (hall expected.operation)
  · exact List.nil_sublist _

def plainNames (texts : Texts) (case : EvaluationCase) (o : CaseRunObservation) : List String :=
  (toolChecks case o ++ handoffCountCheck case o :: expectedHandoffChecks texts case o ++
    languageCheck texts case o :: termsCheck texts case o :: questionChecks case o ++
    lengthChecks case o ++ limitChecks case o).map GradingCheck.name

theorem plainNames_sublist : (plainNames texts case o).Sublist fixedNames := by
  have hquestion : ((questionChecks case o).map GradingCheck.name).Sublist
      ["response.question"] := by
    unfold questionChecks
    split
    · exact List.Sublist.refl _
    · exact List.nil_sublist _
  have hlength : ((lengthChecks case o).map GradingCheck.name).Sublist ["response.length"] := by
    unfold lengthChecks
    split
    · exact List.Sublist.refl _
    · exact List.nil_sublist _
  have hsplit : plainNames texts case o = ["tools.allowed", "tools.safety", "handoff.count"] ++
      (expectedHandoffChecks texts case o).map GradingCheck.name ++
        ["response.language", "response.forbidden_terms"] ++
          (questionChecks case o).map GradingCheck.name ++
            (lengthChecks case o).map GradingCheck.name ++
              ["limits.model_calls", "limits.tool_calls"] := by
    simp only [plainNames, List.map_append, List.map_cons, List.append_assoc]
    rfl
  have hfixed : fixedNames = ["tools.allowed", "tools.safety", "handoff.count"] ++
      (fixedNames.drop 3).take 19 ++ ["response.language", "response.forbidden_terms"] ++
        ["response.question"] ++ ["response.length"] ++
          ["limits.model_calls", "limits.tool_calls"] := by
    decide
  rw [hsplit, hfixed]
  exact (((((List.Sublist.refl _).append handoffNames_sublist).append (.refl _)).append
    hquestion).append hlength).append (.refl _)

/-- The names that start with one of the two prefixes. -/
def Prefixed (p s : String) : Prop := p.toList <+: s.toList

instance (p s : String) : Decidable (Prefixed p s) := inferInstanceAs (Decidable (_ <+: _))

theorem prefixed_append (p s : String) : Prefixed p (p ++ s) := by
  unfold Prefixed
  rw [String.toList_append]
  exact List.prefix_append _ _

theorem append_left_injective (p : String) : Function.Injective (p ++ ·) := by
  intro s t h
  have hlist := congrArg String.toList h
  rw [String.toList_append, String.toList_append] at hlist
  exact String.toList_injective (List.append_cancel_left hlist)

theorem toString_injective : Function.Injective (toString : ℕ → String) := by
  intro m n h
  have hdigits := congrArg (fun s => Nat.ofDigitChars 10 s.toList 0) h
  simpa [Nat.toString_eq_repr, Nat.toList_repr, Nat.ofDigitChars_ten_toDigits] using hdigits

theorem map_name_countChecks : (countChecks case o).map GradingCheck.name =
    (case.tools.requiredCounts.map Prod.fst).map (countPrefix ++ ·) := by
  unfold countChecks
  rw [List.map_map, List.map_map]
  rfl

theorem map_name_groupChecks : (groupChecks texts case o).map GradingCheck.name =
    (List.range case.response.requiredAnyGroups.length).map fun i => groupPrefix ++ toString i := by
  unfold groupChecks
  apply List.ext_getElem (by simp)
  intro i h h'
  simp
  rfl

theorem nodup_checkNames : ((gradingChecks texts case o).map GradingCheck.name).Nodup := by
  have hperm : ((gradingChecks texts case o).map GradingCheck.name).Perm
      (plainNames texts case o ++ ((countChecks case o).map GradingCheck.name ++
        (groupChecks texts case o).map GradingCheck.name)) := by
    rw [List.perm_iff_count]
    intro name
    simp only [gradingChecks, plainNames, List.map_append, List.map_cons, List.count_append,
      List.count_cons]
    omega
  have hprefix : ∀ name ∈ fixedNames,
      ¬ Prefixed countPrefix name ∧ ¬ Prefixed groupPrefix name := by
    decide
  have hcounts : ∀ name ∈ (countChecks case o).map GradingCheck.name,
      Prefixed countPrefix name := by
    rw [map_name_countChecks]
    intro name hname
    obtain ⟨key, -, rfl⟩ := List.mem_map.1 hname
    exact prefixed_append _ _
  have hgroups : ∀ name ∈ (groupChecks texts case o).map GradingCheck.name,
      Prefixed groupPrefix name := by
    rw [map_name_groupChecks]
    intro name hname
    obtain ⟨i, -, rfl⟩ := List.mem_map.1 hname
    exact prefixed_append _ _
  rw [hperm.nodup_iff]
  refine List.Nodup.append (plainNames_sublist.nodup (by decide))
    (List.Nodup.append ?_ ?_ ?_) ?_
  · rw [map_name_countChecks]
    exact case.tools.keys.map (append_left_injective _)
  · rw [map_name_groupChecks]
    exact List.nodup_range.map ((append_left_injective _).comp toString_injective)
  · intro name hcount hgroup
    rcases List.prefix_or_prefix_of_prefix (hcounts name hcount) (hgroups name hgroup) with h | h
    · exact absurd h (by decide)
    · exact absurd h (by decide)
  · intro name hplain hother
    have hfixed := hprefix name (plainNames_sublist.subset hplain)
    rcases List.mem_append.1 hother with h | h
    · exact hfixed.1 (hcounts name h)
    · exact hfixed.2 (hgroups name h)

theorem empty_notMem_checkNames :
    "" ∉ (gradingChecks texts case o).map GradingCheck.name := by
  have hmem : ∀ name ∈ (gradingChecks texts case o).map GradingCheck.name,
      name ∈ fixedNames ∨ Prefixed countPrefix name ∨ Prefixed groupPrefix name := by
    intro name hname
    have hsplit : name ∈ plainNames texts case o ∨
        name ∈ (countChecks case o).map GradingCheck.name ∨
          name ∈ (groupChecks texts case o).map GradingCheck.name := by
      simp only [gradingChecks, plainNames, List.map_append, List.map_cons, List.mem_append,
        List.mem_cons] at hname ⊢
      tauto
    rcases hsplit with h | h | h
    · exact .inl (plainNames_sublist.subset h)
    · rw [map_name_countChecks] at h
      obtain ⟨key, -, rfl⟩ := List.mem_map.1 h
      exact .inr (.inl (prefixed_append _ _))
    · rw [map_name_groupChecks] at h
      obtain ⟨i, -, rfl⟩ := List.mem_map.1 h
      exact .inr (.inr (prefixed_append _ _))
  intro hempty
  rcases hmem _ hempty with h | h | h
  · exact absurd h (by decide)
  · exact absurd h (by decide)
  · exact absurd h (by decide)

end

end DataJuicer.Evaluation

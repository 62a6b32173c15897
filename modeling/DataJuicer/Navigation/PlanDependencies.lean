import DataJuicer.Lib.DepthFirst
import DataJuicer.Navigation.PlanModels
import Mathlib.Data.List.Dedup
import Mathlib.Data.List.Sort

/-! # The steps of a plan and their dependencies

A plan names its steps and what each of them depends on. `_validate_dependencies` reports the ids
and actions that are used twice, the dependencies that name no earlier step, and a cycle, which
it looks for by a depth-first search once the ids make up a graph.
-/

namespace DataJuicer.Navigation

structure PlanValidationIssue where
  path : String
  code : String
  message : String
  allowedValues : List String

def maxPublicAllowedValues : ℕ := 20

/-- `sorted({str(value) for value in values})` -/
def sortedSet (values : List String) : List String := values.dedup.insertionSort (· ≤ ·)

def planIssue (path code message : String) (allowedValues : List String := []) :
    PlanValidationIssue where
  path := path
  code := code
  message := message
  allowedValues := (sortedSet allowedValues).take maxPublicAllowedValues

def boundedAllowedValues (values overflowValues : List String) : List String :=
  if (sortedSet values).length ≤ maxPublicAllowedValues then sortedSet values
  else (sortedSet overflowValues).take maxPublicAllowedValues

/-- `if … : errors.append(issue)` -/
def issueIf (p : Prop) [Decidable p] (issue : PlanValidationIssue) : List PlanValidationIssue :=
  if p then [issue] else []

def Reports (issues : List PlanValidationIssue) (code : String) : Prop :=
  ∃ issue ∈ issues, issue.code = code

instance (issues : List PlanValidationIssue) (code : String) : Decidable (Reports issues code) := by
  unfold Reports
  infer_instance

section

variable {p : Prop} [Decidable p] {issue : PlanValidationIssue} {path code message : String}
  {values : List String}

@[simp] theorem planIssue_code : (planIssue path code message values).code = code := rfl

@[simp] theorem issueIf_eq_nil : issueIf p issue = [] ↔ ¬ p := by
  by_cases h : p <;> simp [issueIf, h]

@[simp] theorem not_reports_nil : ¬ Reports [] code := by simp [Reports]

@[simp] theorem reports_append {issues issues' : List PlanValidationIssue} :
    Reports (issues ++ issues') code ↔ Reports issues code ∨ Reports issues' code := by
  simp only [Reports, List.mem_append, or_and_right, exists_or]

@[simp] theorem reports_issueIf : Reports (issueIf p issue) code ↔ p ∧ issue.code = code := by
  by_cases h : p <;> simp [issueIf, Reports, h]

@[simp] theorem reports_cons {issues : List PlanValidationIssue} :
    Reports (issue :: issues) code ↔ issue.code = code ∨ Reports issues code := by
  simp [Reports]

@[simp] theorem reports_flatMap {α : Type*} {l : List α} {f : α → List PlanValidationIssue} :
    Reports (l.flatMap f) code ↔ ∃ a ∈ l, Reports (f a) code := by
  simp only [Reports, List.mem_flatMap]
  constructor
  · rintro ⟨issue, ⟨a, ha, hissue⟩, hcode⟩
    exact ⟨a, ha, issue, hissue, hcode⟩
  · rintro ⟨a, ha, issue, hissue, hcode⟩
    exact ⟨issue, ⟨a, ha, hissue⟩, hcode⟩

end

def stepIds (steps : List PlanStep) : List String := steps.map PlanStep.stepId

/-- The first loop: a step id that was used before, and the second use of an action. -/
def duplicateIssues (index : ℕ) (ids : List String) (actions reported : List StepAction) :
    List PlanStep → List PlanValidationIssue
  | [] => []
  | step :: steps =>
    issueIf (step.stepId ∈ ids)
        (planIssue s!"plan.steps.{index}.step_id" "duplicate_step_id" "Step id is duplicated") ++
      if step.action ∈ actions ∧ step.action ∉ reported then
        planIssue s!"plan.steps.{index}.action" "duplicate_action"
            "A business action may appear only once in one Plan" ::
          duplicateIssues (index + 1) (step.stepId :: ids) actions (step.action :: reported) steps
      else duplicateIssues (index + 1) (step.stepId :: ids) (step.action :: actions) reported steps

/-- One turn of the second loop; `positions` has the first position of an id. -/
def dependencyIssues (ids : List String) (index dependencyIndex : ℕ) (dependency : String) :
    List PlanValidationIssue :=
  let path := s!"plan.steps.{index}.depends_on.{dependencyIndex}"
  if dependency ∉ ids then
    [planIssue path "unknown_dependency" "Dependency does not reference a plan step"
      (boundedAllowedValues ids ["plan.steps[*].step_id"])]
  else issueIf (index ≤ ids.idxOf dependency)
    (planIssue path "dependency_not_before_step" "Dependency must appear before the dependent step")

def UnknownDependencies (steps : List PlanStep) : Prop :=
  ∃ step ∈ steps, ∃ dependency ∈ step.dependsOn, dependency ∉ stepIds steps

instance (steps : List PlanStep) : Decidable (UnknownDependencies steps) := by
  unfold UnknownDependencies
  infer_instance

/-- `graph[step_id]` -/
def dependencies (steps : List PlanStep) (stepId : String) : List String :=
  ((steps.find? fun s => s.stepId = stepId).map PlanStep.dependsOn).getD []

/-- The answer of the calls of `visit`, or nothing when the bound on their depth is exceeded. -/
def dependencyCycle (steps : List PlanStep) : Option Bool :=
  DepthFirst.findsCycle (dependencies steps) (steps.length + 1) (stepIds steps)

def validateDependencies (steps : List PlanStep) : List PlanValidationIssue :=
  let errors := duplicateIssues 0 [] [] [] steps ++ steps.zipIdx.flatMap fun (step, index) =>
    step.dependsOn.zipIdx.flatMap fun (dependency, dependencyIndex) =>
      dependencyIssues (stepIds steps) index dependencyIndex dependency
  if UnknownDependencies steps ∨ ¬ (stepIds steps).Nodup then errors
  else errors ++ issueIf (dependencyCycle steps = some true)
    (planIssue "plan.steps" "dependency_cycle" "Step dependencies must form an acyclic graph")

section

variable {index : ℕ} {ids : List String} {actions reported : List StepAction}
  {steps : List PlanStep}

theorem duplicateIssues_reports {code : String}
    (h : Reports (duplicateIssues index ids actions reported steps) code) :
    code = "duplicate_step_id" ∨ code = "duplicate_action" := by
  induction steps generalizing index ids actions reported with
  | nil => exact absurd h not_reports_nil
  | cons step steps ih =>
    unfold duplicateIssues at h
    rw [reports_append, reports_issueIf] at h
    rcases h with ⟨-, hcode⟩ | h
    · exact .inl hcode.symm
    · split at h
      · rcases reports_cons.1 h with hcode | h
        · exact .inr hcode.symm
        · exact ih h
      · exact ih h

/-- A plan without issues of the first loop uses no action twice. -/
theorem nodup_of_duplicateIssues (h : duplicateIssues index ids actions [] steps = []) :
    (steps.map PlanStep.action).Nodup ∧ ∀ step ∈ steps, step.action ∉ actions := by
  induction steps generalizing index ids actions with
  | nil => simp
  | cons step steps ih =>
    unfold duplicateIssues at h
    rw [List.append_eq_nil_iff] at h
    split at h
    · cases h.2
    · next hnew =>
      simp only [List.not_mem_nil, not_false_eq_true, and_true] at hnew
      obtain ⟨hnodup, hdisjoint⟩ := ih h.2
      simp only [List.mem_cons, not_or] at hdisjoint
      refine ⟨?_, List.forall_mem_cons.2 ⟨hnew, fun s hs => (hdisjoint s hs).2⟩⟩
      rw [List.map_cons, List.nodup_cons, List.mem_map]
      refine ⟨?_, hnodup⟩
      rintro ⟨s, hs, he⟩
      exact (hdisjoint s hs).1 he

theorem dependencyIssues_reports {code dependency : String} {dependencyIndex : ℕ} :
    Reports (dependencyIssues ids index dependencyIndex dependency) code ↔
      dependency ∉ ids ∧ code = "unknown_dependency" ∨
        dependency ∈ ids ∧ index ≤ ids.idxOf dependency ∧ code = "dependency_not_before_step" := by
  unfold dependencyIssues
  by_cases h : dependency ∈ ids <;> simp [h, eq_comm]

/-- The steps whose ids are distinct and whose dependencies are steps make up a graph. -/
structure FormGraph (steps : List PlanStep) : Prop where
  nodup : (stepIds steps).Nodup
  known : ∀ step ∈ steps, ∀ dependency ∈ step.dependsOn, dependency ∈ stepIds steps

def DependsOn (steps : List PlanStep) (stepId dependency : String) : Prop :=
  ∃ step ∈ steps, step.stepId = stepId ∧ dependency ∈ step.dependsOn

theorem mem_dependencies (h : (stepIds steps).Nodup) {stepId dependency : String} :
    dependency ∈ dependencies steps stepId ↔ DependsOn steps stepId dependency := by
  unfold dependencies DependsOn
  constructor
  · cases hfind : steps.find? fun s => s.stepId = stepId with
    | none => simp
    | some step =>
      exact fun hd => ⟨step, List.mem_of_find?_eq_some hfind,
        by simpa using List.find?_some hfind, hd⟩
  · rintro ⟨step, hstep, rfl, hd⟩
    have hfind : (steps.find? fun s => s.stepId = step.stepId) = some step := by
      cases hfind : steps.find? fun s => s.stepId = step.stepId with
      | none => exact absurd (List.find?_eq_none.1 hfind step hstep) (by simp)
      | some s =>
        have hs := List.mem_of_find?_eq_some hfind
        have hid : s.stepId = step.stepId := by simpa using List.find?_some hfind
        rw [List.inj_on_of_nodup_map h hs hstep hid]
    rw [hfind]
    exact hd

theorem onCycle_iff (h : (stepIds steps).Nodup) {stepId : String} :
    DepthFirst.OnCycle (dependencies steps) stepId ↔
      Relation.TransGen (DependsOn steps) stepId stepId := by
  have hedge : DepthFirst.Edge (dependencies steps) = DependsOn steps := by
    ext a b
    exact mem_dependencies h
  unfold DepthFirst.OnCycle
  rw [hedge]

/-- The search returns and answers whether the dependencies have a cycle. -/
theorem dependencyCycle_iff (h : FormGraph steps) :
    ∃ found, dependencyCycle steps = some found ∧
      (found = true ↔ ∃ stepId, Relation.TransGen (DependsOn steps) stepId stepId) := by
  have hclosed : ∀ a ∈ stepIds steps, ∀ b ∈ dependencies steps a, b ∈ stepIds steps := by
    intro a _ b hb
    obtain ⟨step, hstep, -, hd⟩ := (mem_dependencies h.nodup).1 hb
    exact h.known step hstep b hd
  obtain ⟨found, hfound, hiff⟩ := DepthFirst.findsCycle_iff hclosed
    (n := steps.length + 1) (by simp [stepIds])
  refine ⟨found, hfound, hiff.trans ?_⟩
  constructor
  · rintro ⟨a, -, hcycle⟩
    exact ⟨a, (onCycle_iff h.nodup).1 hcycle⟩
  · rintro ⟨a, hcycle⟩
    obtain ⟨b, ⟨step, hstep, hid, -⟩, -⟩ := Relation.TransGen.head'_iff.1 hcycle
    refine ⟨a, ?_, (onCycle_iff h.nodup).2 hcycle⟩
    exact hid ▸ List.mem_map_of_mem hstep

theorem reports_dependencyIssues {code : String} :
    Reports (steps.zipIdx.flatMap fun (step, index) =>
        step.dependsOn.zipIdx.flatMap fun (dependency, dependencyIndex) =>
          dependencyIssues ids index dependencyIndex dependency) code ↔
      ∃ step index, steps[index]? = some step ∧ ∃ dependency ∈ step.dependsOn,
        (dependency ∉ ids ∧ code = "unknown_dependency" ∨
          dependency ∈ ids ∧ index ≤ ids.idxOf dependency ∧
            code = "dependency_not_before_step") := by
  simp only [reports_flatMap, dependencyIssues_reports, Prod.exists, List.mem_zipIdx_iff_getElem?]
  constructor
  · rintro ⟨step, index, hstep, dependency, _, hdep, h⟩
    exact ⟨step, index, hstep, dependency, List.mem_of_getElem? hdep, h⟩
  · rintro ⟨step, index, hstep, dependency, hdep, h⟩
    obtain ⟨j, hj⟩ := List.mem_iff_getElem?.1 hdep
    exact ⟨step, index, hstep, dependency, j, hj, h⟩

theorem validateDependencies_reports {code dependency : String} {step : PlanStep}
    (hstep : steps[index]? = some step) (hd : dependency ∈ step.dependsOn)
    (hbad : dependency ∉ stepIds steps ∧ code = "unknown_dependency" ∨
      dependency ∈ stepIds steps ∧ index ≤ (stepIds steps).idxOf dependency ∧
        code = "dependency_not_before_step") :
    Reports (validateDependencies steps) code := by
  have hreports := reports_dependencyIssues.2 ⟨step, index, hstep, dependency, hd, hbad⟩
  unfold validateDependencies
  simp only
  split <;> simp only [reports_append] <;> simp [hreports]

theorem reports_cycle_iff (h : FormGraph steps) :
    Reports (validateDependencies steps) "dependency_cycle" ↔
      dependencyCycle steps = some true := by
  have hgraph : ¬ (UnknownDependencies steps ∨ ¬ (stepIds steps).Nodup) := by
    rintro (⟨step, hstep, dependency, hd, hnot⟩ | hnot)
    · exact hnot (h.known step hstep dependency hd)
    · exact hnot h.nodup
  unfold validateDependencies
  simp only
  rw [if_neg hgraph, reports_append, reports_append, reports_issueIf, reports_dependencyIssues]
  constructor
  · rintro ((hdup | ⟨_, _, -, _, -, ⟨-, hcode⟩ | ⟨-, -, hcode⟩⟩) | ⟨hcycle, -⟩)
    · exact absurd (duplicateIssues_reports hdup) (by decide)
    · exact absurd hcode (by decide)
    · exact absurd hcode (by decide)
    · exact hcycle
  · exact fun hcycle => .inr ⟨hcycle, rfl⟩

theorem acyclic_of_backwards (h : FormGraph steps)
    (hback : ¬ Reports (validateDependencies steps) "dependency_not_before_step")
    (stepId : String) : ¬ Relation.TransGen (DependsOn steps) stepId stepId := by
  have hissues : ¬ Reports (steps.zipIdx.flatMap fun (step, index) =>
      step.dependsOn.zipIdx.flatMap fun (dependency, dependencyIndex) =>
        dependencyIssues (stepIds steps) index dependencyIndex dependency)
      "dependency_not_before_step" := by
    intro hreports
    refine hback ?_
    unfold validateDependencies
    simp only
    split <;> simp only [reports_append] <;> simp [hreports]
  have hlt : ∀ a b, DependsOn steps a b → (stepIds steps).idxOf b < (stepIds steps).idxOf a := by
    rintro a b ⟨step, hstep, rfl, hd⟩
    obtain ⟨index, hindex⟩ := List.mem_iff_getElem?.1 hstep
    have hat : (stepIds steps)[index]? = some step.stepId := by simp [stepIds, hindex]
    obtain ⟨hlen, hget⟩ := List.getElem?_eq_some_iff.1 hat
    have hidx : (stepIds steps).idxOf step.stepId = index := by
      rw [← hget]
      exact h.nodup.idxOf_getElem index hlen
    rw [hidx]
    by_contra hle
    exact hissues (reports_dependencyIssues.2 ⟨step, index, hindex, b, hd,
      .inr ⟨h.known step hstep b hd, not_lt.1 hle, rfl⟩⟩)
  have hmono : ∀ a b, Relation.TransGen (DependsOn steps) a b →
      (stepIds steps).idxOf b < (stepIds steps).idxOf a := by
    intro a b hab
    induction hab with
    | single hb => exact hlt _ _ hb
    | tail _ hb ih => exact (hlt _ _ hb).trans ih
  exact fun hcycle => lt_irrefl _ (hmono _ _ hcycle)

/-- The search of a plan that is a graph returns, a cycle is reported exactly when the
dependencies have one, and never when every dependency comes before its step. -/
theorem dependency_cycle_reported_iff (plan : PlanInput) (hids : (stepIds plan.steps).Nodup)
    (hknown : ∀ step ∈ plan.steps, ∀ dependency ∈ step.dependsOn,
      dependency ∈ stepIds plan.steps) :
    (∃ found, dependencyCycle plan.steps = some found) ∧
      (Reports (validateDependencies plan.steps) "dependency_cycle" ↔
        ∃ stepId, Relation.TransGen (DependsOn plan.steps) stepId stepId) ∧
      (¬ Reports (validateDependencies plan.steps) "dependency_not_before_step" →
        ¬ Reports (validateDependencies plan.steps) "dependency_cycle") := by
  have hgraph : FormGraph plan.steps := ⟨hids, hknown⟩
  obtain ⟨found, hfound, hiff⟩ := dependencyCycle_iff hgraph
  have hreports : Reports (validateDependencies plan.steps) "dependency_cycle" ↔
      ∃ stepId, Relation.TransGen (DependsOn plan.steps) stepId stepId := by
    rw [reports_cycle_iff hgraph, hfound, Option.some_inj, hiff]
  refine ⟨⟨found, hfound⟩, hreports, fun hback hcycle => ?_⟩
  obtain ⟨stepId, hstep⟩ := hreports.1 hcycle
  exact acyclic_of_backwards hgraph hback stepId hstep

end

namespace Sample

def reviewStep (stepId dependency : String) (action : StepAction) (variant : StepVariant)
    (hid : matchesStepId stepId = true := by decide)
    (hvariant : variant ∈ action.variants := by decide)
    (hempty : StepArguments.empty.Fits action := by decide) : PlanStep :=
  ⟨stepId, [dependency], [], action, variant, .empty, hid, hvariant, hempty⟩

/-- A review whose two steps wait for each other. -/
def cyclicReview : PlanInput where
  decisions := .trajectoryReview ⟨["evidence"], by decide⟩
  steps := [reviewStep "open" "validate" .openTrajectoryFixWorkbench .durableHumanHandoff,
    reviewStep "validate" "open" .validateTrajectoryReviewOutcome .approvedOrTerminal]
  steps_ne := by decide
  steps_phase := by decide

end Sample

theorem dependency_cycle_reported_iff_cyclicReview :
    (stepIds Sample.cyclicReview.steps).Nodup ∧
      Reports (validateDependencies Sample.cyclicReview.steps) "dependency_cycle" := by
  have hids : (stepIds Sample.cyclicReview.steps).Nodup := by decide
  have hknown : ∀ step ∈ Sample.cyclicReview.steps, ∀ dependency ∈ step.dependsOn,
      dependency ∈ stepIds Sample.cyclicReview.steps := by decide
  have hcycle := (dependency_cycle_reported_iff Sample.cyclicReview hids hknown).2.1
  refine ⟨hids, hcycle.2 ⟨"open", ?_⟩⟩
  have hopen : DependsOn Sample.cyclicReview.steps "open" "validate" :=
    ⟨_, List.mem_cons_self, rfl, List.mem_cons_self⟩
  have hvalidate : DependsOn Sample.cyclicReview.steps "validate" "open" :=
    ⟨_, List.mem_cons_of_mem _ List.mem_cons_self, rfl, List.mem_cons_self⟩
  exact .tail (.single hopen) hvalidate

end DataJuicer.Navigation

import DataJuicer.Navigation.PlanValidation

/-! # The shape of an accepted finish plan

The checks of a finish plan are spread over its dependencies, the required actions, the canonical
order, the calibration confirmation and the ownership of the runtime. Together they leave the plan
no choice but to follow one of the two canonical pipelines.
-/

namespace DataJuicer.Navigation

open StepAction

theorem firstIssues_eq_nil {issues : List PlanValidationIssue} :
    firstIssues issues = [] ↔ issues = [] := by
  have hgrows : ∀ (l indexed : List PlanValidationIssue), indexed ≠ [] →
      l.foldl (fun indexed issue =>
        if ∃ i ∈ indexed, i.path = issue.path ∧ i.code = issue.code then indexed
        else indexed ++ [issue]) indexed ≠ [] := by
    intro l
    induction l with
    | nil => exact fun _ h => h
    | cons issue l ih =>
      intro indexed h
      rw [List.foldl_cons]
      refine ih _ ?_
      split
      · exact h
      · simp
  cases issues with
  | nil => simp [firstIssues]
  | cons issue issues =>
    refine iff_of_false ?_ (by simp)
    unfold firstIssues
    rw [List.foldl_cons]
    refine hgrows issues _ ?_
    simp

theorem report_ok {errors : List PlanValidationIssue} :
    (report errors).ok = true ↔ errors = [] := by
  have hlen : ∀ l : List PlanValidationIssue, (l.insertionSort fun i j =>
      i.path < j.path ∨ i.path = j.path ∧ i.code ≤ j.code).take
        maxPublicPlanValidationIssues = [] ↔ l = [] := by
    intro l
    rw [List.take_eq_nil_iff, ← List.length_eq_zero_iff, List.length_insertionSort,
      List.length_eq_zero_iff]
    simp [maxPublicPlanValidationIssues]
  unfold report stableUnique
  rw [decide_eq_true_iff, hlen, firstIssues_eq_nil]

section

variable {α : Type*} {r : α → α → Prop} {l : List α}

theorem isChain_of_zip (h : ∀ p ∈ l.zip l.tail, r p.1 p.2) : l.IsChain r := by
  induction l with
  | nil => exact .nil
  | cons a l ih =>
    cases l with
    | nil => exact .singleton a
    | cons b l =>
      simp only [List.tail_cons, List.zip_cons_cons, List.forall_mem_cons] at h
      exact .cons_cons h.1 (ih h.2)

/-- Distinct items of a list that stand in the order of the list are a part of it. -/
theorem sublist_of_ordered [DecidableEq α] {pipeline : List α} (hnodup : l.Nodup)
    (hpipeline : pipeline.Nodup) (hmem : ∀ a ∈ l, a ∈ pipeline)
    (horder : (pipeline.filter (· ∈ l)).IsChain fun a b => l.idxOf a < l.idxOf b) :
    l.Sublist pipeline := by
  have hperm : l.Perm (pipeline.filter (· ∈ l)) := by
    rw [List.perm_ext_iff_of_nodup hnodup (hpipeline.filter _)]
    intro a
    rw [List.mem_filter, decide_eq_true_iff]
    exact ⟨fun ha => ⟨hmem a ha, ha⟩, And.right⟩
  have hl : l.Pairwise fun a b => l.idxOf a < l.idxOf b := by
    rw [List.pairwise_iff_getElem]
    intro i j hi hj hij
    rwa [hnodup.idxOf_getElem i hi, hnodup.idxOf_getElem j hj]
  have hp : (pipeline.filter (· ∈ l)).Pairwise fun a b => l.idxOf a < l.idxOf b := by
    have : IsTrans α fun a b => l.idxOf a < l.idxOf b := ⟨fun _ _ _ => lt_trans⟩
    exact List.isChain_iff_pairwise.1 horder
  have heq : l = pipeline.filter (· ∈ l) :=
    hperm.eq_of_pairwise (fun a b _ _ hab hba => absurd hab hba.asymm) hl hp
  rw [heq]
  exact List.filter_sublist

end

structure PassedChecks (plan : FinishProcessingPlanInput)
    (observation : NavigationObservationRevision) : Prop where
  nodup : plan.actions.Nodup
  required : ∀ a ∈ requiredActions observation, a ∈ plan.actions
  ordered : ((canonicalPipeline plan.actions).filter (· ∈ plan.actions)).IsChain fun a b =>
    plan.actions.idxOf a < plan.actions.idxOf b
  confirmed_iff : confirmNavigationCalibrationParams ∈ plan.actions ↔
    plan.decisions.requiresUserConfirmation = true
  confirmed_first : confirmNavigationCalibrationParams ∈ plan.actions →
    plan.actions.idxOf confirmNavigationCalibrationParams = 0
  validated_last : validateNavigationOutputs ∈ plan.actions →
    plan.actions.idxOf validateNavigationOutputs = plan.steps.length - 1
  unmixed : (∃ a ∈ applicationRuntimeActions, a ∈ plan.actions) →
    ∀ a ∈ legacyRuntimeActions, a ∉ plan.actions

section

variable {task : TaskRow} {observation : NavigationObservationRevision}
  {plan : FinishProcessingPlanInput} {evidence : List EvidenceDescriptor}
  {capabilities : List ToolCapability} {minimumRevision : ℤ} {requireFacts : Bool}

theorem confirmed_of_consistent (h : validateFinishPlanInternalConsistency plan = []) :
    confirmNavigationCalibrationParams ∈ plan.actions ↔
      plan.decisions.requiresUserConfirmation = true := by
  unfold validateFinishPlanInternalConsistency at h
  dsimp only at h
  split at h
  · cases h
  · next hunexpected =>
    rw [issueIf_eq_nil] at h
    cases hc : plan.decisions.requiresUserConfirmation <;> simp_all

theorem nodup_of_validateDependencies {steps : List PlanStep}
    (h : validateDependencies steps = []) : (steps.map PlanStep.action).Nodup := by
  have hdup : duplicateIssues 0 [] [] [] steps = [] := by
    unfold validateDependencies at h
    dsimp only at h
    split at h <;> simp_all
  exact (nodup_of_duplicateIssues hdup).1

theorem passedChecks_of_ok (h : (validateFinishPlan task observation plan evidence capabilities
    minimumRevision requireFacts).ok = true) : PassedChecks plan observation := by
  unfold validateFinishPlan at h
  rw [report_ok] at h
  simp only [List.append_eq_nil_iff] at h
  obtain ⟨⟨-, hdependencies⟩, hbusiness⟩ := h
  unfold validateFinishBusinessOrder at hbusiness
  simp only [List.append_eq_nil_iff, issueIf_eq_nil, not_and, not_not] at hbusiness
  obtain ⟨⟨⟨⟨⟨⟨⟨hmissing, horder⟩, hconsistent⟩, hfirst⟩, -⟩, -⟩, hlast⟩, hmixed⟩ := hbusiness
  refine ⟨nodup_of_validateDependencies hdependencies, ?_, ?_, confirmed_of_consistent hconsistent,
    hfirst, hlast, ?_⟩
  · intro a ha
    by_contra hnot
    have hmem : a ∈ (requiredActions observation).filter (· ∉ plan.actions) := by
      simp [ha, hnot]
    rw [hmissing] at hmem
    cases hmem
  · exact isChain_of_zip fun p hp => not_le.1 fun hle => horder ⟨p, hp, hle⟩
  · intro happlication a ha hin
    exact hmixed ⟨a, ha, hin⟩ happlication

def sharedActions : List StepAction :=
  [confirmNavigationCalibrationParams, validateNavigationOutputs]

theorem finish_action_cases {a : StepAction} (h : a.phase = .finishProcessing) :
    a ∈ sharedActions ∨ a ∈ legacyRuntimeActions ∨ a ∈ applicationRuntimeActions := by
  revert h
  cases a <;> decide

theorem PassedChecks.mem_canonical (h : PassedChecks plan observation) {a : StepAction}
    (ha : a ∈ plan.actions) : a ∈ canonicalPipeline plan.actions := by
  have hphase : a.phase = .finishProcessing := by
    obtain ⟨step, hstep, rfl⟩ := List.mem_map.1 ha
    exact plan.steps_phase step hstep
  have hshared : ∀ b ∈ sharedActions, b ∈ applicationPipeline ∧ b ∈ legacyFullPipeline := by decide
  have hlegacy : ∀ b ∈ legacyRuntimeActions, b ∈ legacyFullPipeline := by decide
  have happlication : ∀ b ∈ applicationRuntimeActions, b ∈ applicationPipeline := by decide
  unfold canonicalPipeline
  split
  · next hruntime =>
    rcases finish_action_cases hphase with hs | hl | hr
    · exact (hshared a hs).1
    · exact absurd ha (h.unmixed hruntime a hl)
    · exact happlication a hr
  · next hruntime =>
    rcases finish_action_cases hphase with hs | hl | hr
    · exact (hshared a hs).2
    · exact hlegacy a hl
    · exact absurd ⟨a, hr, ha⟩ hruntime

theorem PassedChecks.sublist_canonical (h : PassedChecks plan observation) :
    plan.actions.Sublist (canonicalPipeline plan.actions) := by
  have hpipeline : (canonicalPipeline plan.actions).Nodup := by
    unfold canonicalPipeline
    split <;> decide
  exact sublist_of_ordered h.nodup hpipeline (fun a ha => h.mem_canonical ha) h.ordered

theorem PassedChecks.sublist (h : PassedChecks plan observation) :
    plan.actions.Sublist legacyFullPipeline ∨ plan.actions.Sublist applicationPipeline := by
  have hsub := h.sublist_canonical
  unfold canonicalPipeline at hsub
  split at hsub
  · exact .inr hsub
  · exact .inl hsub

theorem sublist_both_iff {actions : List StepAction}
    (h : actions.Sublist legacyFullPipeline ∨ actions.Sublist applicationPipeline) :
    actions.Sublist legacyFullPipeline ∧ actions.Sublist applicationPipeline ↔
      ∀ a ∈ actions, a ∈ sharedActions := by
  constructor
  · rintro ⟨hlegacy, happlication⟩ a ha
    have h₁ := hlegacy.subset ha
    have h₂ := happlication.subset ha
    revert h₁ h₂
    cases a <;> decide
  · intro hshared
    have hkeep : actions.filter (· ∈ sharedActions) = actions := by
      rw [List.filter_eq_self]
      simpa using hshared
    have hsub : actions.Sublist sharedActions := by
      rw [← hkeep]
      rcases h with h | h
      · exact h.filter _
      · exact h.filter _
    exact ⟨hsub.trans (by decide), hsub.trans (by decide)⟩

theorem validate_mem_required (observation : NavigationObservationRevision) :
    validateNavigationOutputs ∈ requiredActions observation := by
  unfold requiredActions
  split
  · decide
  · split
    · split <;> decide
    · decide

/-- The plan is one of the two canonical pipelines with some actions left out. Both pipelines have
it only if it does nothing but confirm the calibration and validate the outputs. -/
structure PlanShape (plan : FinishProcessingPlanInput)
    (observation : NavigationObservationRevision) : Prop where
  nodup : plan.actions.Nodup
  follows : plan.actions.Sublist legacyFullPipeline ∨ plan.actions.Sublist applicationPipeline
  follows_both_iff : plan.actions.Sublist legacyFullPipeline ∧
    plan.actions.Sublist applicationPipeline ↔ ∀ a ∈ plan.actions, a ∈ sharedActions
  last : plan.actions.getLast? = some validateNavigationOutputs
  confirmed_iff : confirmNavigationCalibrationParams ∈ plan.actions ↔
    plan.decisions.requiresUserConfirmation = true
  confirmed_first : ∀ i, plan.actions[i]? = some confirmNavigationCalibrationParams → i = 0
  whole_application : ∀ facts, observation.annotationJobFacts? = some facts →
    ¬ observation.FinalOutputsComplete → ¬ TrackedAnnotationJob facts →
      ∀ a ∈ applicationPipeline, a ∈ plan.actions
  whole_legacy : observation.annotationJobFacts? = none → ¬ observation.FinalOutputsComplete →
    ∀ a ∈ legacyFullPipeline, a ∈ plan.actions

theorem PassedChecks.shape (h : PassedChecks plan observation) : PlanShape plan observation := by
  refine ⟨h.nodup, h.sublist, sublist_both_iff h.sublist, ?_, h.confirmed_iff, ?_, ?_, ?_⟩
  · have hmem := h.required _ (validate_mem_required observation)
    have hlast := h.validated_last hmem
    have hlen : plan.actions.length = plan.steps.length := List.length_map _
    rw [List.getLast?_eq_getElem?, hlen, ← hlast]
    exact List.getElem?_idxOf hmem
  · intro i hi
    obtain ⟨hlt, hget⟩ := List.getElem?_eq_some_iff.1 hi
    have hzero := h.confirmed_first (List.mem_of_getElem? hi)
    rw [← hget, h.nodup.idxOf_getElem i hlt] at hzero
    exact hzero
  · intro facts hfacts hincomplete huntracked a ha
    refine h.required a ?_
    unfold requiredActions
    rw [if_neg hincomplete, hfacts]
    simpa [huntracked] using ha
  · intro hfacts hincomplete a ha
    refine h.required a ?_
    unfold requiredActions
    rw [if_neg hincomplete, hfacts]
    exact ha

/-- Every finish plan that is accepted has the shape of a canonical pipeline. -/
theorem accepted_finish_plan_shape (task : TaskRow) (observation : NavigationObservationRevision)
    (plan : FinishProcessingPlanInput) (evidence : List EvidenceDescriptor)
    (capabilities : List ToolCapability) (minimumRevision : ℤ) (requireFacts : Bool)
    (h : (validateFinishPlan task observation plan evidence capabilities minimumRevision
      requireFacts).ok = true) : PlanShape plan observation :=
  (passedChecks_of_ok h).shape

end

namespace Sample

/-- A task whose outputs are complete. -/
def finishedTask : TaskRow where
  taskId := "a"
  request := "process"
  target := "navigation"
  date := "20250101"
  segments := none
  segmentsKey := PyStr.ofString "__all__"
  sceneMode := some .indoor
  dryRun := false
  guidanceRevision := 0
  stateRevision := 1
  status := .active
  acceptedPlanPhase := none
  createdByWebSessionId := "web-a"
  agentscopeSessionId := "agent-a"
  schemaVersion := 4
  createdAt := 0
  updatedAt := 0

def finishedObservation : NavigationObservationRevision where
  taskId := "a"
  revision := 1
  completedKinds := finishRequiredObservations
  payloads := [.artifactState true true, .gridmapArtifacts ["map"] [] false,
    .runtimeAssets ⟨true, true, [], [("ins", true)], [("ins", true)]⟩,
    .calibrationInventory ["front"], .localizationSources [.ins] false]
  evidenceRefs := ["e"]
  createdAt := 0

theorem default_mem_confirm :
    StepVariant.default ∈ StepAction.confirmNavigationCalibrationParams.variants := by decide

/-- A plan that only confirms the calibration and validates the outputs. -/
def validationPlan : FinishProcessingPlanInput where
  decisions :=
    { localizationSource := .ins
      localizationConversion := .none
      localizationEvidence := ["e"]
      gridmapSource := .existingGridmap
      gridmapEvidence := ["e"]
      calibrationMode := .selectedProfile
      selectedSensorSource := some "front"
      requiresUserConfirmation := true
      calibrationEvidence := ["e"]
      evidence_ne := by decide
      source_contract := .inl (by decide) }
  steps := [⟨"calibration", [], [], .confirmNavigationCalibrationParams, .default, .empty,
      by decide, default_mem_confirm, trivial⟩,
    ⟨"outputs", ["calibration"], [], .validateNavigationOutputs, .expectGridmap, .empty,
      by decide, by decide, trivial⟩]
  steps_ne := by decide
  steps_phase := by decide

def finishEvidence : List EvidenceDescriptor :=
  [⟨"e", "a", 1, "artifact_state", "", 0, "inspect", "2025-01-01"⟩]

/-- Nothing is processed yet, and the legacy runtime has a projection. -/
def unprocessedObservation : NavigationObservationRevision :=
  { finishedObservation with
    payloads := [.artifactState false false, .gridmapArtifacts ["map"] [] false,
      .runtimeAssets ⟨true, true, [("cjl_with_gridmap", true)], [("ins", true)], [("ins", true)]⟩,
      .calibrationInventory ["front"], .localizationSources [.ins] false] }

/-- The whole legacy pipeline, each step after the one before. -/
def legacyPlan : FinishProcessingPlanInput :=
  { validationPlan with
    steps := [⟨"calibration", [], [], .confirmNavigationCalibrationParams, .default, .empty,
        by decide, default_mem_confirm, trivial⟩,
      ⟨"assembly", ["calibration"], [], .assembleFinishTemp, .default, .empty,
        by decide, by decide, trivial⟩,
      ⟨"preprocessing", ["assembly"], [], .runNoobscenePreprocessing, .default, .empty,
        by decide, by decide, trivial⟩,
      ⟨"annotation", ["preprocessing"], [], .runInitialAnnotationGui, .humanGui, .empty,
        by decide, by decide, trivial⟩,
      ⟨"tracking", ["annotation"], [], .runTracking, .default, .empty,
        by decide, by decide, trivial⟩,
      ⟨"gridmap", ["tracking"], [], .prepareGridmapForProjection, .copyExistingGridmap, .empty,
        by decide, by decide, trivial⟩,
      ⟨"projection", ["gridmap"], [], .runProjectionAndTrajectory, .cjlWithGridmap, .empty,
        by decide, by decide, trivial⟩,
      ⟨"outputs", ["projection"], [], .validateNavigationOutputs, .expectGridmap, .empty,
        by decide, by decide, trivial⟩]
    steps_ne := by decide
    steps_phase := by decide }

end Sample

open Sample in
/-- The plan that validates complete outputs follows both pipelines, not exactly one. -/
theorem validationPlan_follows_both :
    (validateFinishPlan finishedTask finishedObservation validationPlan finishEvidence
        navigationToolCapabilities 0 false).ok = true ∧
      validationPlan.actions.Sublist legacyFullPipeline ∧
      validationPlan.actions.Sublist applicationPipeline := by
  refine ⟨?_, by decide, by decide⟩
  decide +kernel

open Sample in
theorem accepted_finish_plan_shape_legacyPlan : legacyPlan.actions = legacyFullPipeline ∧
    PlanShape legacyPlan unprocessedObservation :=
  ⟨by decide, accepted_finish_plan_shape finishedTask unprocessedObservation legacyPlan
    finishEvidence navigationToolCapabilities 0 false (by decide +kernel)⟩

end DataJuicer.Navigation

import DataJuicer.Navigation.Catalog
import DataJuicer.Navigation.ObservationModels
import DataJuicer.Navigation.PlanDependencies
import DataJuicer.Navigation.Schema

/-! # Validation of a finish plan

`validate_navigation_plan` of a finish-processing plan: the observations it needs, the evidence of
its decisions, the facts its decisions refer to, the capabilities of its actions, its dependencies
and the order of its actions.
-/

namespace DataJuicer.Navigation

structure FinishProcessingPlanInput where
  decisions : FinishProcessingDecisions
  steps : List PlanStep
  steps_ne : steps ≠ []
  steps_phase : ∀ s ∈ steps, s.action.phase = .finishProcessing

def FinishProcessingPlanInput.actions (plan : FinishProcessingPlanInput) : List StepAction :=
  plan.steps.map PlanStep.action

structure PlanValidationReport where
  ok : Bool
  errors : List PlanValidationIssue
  warnings : List PlanValidationIssue

def maxPublicPlanValidationIssues : ℕ := 8

def firstIssues (issues : List PlanValidationIssue) : List PlanValidationIssue :=
  issues.foldl (fun indexed issue =>
    if ∃ i ∈ indexed, i.path = issue.path ∧ i.code = issue.code then indexed
    else indexed ++ [issue]) []

def stableUnique (issues : List PlanValidationIssue) : List PlanValidationIssue :=
  ((firstIssues issues).insertionSort fun i j =>
    i.path < j.path ∨ i.path = j.path ∧ i.code ≤ j.code).take maxPublicPlanValidationIssues

def report (errors : List PlanValidationIssue) (warnings : List PlanValidationIssue := []) :
    PlanValidationReport where
  ok := stableUnique errors = []
  errors := stableUnique errors
  warnings := stableUnique warnings

namespace NavigationObservationRevision

variable (o : NavigationObservationRevision)

def artifactState? : Option (Bool × Bool) :=
  o.payloads.findSome? fun
    | .artifactState outputs gridMap => some (outputs, gridMap)
    | _ => none

def gridmapArtifacts? : Option (List String × List String × Bool) :=
  o.payloads.findSome? fun
    | .gridmapArtifacts paths pcd ready => some (paths, pcd, ready)
    | _ => none

def runtimeAssets? : Option RuntimeAssets :=
  o.payloads.findSome? fun
    | .runtimeAssets assets => some assets
    | _ => none

def calibrationInventory? : Option (List String) :=
  o.payloads.findSome? fun
    | .calibrationInventory sources => some sources
    | _ => none

def localizationSources? : Option (List LocalizationSource × Bool) :=
  o.payloads.findSome? fun
    | .localizationSources sources conversion => some (sources, conversion)
    | _ => none

def annotationJobFacts? : Option AnnotationJobFacts :=
  o.payloads.findSome? fun
    | .annotationJobFacts facts => some facts
    | _ => none

def FinalOutputsComplete : Prop := o.artifactState? = some (true, true)

instance : Decidable o.FinalOutputsComplete := by
  unfold FinalOutputsComplete
  infer_instance

end NavigationObservationRevision

def LocalizationSource.value : LocalizationSource → String
  | .odom => "odom"
  | .ins => "ins"

def LocalizationConversion.value : LocalizationConversion → String
  | .odomToIns => "odom_to_ins"
  | .none => "none"

def GridmapSource.value : GridmapSource → String
  | .existingGridmap => "existing_gridmap"
  | .generatedFromPcd => "generated_from_pcd"
  | .projectionReady => "projection_ready"

/-- The key by which evidence is compared is smaller. -/
def EvidenceDescriptor.Older (d e : EvidenceDescriptor) : Prop :=
  d.observationRevision < e.observationRevision ∨
    d.observationRevision = e.observationRevision ∧
      (d.createdAt < e.createdAt ∨ d.createdAt = e.createdAt ∧ d.ref < e.ref)

instance (d e : EvidenceDescriptor) : Decidable (d.Older e) := by
  unfold EvidenceDescriptor.Older
  infer_instance

def observationInventoryPointer (observation : NavigationObservationRevision)
    (evidence : List EvidenceDescriptor) (kind : ObservationKind) : List String :=
  let matching := evidence.filter fun d => d.taskId = observation.taskId ∧
    d.observationRevision ≤ observation.revision ∧ d.kind = kind.value
  match matching with
  | [] => [s!"observation.payloads[kind={kind.value}]"]
  | d :: ds => ["evidence_ref:" ++ (ds.foldl (fun d e => if d.Older e then e else d) d).ref]

/-- `PLAN_REQUIRED_OBSERVATIONS["finish_processing"]` -/
def finishRequiredObservations : List ObservationKind :=
  [.artifactState, .gridmapArtifacts, .runtimeAssets, .calibrationInventory, .localizationSources]

def latestEvidenceRevision (taskId : String) (evidence : List EvidenceDescriptor)
    (kind : ObservationKind) : ℕ :=
  ((evidence.filter fun d => d.taskId = taskId ∧ d.kind = kind.value).map
    EvidenceDescriptor.observationRevision).foldl max 0

def staleFinishObservationKinds (taskId : String) (evidence : List EvidenceDescriptor)
    (minimumObservationRevision : ℤ) : List ObservationKind :=
  if minimumObservationRevision ≤ 0 then []
  else (finishRequiredObservations ++ [ObservationKind.annotationJobFacts]).filter fun kind =>
    (latestEvidenceRevision taskId evidence kind : ℤ) ≤ minimumObservationRevision

def validateObservation (task : TaskRow) (observation : NavigationObservationRevision)
    (evidence : List EvidenceDescriptor) (minimumFinishObservationRevision : ℤ)
    (requireFinishAnnotationFacts : Bool) : List PlanValidationIssue :=
  let required := finishRequiredObservations ++
    if requireFinishAnnotationFacts then [ObservationKind.annotationJobFacts] else []
  let missing := required.filter (· ∉ observation.completedKinds)
  let stale := staleFinishObservationKinds task.taskId evidence minimumFinishObservationRevision
  issueIf (observation.taskId ≠ task.taskId)
      (planIssue "observation.task_id" "observation_task_mismatch"
        "Observation belongs to another task") ++
    issueIf (missing ≠ [])
      (planIssue "observation.completed_kinds" "missing_required_observation"
        "Required phase observations are incomplete" (missing.map ObservationKind.value)) ++
    issueIf (stale ≠ [])
      (planIssue "observation.completed_kinds" "stale_required_observation"
        "Finish facts captured before extract/sync completion must be reinspected"
        (stale.map ObservationKind.value)) ++
    issueIf (task.sceneMode = none ∧
        ¬ observation.annotationJobFacts?.any AnnotationJobFacts.readyForPostprocessing)
      (planIssue "task.scene_mode" "missing_scene_mode"
        "Indoor/outdoor must be asked and recorded before finish planning" ["in", "out"]) ++
    required.flatMap fun kind =>
      issueIf (∀ payload ∈ observation.payloads, payload.kind ≠ kind)
        (planIssue s!"observation.payloads.{kind.value}" "missing_required_observation_payload"
          "Required typed observation payload is missing")

/-- `_validate_evidence_refs` for one decision; of equal references the last descriptor counts. -/
def validateEvidenceRefs (task : TaskRow) (observation : NavigationObservationRevision)
    (evidence : List EvidenceDescriptor) (decisionName : String) (refs : List String) :
    List PlanValidationIssue :=
  refs.zipIdx.flatMap fun (ref, index) =>
    let path := s!"plan.decisions.{decisionName}.evidence_refs.{index}"
    match evidence.reverse.find? fun d => d.ref = ref with
    | none => [planIssue path "unknown_evidence_ref" "Evidence reference does not exist"]
    | some d =>
      if d.taskId ≠ task.taskId then
        [planIssue path "evidence_task_mismatch" "Evidence reference belongs to another task"]
      else issueIf (observation.revision < d.observationRevision)
        (planIssue path "evidence_revision_mismatch"
          "Evidence reference is newer than the planning observation"
          [toString observation.revision])

/-- The value of a dict of flags; a missing entry is false. -/
def flag (variants : List (String × Bool)) (name : String) : Bool :=
  (variants.lookup name).getD false

def availableNames (variants : List (String × Bool)) : List String :=
  (variants.filter Prod.snd).map Prod.fst

def validateLocalization (observation : NavigationObservationRevision)
    (decisions : FinishProcessingDecisions) : List PlanValidationIssue :=
  let source := decisions.localizationSource
  let expectedConversion : LocalizationConversion := if source = .odom then .odomToIns else .none
  let observed := observation.localizationSources?
  issueIf (∃ o ∈ observed, source ∉ o.1)
      (planIssue "plan.decisions.localization.source" "unobserved_localization_source"
        "Localization source was not observed"
        (observed.elim [] fun o => o.1.map LocalizationSource.value)) ++
    (if decisions.localizationConversion ≠ expectedConversion then
      [planIssue "plan.decisions.localization.conversion" "invalid_localization_conversion"
        "Localization conversion does not match the selected source" [expectedConversion.value]]
    else issueIf (decisions.localizationConversion = .odomToIns ∧ ∃ o ∈ observed, o.2 = false)
      (planIssue "plan.decisions.localization.conversion" "localization_conversion_unavailable"
        "The observed odom-to-ins converter is unavailable")) ++
    observation.runtimeAssets?.elim [] fun runtime =>
      issueIf (flag runtime.noobsceneLocalizationVariants source.value = false)
          (planIssue "plan.decisions.localization.source"
            "noobscene_localization_variant_unavailable"
            "The selected localization-specific NoobScenes script is unavailable"
            (availableNames runtime.noobsceneLocalizationVariants)) ++
        issueIf (flag runtime.speedDirectionVariants source.value = false)
          (planIssue "plan.decisions.localization.source" "speed_direction_variant_unavailable"
            "The selected localization-specific speed/direction script is unavailable"
            (availableNames runtime.speedDirectionVariants))

def sourceObserved (observation : NavigationObservationRevision) (source : GridmapSource) : Bool :=
  observation.gridmapArtifacts?.any fun (existingGridmapPaths, pcdSources, projectionReady) =>
    match source with
    | .existingGridmap => existingGridmapPaths ≠ []
    | .generatedFromPcd => pcdSources ≠ []
    | .projectionReady => projectionReady

def validateGridmap (observation : NavigationObservationRevision)
    (decisions : FinishProcessingDecisions) : List PlanValidationIssue :=
  let source := decisions.gridmapSource
  issueIf (sourceObserved observation source = false)
      (planIssue "plan.decisions.gridmap.source" "unobserved_gridmap_source"
        "Gridmap source is not supported by observed artifacts"
        (([GridmapSource.existingGridmap, .generatedFromPcd, .projectionReady].filter
          (sourceObserved observation)).map GridmapSource.value)) ++
    issueIf (source = .generatedFromPcd ∧
        ∃ runtime ∈ observation.runtimeAssets?, runtime.pcdGridmapToolAvailable = false)
      (planIssue "plan.decisions.gridmap.source" "gridmap_capability_unavailable"
        "PCD gridmap generation capability is unavailable")

def validateCalibration (observation : NavigationObservationRevision)
    (evidence : List EvidenceDescriptor) (decisions : FinishProcessingDecisions) :
    List PlanValidationIssue :=
  let facts := observation.annotationJobFacts?
  let inventory := observation.calibrationInventory?
  let selected := decisions.selectedSensorSource
  (if decisions.calibrationMode = .annotationSnapshot then
    issueIf (¬ facts.any fun f =>
        f.readyForPostprocessing && f.processingCalibrationSnapshotAvailable)
      (planIssue "plan.decisions.calibration.mode" "annotation_calibration_snapshot_unavailable"
        "A tracked Annotation Job calibration snapshot is required" ["annotation_snapshot"])
  else match selected with
    | none => issueIf (inventory = some [])
        (planIssue "plan.decisions.calibration.selected_sensor_source"
          "calibration_inventory_empty"
          "No observed calibration profile is available for structured selection")
    | some source => issueIf (∃ sources ∈ inventory, source ∉ sources)
        (planIssue "plan.decisions.calibration.selected_sensor_source"
          "unobserved_calibration_source" "Calibration sensor source was not observed"
          (boundedAllowedValues (inventory.getD [])
            (observationInventoryPointer observation evidence .calibrationInventory)))) ++
    issueIf (decisions.calibrationMode ≠ .annotationSnapshot ∧
        decisions.requiresUserConfirmation = false)
      (planIssue "plan.decisions.calibration.requires_user_confirmation"
        "calibration_confirmation_required"
        "Selected calibration always requires explicit user confirmation" ["true"])

def gridmapVariantBySource : GridmapSource → StepVariant
  | .existingGridmap => .copyExistingGridmap
  | .generatedFromPcd => .generateFromPcd
  | .projectionReady => .skipIfProjectionReady

def projectionVariantBySource : LocalizationSource → StepVariant
  | .ins => .cjlWithGridmap
  | .odom => .cjl0525WithGridmap

def validateStepReferences (observation : NavigationObservationRevision)
    (evidence : List EvidenceDescriptor) (decisions : FinishProcessingDecisions) (index : ℕ)
    (step : PlanStep) : List PlanValidationIssue :=
  let runtime := observation.runtimeAssets?
  let expectedVariant := gridmapVariantBySource decisions.gridmapSource
  let expectedProjectionVariant := projectionVariantBySource decisions.localizationSource
  issueIf (step.action = .runInitialAnnotationGui ∧
        ∃ r ∈ runtime, r.manualAnnotationGuiAvailable = false)
      (planIssue s!"plan.steps.{index}.action" "runtime_action_unavailable"
        "Manual annotation GUI is unavailable in observed runtime assets"
        (observationInventoryPointer observation evidence .runtimeAssets)) ++
    issueIf (step.action = .prepareGridmapForProjection ∧ step.variant ≠ expectedVariant)
      (planIssue s!"plan.steps.{index}.variant" "variant_decision_mismatch"
        "Gridmap variant does not match the selected source" [expectedVariant.id]) ++
    issueIf (step.action = .runProjectionAndTrajectory ∧
        ∃ r ∈ runtime, flag r.projectionVariants step.variant.id = false)
      (planIssue s!"plan.steps.{index}.variant" "projection_variant_unavailable"
        "Projection variant is unavailable in observed runtime assets"
        (boundedAllowedValues (runtime.elim [] fun r => availableNames r.projectionVariants)
          (observationInventoryPointer observation evidence .runtimeAssets))) ++
    issueIf (step.action = .runProjectionAndTrajectory ∧
        step.variant ≠ expectedProjectionVariant)
      (planIssue s!"plan.steps.{index}.variant" "projection_localization_mismatch"
        "Projection variant does not match the selected localization pipeline"
        [expectedProjectionVariant.id])

def validateFinishReferences (observation : NavigationObservationRevision)
    (evidence : List EvidenceDescriptor) (plan : FinishProcessingPlanInput) :
    List PlanValidationIssue :=
  validateLocalization observation plan.decisions ++ validateGridmap observation plan.decisions ++
    validateCalibration observation evidence plan.decisions ++
    plan.steps.zipIdx.flatMap fun (step, index) =>
      validateStepReferences observation evidence plan.decisions index step

def argumentsSatisfy (argumentModel : Option String) (arguments : StepArguments) : Option Bool :=
  match argumentModel, arguments with
  | some "EmptyArguments", .empty => some true
  | some "EmptyArguments", .extractSync _ => some false
  | some "ExtractSyncArguments", .empty => some false
  | some "ExtractSyncArguments", .extractSync n => some (1 ≤ n ∧ n ≤ 64)
  | _, _ => none

def decisionNames : List String := ["calibration", "gridmap", "localization"]

/-- One turn of the loop of `_validate_capability_contracts`. -/
def validateStepCapability (phaseCapabilities : List ToolCapability) (index : ℕ)
    (step : PlanStep) : List PlanValidationIssue :=
  -- Of two capabilities with one name the later one counts.
  let capability? (name : String) := phaseCapabilities.reverse.find? fun c => c.toolName = name
  let allowedActions := (phaseCapabilities.map ToolCapability.toolName).filter fun name =>
    (capability? name).any fun c => c.variants.any fun v => v.status = .available
  let contract := "action_contract:" ++ step.action.name
  match capability? step.action.name with
  | none => [planIssue s!"plan.steps.{index}.action" "unknown_action"
      "Action is not available in the active phase"
      (boundedAllowedValues allowedActions (allowedActions.map ("action_contract:" ++ ·)))]
  | some capability =>
    let allowedVariants := (capability.variants.filter (·.status = .available)).map (·.id)
    issueIf (step.variant.id ∉ allowedVariants)
        (planIssue s!"plan.steps.{index}.variant" "unknown_variant"
          "Variant is not available for the selected action"
          (boundedAllowedValues allowedVariants [contract])) ++
      (match argumentsSatisfy capability.argumentModel step.arguments with
      | none => [planIssue s!"plan.steps.{index}.arguments" "unknown_argument_contract"
          "Action argument contract is not registered" [contract]]
      | some satisfied => issueIf (satisfied = false)
          (planIssue s!"plan.steps.{index}.arguments" "invalid_arguments"
            "Arguments do not satisfy the selected action contract" [contract])) ++
      step.decisionRefs.zipIdx.flatMap fun (ref, refIndex) =>
        issueIf (ref ∉ decisionNames)
          (planIssue s!"plan.steps.{index}.decision_refs.{refIndex}" "unknown_decision_ref"
            "Step decision reference does not exist" decisionNames)

def validateCapabilityContracts (capabilities : List ToolCapability)
    (plan : FinishProcessingPlanInput) : List PlanValidationIssue :=
  let phaseCapabilities := capabilities.filter fun c =>
    c.phase = some .finishProcessing ∧ c.executorAgentAllowed = true
  plan.steps.zipIdx.flatMap fun (step, index) =>
    validateStepCapability phaseCapabilities index step

def legacyFullPipeline : List StepAction :=
  [.confirmNavigationCalibrationParams, .assembleFinishTemp, .runNoobscenePreprocessing,
    .runInitialAnnotationGui, .runTracking, .prepareGridmapForProjection,
    .runProjectionAndTrajectory, .validateNavigationOutputs]

def applicationPipeline : List StepAction :=
  [.confirmNavigationCalibrationParams, .runAnnotationTrackingWorkflow,
    .runAnnotationPostprocessingWorkflow, .validateNavigationOutputs]

def legacyRuntimeActions : List StepAction :=
  [.assembleFinishTemp, .runNoobscenePreprocessing, .runInitialAnnotationGui, .runTracking,
    .prepareGridmapForProjection, .runProjectionAndTrajectory]

def applicationRuntimeActions : List StepAction :=
  [.runAnnotationTrackingWorkflow, .runAnnotationPostprocessingWorkflow]

def TrackedAnnotationJob (facts : AnnotationJobFacts) : Prop :=
  facts.readyForPostprocessing = true ∧ facts.jobStatus = .tracked

instance (facts : AnnotationJobFacts) : Decidable (TrackedAnnotationJob facts) := by
  unfold TrackedAnnotationJob
  infer_instance

def requiredActions (observation : NavigationObservationRevision) : List StepAction :=
  if observation.FinalOutputsComplete then [.validateNavigationOutputs]
  else match observation.annotationJobFacts? with
    | some facts =>
      if TrackedAnnotationJob facts then
        [.runAnnotationPostprocessingWorkflow, .validateNavigationOutputs]
      else applicationPipeline
    | none => legacyFullPipeline

def canonicalPipeline (actions : List StepAction) : List StepAction :=
  if ∃ a ∈ applicationRuntimeActions, a ∈ actions then applicationPipeline else legacyFullPipeline

def lastPosition (actions : List StepAction) (action : StepAction) : ℕ :=
  actions.length - 1 - actions.reverse.idxOf action

def validateFinishPlanInternalConsistency (plan : FinishProcessingPlanInput) :
    List PlanValidationIssue :=
  let confirmation := StepAction.confirmNavigationCalibrationParams
  let required := plan.decisions.requiresUserConfirmation
  if required = false ∧ confirmation ∈ plan.actions then
    [planIssue s!"plan.steps.{lastPosition plan.actions confirmation}"
      "unexpected_calibration_confirmation"
      ("Plan must not request calibration confirmation when the " ++
        "calibration decision does not require it")]
  else issueIf (required = true ∧ confirmation ∉ plan.actions)
    (planIssue "plan.steps" "missing_calibration_confirmation"
      "Plan requires a calibration confirmation step" [confirmation.name])

/-- The first of two actions, when both are there, comes after the second. -/
def Reversed (actions : List StepAction) (earlier later : StepAction) : Prop :=
  earlier ∈ actions ∧ later ∈ actions ∧ actions.idxOf later < actions.idxOf earlier

instance (actions : List StepAction) (earlier later : StepAction) :
    Decidable (Reversed actions earlier later) := by
  unfold Reversed
  infer_instance

/-- `_validate_finish_business_order`; `positions` has the first position of an action. -/
def validateFinishBusinessOrder (plan : FinishProcessingPlanInput)
    (observation : NavigationObservationRevision) : List PlanValidationIssue :=
  let actions := plan.actions
  let position := actions.idxOf
  let missingActions := (requiredActions observation).filter (· ∉ actions)
  let canonical := canonicalPipeline actions
  let present := canonical.filter (· ∈ actions)
  let confirmation := position .confirmNavigationCalibrationParams
  let validation := position .validateNavigationOutputs
  issueIf (missingActions ≠ [])
      (planIssue "plan.steps" "incomplete_finish_pipeline"
        "Finish Plan is missing required actions for the observed artifact state"
        (missingActions.map StepAction.name)) ++
    issueIf (∃ p ∈ present.zip present.tail, position p.2 ≤ position p.1)
      (planIssue "plan.steps" "invalid_finish_pipeline_order"
        "Finish processing actions must follow the canonical business order"
        (canonical.map StepAction.name)) ++
    validateFinishPlanInternalConsistency plan ++
    issueIf (.confirmNavigationCalibrationParams ∈ actions ∧ confirmation ≠ 0)
      (planIssue s!"plan.steps.{confirmation}" "calibration_confirmation_not_first"
        "Calibration confirmation must precede processing") ++
    issueIf (Reversed actions .runTracking .prepareGridmapForProjection)
      (planIssue s!"plan.steps.{position .prepareGridmapForProjection}" "gridmap_before_tracking"
        "Gridmap preparation must run after tracking") ++
    issueIf (Reversed actions .prepareGridmapForProjection .runProjectionAndTrajectory)
      (planIssue s!"plan.steps.{position .runProjectionAndTrajectory}" "projection_before_gridmap"
        "Projection must run after gridmap preparation") ++
    issueIf (.validateNavigationOutputs ∈ actions ∧ validation ≠ plan.steps.length - 1)
      (planIssue s!"plan.steps.{validation}" "validation_not_last"
        "Output validation must be the final plan step") ++
    issueIf ((∃ a ∈ legacyRuntimeActions, a ∈ actions) ∧
        ∃ a ∈ applicationRuntimeActions, a ∈ actions)
      (planIssue "plan.steps" "mixed_finish_runtime_ownership"
        ("A finish Plan cannot mix legacy script actions with the " ++
          "Annotation Application Service workflow"))

def validateFinishPlan (task : TaskRow) (observation : NavigationObservationRevision)
    (plan : FinishProcessingPlanInput) (evidence : List EvidenceDescriptor)
    (capabilities : List ToolCapability) (minimumFinishObservationRevision : ℤ := 0)
    (requireFinishAnnotationFacts : Bool := false) : PlanValidationReport :=
  let evidenceIssues := validateEvidenceRefs task observation evidence
  report (validateObservation task observation evidence minimumFinishObservationRevision
      requireFinishAnnotationFacts ++
    evidenceIssues "localization" plan.decisions.localizationEvidence ++
    evidenceIssues "gridmap" plan.decisions.gridmapEvidence ++
    evidenceIssues "calibration" plan.decisions.calibrationEvidence ++
    validateFinishReferences observation evidence plan ++
    validateCapabilityContracts capabilities plan ++
    validateDependencies plan.steps ++
    validateFinishBusinessOrder plan observation)

end DataJuicer.Navigation

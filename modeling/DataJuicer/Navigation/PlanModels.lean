import DataJuicer.Lib.PyText

/-! # Plan inputs

A plan has typed decisions and a non-empty list of steps. What the strict input models
check is a field of the structures below, so that a value of these types is a plan that
`model_validate` accepts. The reasons of decisions are left out, as nothing reads them.
-/

namespace DataJuicer.Navigation

inductive PlanPhase
  | extractSync
  | finishProcessing
  | trajectoryReview
  deriving DecidableEq

def PlanPhase.value : PlanPhase → String
  | .extractSync => "extract_sync"
  | .finishProcessing => "finish_processing"
  | .trajectoryReview => "trajectory_review"

inductive StepAction
  | prepareRawData
  | extractAndSyncNavigationData
  | confirmNavigationCalibrationParams
  | assembleFinishTemp
  | runNoobscenePreprocessing
  | runInitialAnnotationGui
  | runTracking
  | runAnnotationTrackingWorkflow
  | prepareGridmapForProjection
  | runProjectionAndTrajectory
  | runAnnotationPostprocessingWorkflow
  | validateNavigationOutputs
  | openTrajectoryFixWorkbench
  | validateTrajectoryReviewOutcome
  deriving DecidableEq

namespace StepAction

def name : StepAction → String
  | prepareRawData => "prepare_raw_data"
  | extractAndSyncNavigationData => "extract_and_sync_navigation_data"
  | confirmNavigationCalibrationParams => "confirm_navigation_calibration_params"
  | assembleFinishTemp => "assemble_finish_temp"
  | runNoobscenePreprocessing => "run_noobscene_preprocessing"
  | runInitialAnnotationGui => "run_initial_annotation_gui"
  | runTracking => "run_tracking"
  | runAnnotationTrackingWorkflow => "run_annotation_tracking_workflow"
  | prepareGridmapForProjection => "prepare_gridmap_for_projection"
  | runProjectionAndTrajectory => "run_projection_and_trajectory"
  | runAnnotationPostprocessingWorkflow => "run_annotation_postprocessing_workflow"
  | validateNavigationOutputs => "validate_navigation_outputs"
  | openTrajectoryFixWorkbench => "open_trajectory_fix_workbench"
  | validateTrajectoryReviewOutcome => "validate_trajectory_review_outcome"

def phase : StepAction → PlanPhase
  | prepareRawData | extractAndSyncNavigationData => .extractSync
  | openTrajectoryFixWorkbench | validateTrajectoryReviewOutcome => .trajectoryReview
  | _ => .finishProcessing

end StepAction

inductive StepVariant
  | default
  | explicitTopicParams
  | humanGui
  | durableWebHandoff
  | copyExistingGridmap
  | generateFromPcd
  | skipIfProjectionReady
  | cjlWithGridmap
  | cjl0525WithGridmap
  | planBoundRuntime
  | expectGridmap
  | durableHumanHandoff
  | approvedOrTerminal
  deriving DecidableEq

def StepVariant.id : StepVariant → String
  | .default => "default"
  | .explicitTopicParams => "explicit_topic_params"
  | .humanGui => "human_gui"
  | .durableWebHandoff => "durable_web_handoff"
  | .copyExistingGridmap => "copy_existing_gridmap"
  | .generateFromPcd => "generate_from_pcd"
  | .skipIfProjectionReady => "skip_if_projection_ready"
  | .cjlWithGridmap => "cjl_with_gridmap"
  | .cjl0525WithGridmap => "cjl_0525_with_gridmap"
  | .planBoundRuntime => "plan_bound_runtime"
  | .expectGridmap => "expect_gridmap"
  | .durableHumanHandoff => "durable_human_handoff"
  | .approvedOrTerminal => "approved_or_terminal"

def StepAction.variants : StepAction → List StepVariant
  | extractAndSyncNavigationData => [.explicitTopicParams]
  | runInitialAnnotationGui => [.humanGui]
  | runAnnotationTrackingWorkflow => [.durableWebHandoff]
  | prepareGridmapForProjection =>
    [.copyExistingGridmap, .generateFromPcd, .skipIfProjectionReady]
  | runProjectionAndTrajectory => [.cjlWithGridmap, .cjl0525WithGridmap]
  | runAnnotationPostprocessingWorkflow => [.planBoundRuntime]
  | validateNavigationOutputs => [.expectGridmap]
  | openTrajectoryFixWorkbench => [.durableHumanHandoff]
  | validateTrajectoryReviewOutcome => [.approvedOrTerminal]
  | _ => [.default]

/-- `EmptyArguments` or `ExtractSyncArguments` with its `processes_num`. -/
inductive StepArguments
  | empty
  | extractSync (processesNum : ℕ)
  deriving DecidableEq

def StepArguments.Fits : StepArguments → StepAction → Prop
  | .extractSync n, .extractAndSyncNavigationData => 1 ≤ n ∧ n ≤ 64
  | .empty, .extractAndSyncNavigationData => False
  | .empty, _ => True
  | .extractSync _, _ => False

instance (a : StepArguments) (s : StepAction) : Decidable (a.Fits s) := by
  unfold StepArguments.Fits
  split <;> infer_instance

/-- The pattern `^[a-z][a-z0-9_]*$` of step ids. -/
def matchesStepId (s : String) : Bool :=
  match s.toList with
  | [] => false
  | c :: cs => c.isLower && cs.all fun c => c.isLower || c.isDigit || c == '_'

structure PlanStep where
  stepId : String
  dependsOn : List String
  decisionRefs : List String
  action : StepAction
  variant : StepVariant
  arguments : StepArguments
  stepId_pattern : matchesStepId stepId = true
  variant_mem : variant ∈ action.variants
  arguments_fit : arguments.Fits action

inductive SensorRole
  | fisheyeFront
  | lidar
  | odom
  | ins
  | localization
  | gridmap
  deriving DecidableEq

def SensorRole.value : SensorRole → String
  | .fisheyeFront => "fisheye_front"
  | .lidar => "lidar"
  | .odom => "odom"
  | .ins => "ins"
  | .localization => "localization"
  | .gridmap => "gridmap"

structure ExtractSyncDecisions where
  bindings : List (SensorRole × String)
  bindings_nodup : (bindings.map Prod.fst).Nodup
  bindingEvidence : List String
  topicWhitelist : List String
  topicMap : List (String × String)
  topicMap_nodup : (topicMap.map Prod.fst).Nodup
  queryDir : String
  topicEvidence : List String
  referenceSensor : String
  timeSyncEvidence : List String
  topicWhitelist_ne : topicWhitelist ≠ []
  topicMap_ne : topicMap ≠ []
  queryDir_ne : queryDir ≠ ""
  evidence_ne : bindingEvidence ≠ [] ∧ topicEvidence ≠ [] ∧ timeSyncEvidence ≠ []

inductive LocalizationSource
  | odom
  | ins
  deriving DecidableEq

inductive LocalizationConversion
  | odomToIns
  | none
  deriving DecidableEq

inductive GridmapSource
  | existingGridmap
  | generatedFromPcd
  | projectionReady
  deriving DecidableEq

inductive CalibrationMode
  | hardcodedWithUserConfirmation
  | selectedProfile
  | annotationSnapshot
  deriving DecidableEq

/-- `str.strip()` leaves nothing. -/
def isBlank (s : String) : Bool := s.toList.all fun c => PyStr.isSpace c.toNat

/-- `CalibrationDecision.validate_source_contract` -/
def SourceContract (mode : CalibrationMode) (source : Option String) (confirm : Bool) : Prop :=
  match mode with
  | .annotationSnapshot => source = none ∧ confirm = false
  | .selectedProfile => source.any (fun s => !isBlank s) ∨ (confirm = true ∧ source = none)
  | .hardcodedWithUserConfirmation => source.any fun s => !isBlank s

structure FinishProcessingDecisions where
  localizationSource : LocalizationSource
  localizationConversion : LocalizationConversion
  localizationEvidence : List String
  gridmapSource : GridmapSource
  gridmapEvidence : List String
  calibrationMode : CalibrationMode
  selectedSensorSource : Option String
  requiresUserConfirmation : Bool
  calibrationEvidence : List String
  evidence_ne : localizationEvidence ≠ [] ∧ gridmapEvidence ≠ [] ∧ calibrationEvidence ≠ []
  source_contract :
    SourceContract calibrationMode selectedSensorSource requiresUserConfirmation

structure TrajectoryReviewDecisions where
  reviewEvidence : List String
  evidence_ne : reviewEvidence ≠ []

inductive PlanDecisions
  | extractSync (d : ExtractSyncDecisions)
  | finishProcessing (d : FinishProcessingDecisions)
  | trajectoryReview (d : TrajectoryReviewDecisions)

def PlanDecisions.phase : PlanDecisions → PlanPhase
  | .extractSync _ => .extractSync
  | .finishProcessing _ => .finishProcessing
  | .trajectoryReview _ => .trajectoryReview

/-- `ExtractSyncPlanInput`, `FinishProcessingPlanInput` or `TrajectoryReviewPlanInput`. -/
structure PlanInput where
  decisions : PlanDecisions
  steps : List PlanStep
  steps_ne : steps ≠ []
  steps_phase : ∀ s ∈ steps, s.action.phase = decisions.phase

def PlanInput.phase (plan : PlanInput) : PlanPhase := plan.decisions.phase

def PlanInput.Names (plan : PlanInput) (stepId action : String) : Prop :=
  ∃ s ∈ plan.steps, s.stepId = stepId ∧ s.action.name = action

instance (plan : PlanInput) (stepId action : String) : Decidable (plan.Names stepId action) :=
  inferInstanceAs (Decidable (∃ s ∈ plan.steps, s.stepId = stepId ∧ s.action.name = action))

end DataJuicer.Navigation

import DataJuicer.Navigation.PlanModels

/-! # The capability catalog

The tools of the navigation scenario, with the fields that planning and execution read.
-/

namespace DataJuicer.Navigation

inductive CapabilityStatus
  | available
  | planned
  | placeholder
  | deprecated
  deriving DecidableEq

structure ToolVariantCapability where
  id : String
  status : CapabilityStatus := .available

structure ToolCapability where
  toolName : String
  variants : List ToolVariantCapability
  executorAgentAllowed : Bool := false
  locksNavigationTarget : Bool := false
  phase : Option PlanPhase := none
  argumentModel : Option String := none

/-- A tool that only inspects: no executor may call it and it locks nothing. -/
def inspectionTool (name : String) (phase : Option PlanPhase) (variant : String) :
    ToolCapability where
  toolName := name
  variants := [{ id := variant }]
  phase := phase

def executorTool (action : StepAction) (locks : Bool) : ToolCapability where
  toolName := action.name
  variants := action.variants.map fun v => { id := v.id }
  executorAgentAllowed := true
  locksNavigationTarget := locks
  phase := some action.phase
  argumentModel :=
    if action = .extractAndSyncNavigationData then some "ExtractSyncArguments"
    else some "EmptyArguments"

def navigationToolCapabilities : List ToolCapability :=
  [inspectionTool "inspect_raw_date" none "default",
   inspectionTool "inspect_navigation_raw_metadata" (some .extractSync) "default",
   inspectionTool "inspect_navigation_sensor_candidates" (some .extractSync) "default",
   inspectionTool "inspect_navigation_topic_candidates" (some .extractSync) "default",
   inspectionTool "inspect_navigation_artifact_state" none "default",
   inspectionTool "inspect_navigation_gridmap_artifacts" (some .finishProcessing) "default",
   inspectionTool "inspect_navigation_runtime_assets" (some .finishProcessing) "default",
   inspectionTool "inspect_navigation_calibration_inventory" (some .finishProcessing)
     "default",
   inspectionTool "inspect_navigation_localization_sources" (some .finishProcessing)
     "default",
   inspectionTool "inspect_navigation_annotation_job_facts" none "bounded_application_facts",
   executorTool .prepareRawData true,
   executorTool .extractAndSyncNavigationData true,
   executorTool .confirmNavigationCalibrationParams false,
   executorTool .assembleFinishTemp true,
   executorTool .runNoobscenePreprocessing true,
   executorTool .runInitialAnnotationGui true,
   executorTool .runTracking true,
   executorTool .runAnnotationTrackingWorkflow true,
   executorTool .prepareGridmapForProjection true,
   executorTool .runProjectionAndTrajectory true,
   executorTool .runAnnotationPostprocessingWorkflow true,
   executorTool .validateNavigationOutputs false,
   executorTool .openTrajectoryFixWorkbench true,
   executorTool .validateTrajectoryReviewOutcome false]

/-- The actions that `claim_step` and the writer query take as locking. -/
def lockingActions : List String :=
  (navigationToolCapabilities.filter (·.locksNavigationTarget)).map (·.toolName)

/-- The action has `locks_navigation_target`. -/
def StepAction.LocksTarget (a : StepAction) : Prop := a.name ∈ lockingActions

instance (a : StepAction) : Decidable a.LocksTarget :=
  inferInstanceAs (Decidable (a.name ∈ lockingActions))

end DataJuicer.Navigation

import DataJuicer.Navigation.PlanModels

/-! # Observations

What an observation revision records about the data of a task, with the fields that the
planning code reads. Evidence files are known by their descriptors.
-/

namespace DataJuicer.Navigation

inductive ObservationKind
  | rawMetadata
  | sensorCandidates
  | topicCandidates
  | artifactState
  | gridmapArtifacts
  | runtimeAssets
  | calibrationInventory
  | localizationSources
  | annotationJobFacts
  | userGuidance
  deriving DecidableEq

def ObservationKind.value : ObservationKind → String
  | .rawMetadata => "raw_metadata"
  | .sensorCandidates => "sensor_candidates"
  | .topicCandidates => "topic_candidates"
  | .artifactState => "artifact_state"
  | .gridmapArtifacts => "gridmap_artifacts"
  | .runtimeAssets => "runtime_assets"
  | .calibrationInventory => "calibration_inventory"
  | .localizationSources => "localization_sources"
  | .annotationJobFacts => "annotation_job_facts"
  | .userGuidance => "user_guidance"

structure TopicMeasurement where
  topic : String
  messageType : Option String

structure SensorRoleCandidate where
  role : SensorRole
  topic : String

structure TopicRouteCandidate where
  role : SensorRole
  topic : String
  extractedDir : String
  outputDir : String
  syncReferenceEligible : Bool

inductive AnnotationJobStatus
  | missing
  | preparing
  | waitingInitialAnnotation
  | tracking
  | tracked
  | postprocessing
  | annotated
  | failed
  | cancelled
  deriving DecidableEq

structure RuntimeAssets where
  pcdGridmapToolAvailable : Bool
  manualAnnotationGuiAvailable : Bool
  projectionVariants : List (String × Bool)
  noobsceneLocalizationVariants : List (String × Bool)
  speedDirectionVariants : List (String × Bool)

structure AnnotationJobFacts where
  jobStatus : AnnotationJobStatus
  readyForPostprocessing : Bool
  readyForTrajectoryReview : Bool
  processingCalibrationSnapshotAvailable : Bool

inductive ObservationPayload
  | rawMetadata (topics : List TopicMeasurement)
  | sensorCandidates (candidates : List SensorRoleCandidate)
  | topicCandidates (availableTopics : List String) (routes : List TopicRouteCandidate)
  | artifactState (finalOutputsExist finalGridMapExists : Bool)
  | gridmapArtifacts (existingGridmapPaths pcdSources : List String) (projectionReady : Bool)
  | runtimeAssets (assets : RuntimeAssets)
  | calibrationInventory (sensorSources : List String)
  | localizationSources (availableSources : List LocalizationSource)
      (conversionAvailable : Bool)
  | annotationJobFacts (facts : AnnotationJobFacts)
  | userGuidance (guidanceRevision : ℤ) (text : String)

def ObservationPayload.kind : ObservationPayload → ObservationKind
  | .rawMetadata .. => .rawMetadata
  | .sensorCandidates .. => .sensorCandidates
  | .topicCandidates .. => .topicCandidates
  | .artifactState .. => .artifactState
  | .gridmapArtifacts .. => .gridmapArtifacts
  | .runtimeAssets .. => .runtimeAssets
  | .calibrationInventory .. => .calibrationInventory
  | .localizationSources .. => .localizationSources
  | .annotationJobFacts .. => .annotationJobFacts
  | .userGuidance .. => .userGuidance

structure EvidenceDescriptor where
  ref : String
  taskId : String
  observationRevision : ℕ
  kind : String
  summary : String
  byteSize : ℕ
  sourceTool : String
  createdAt : String

structure NavigationObservationRevision where
  taskId : String
  revision : ℕ
  completedKinds : List ObservationKind
  payloads : List ObservationPayload
  evidenceRefs : List String
  createdAt : ℕ

/-- `_merge_payloads` for one incoming payload: it replaces the payload of its kind. -/
def mergePayload (merged : List ObservationPayload) (payload : ObservationPayload) :
    List ObservationPayload :=
  if merged.any (fun p => p.kind = payload.kind) then
    -- The index map keeps the last position of a kind.
    let before := merged.reverse.dropWhile fun p => p.kind ≠ payload.kind
    let after := merged.reverse.takeWhile fun p => p.kind ≠ payload.kind
    before.tail.reverse ++ payload :: after.reverse
  else merged ++ [payload]

/-- `_payload_of_type`: the first payload of a kind. -/
def NavigationObservationRevision.payload? (o : NavigationObservationRevision)
    (kind : ObservationKind) : Option ObservationPayload :=
  o.payloads.find? fun p => p.kind = kind

end DataJuicer.Navigation

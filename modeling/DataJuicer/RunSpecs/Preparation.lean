import DataJuicer.Lib.Json
import DataJuicer.RunSpecs.StoredModels
import Mathlib.Logic.Function.Basic

/-! # Preparing a run

The stages of a request are normalised one by one: a parameter takes part when its condition holds,
and so does the parameter that the condition is about. From the normalised stages the command lines
are built, each in a private and a public form.
-/

namespace DataJuicer.RunSpecs

open Transaction Models

inductive StageInputSource
  | manual
  | previousStageOutput
  deriving DecidableEq

structure RunStageRequest where
  parameters : List (String × JsonScalar)
  stageInputSource : StageInputSource

inductive ExecutionMode
  | simulation
  | real
  deriving DecidableEq

structure DatasetSelection where
  trainReplicaRefs : List String
  testReplicaRefs : List String

structure RunRequest where
  familyRef : String
  serverRef : String
  gpuUuids : List String
  stages : List RunStageRequest
  executionMode : ExecutionMode
  versionDescription : String
  datasetSelection : Option DatasetSelection

inductive PrepareError
  | validation (code message : String)
  | forbidden (code message : String)
  /-- An error that `_prepare` does not turn into one of its own. -/
  | raised

inductive ModelStatus
  | draft
  | verified
  | disabled
  deriving DecidableEq

/-- A stored model as `get_model_record` returns it. -/
structure ModelRecord extends StoredConfiguration where
  familyRef : String
  familyName : String
  modelRef : String
  revisionRef : String
  internalRevision : ℕ
  status : ModelStatus

/-- What `_prepare` reads of a node. -/
structure NodeRecord where
  online : Bool
  /-- `training_execution_v1` is among its capabilities or features. -/
  executesTraining : Bool

inductive ServerKind
  | simulation
  | trainingNode
  deriving DecidableEq

/-- What the provider and the store answer. -/
structure Platform where
  simulationEnabled : Bool
  realExecutionEnabled : Bool
  servers : List (String × ServerKind)
  /-- The indexes of the selected GPUs. -/
  requireAvailable : String → List String → Bool → Except PrepareError (List ℕ)
  getModelRecord : String → Except PrepareError ModelRecord
  getNode : String → Except PrepareError NodeRecord
  resolveDatasetSelection : String → List String → List String → Except PrepareError Json

/-- The state of the loop over the definitions. -/
structure StageState where
  normalized : String → Option JsonScalar
  sensitive : List String
  active : String → Option Bool
  resolving : List String

def StageState.initial : StageState := ⟨fun _ => none, [], fun _ => none, []⟩

/-- `by_name.get`; a later definition of a name replaces an earlier one. -/
def byName (definitions : List ParameterDefinition) (name : String) : Option ParameterDefinition :=
  definitions.reverse.find? fun d => d.name = name

theorem mem_of_byName {definitions : List ParameterDefinition} {name : String}
    {d : ParameterDefinition} (h : byName definitions name = some d) : d ∈ definitions :=
  List.mem_reverse.1 (List.mem_of_find?_eq_some h)

structure StageContext where
  texts : Texts
  definitions : List ParameterDefinition
  source : StageInputSource
  supplied : List (String × JsonScalar)
  stageNumber : ℕ

namespace StageContext

variable (c : StageContext)

def stageInput : Option ParameterDefinition :=
  c.definitions.find? fun d => d.semanticRole = .stageInput

/-- The value is the output of the previous stage. -/
def Automatic (d : ParameterDefinition) : Prop :=
  c.source = .previousStageOutput ∧ c.stageInput.any fun e => d.name = e.name

instance : DecidablePred c.Automatic := fun _ => inferInstanceAs (Decidable (_ ∧ _))

def value (d : ParameterDefinition) : JsonScalar := (c.supplied.lookup d.name).getD d.default

/-- `f"Stage {stage_number}: {exc}"` -/
def stageMessage (message : String) : String :=
  "Stage " ++ toString c.stageNumber ++ ": " ++ message

/-- A parameter is active and leaves the set of those that are being resolved. -/
def activate (d : ParameterDefinition) (s : StageState) : StageState :=
  { s with
    resolving := s.resolving.filter (· ≠ d.name)
    active := Function.update s.active d.name (some true)
    sensitive := if d.sensitive then s.sensitive ++ [d.name] else s.sensitive }

/-- The value of an active parameter is normalised. -/
def accept (d : ParameterDefinition) (s : StageState) : Except PrepareError (Bool × StageState) :=
  match normalizeParameterValue c.texts.repr d (c.value d) with
  | .ok v => .ok (true,
      activate d { s with normalized := Function.update s.normalized d.name (some v) })
  | .error (.value message) => .error (.validation "invalid_parameter" (c.stageMessage message))
  | .error .overflow => .error .raised

def resolve (d : ParameterDefinition) (_hd : d ∈ c.definitions) (s : StageState) :
    Except PrepareError (Bool × StageState) :=
  match s.active d.name with
  | some b => .ok (b, s)
  | none =>
    if _hnew : d.name ∈ s.resolving then
      .error (.validation "invalid_parameter_dependency"
        "The model contains a cyclic parameter dependency.")
    else if c.Automatic d then .ok (true, activate d s)
    else match d.visibleWhen with
      | none => c.accept d { s with resolving := d.name :: s.resolving }
      | some condition =>
        match hcontroller : byName c.definitions condition.parameterKey with
        | none => .error (.validation "invalid_parameter_dependency"
            "The model contains an unknown dependency controller.")
        | some controller =>
          match resolve controller (mem_of_byName hcontroller)
              { s with resolving := d.name :: s.resolving } with
          | .error e => .error e
          | .ok (b, s') =>
            if b ∧ (s'.normalized controller.name).any fun v => v.eq condition.equals then
              c.accept d s'
            else .ok (false, { s' with
              resolving := s'.resolving.filter (· ≠ d.name)
              active := Function.update s'.active d.name (some false) })
  termination_by (c.definitions.filter fun e => e.name ∉ s.resolving).length
  decreasing_by exact unvisited_lt ParameterDefinition.name _hd _hnew

def resolveAll : (ds : List ParameterDefinition) → (∀ d ∈ ds, d ∈ c.definitions) → StageState →
    Except PrepareError StageState
  | [], _, s => .ok s
  | d :: ds, h, s => do
    let (_, s) ← c.resolve d (h d List.mem_cons_self) s
    resolveAll ds (fun e he => h e (List.mem_cons_of_mem d he)) s

end StageContext

/-- A stage whose values have been normalised. -/
structure NormalizedStage where
  parameters : String → Option JsonScalar
  sensitiveParameters : List String
  stageInputSource : StageInputSource
  totalSteps : ℤ

/-- `int(normalized.get("max_steps", 20))` -/
def stepCount (texts : Texts) : Option JsonScalar → Except PrepareError ℤ
  | none => .ok 20
  | some (.bool b) => .ok (if b then 1 else 0)
  | some (.number (.int n)) => .ok n
  | some (.number (.float x)) =>
    match x.value with
    | .finite q => .ok (q.num.tdiv q.den)
    | _ => .error .raised
  | some (.str s) => orRaise .raised (texts.int s)

def maximumSteps : ExecutionMode → ℤ
  | .simulation => 10000
  | .real => 10000000

def normalizeStage (texts : Texts) (definitions : List ParameterDefinition) (mode : ExecutionMode)
    (stageNumber : ℕ) (stage : RunStageRequest) : Except PrepareError NormalizedStage := do
  let c : StageContext :=
    ⟨texts, definitions, stage.stageInputSource, stage.parameters, stageNumber⟩
  raiseIf (stageNumber = 1 ∧ c.source ≠ .manual)
    (.validation "invalid_stage_input_source" "The first stage must use manual input.")
  raiseIf (c.source = .previousStageOutput ∧ c.stageInput = none)
    (.validation "stage_input_not_registered"
      "The model family has no stage input parameter; use manual input for every stage.")
  raiseIf (∃ e ∈ c.supplied, byName definitions e.1 = none)
    (.validation "unknown_parameter"
      ("Stage " ++ toString stageNumber ++ " contains an unknown training parameter."))
  let s ← c.resolveAll definitions (fun _ h => h) .initial
  let totalSteps ← stepCount texts (s.normalized "max_steps")
  raiseIf (totalSteps < 1 ∨ maximumSteps mode < totalSteps)
    (.validation "invalid_max_steps"
      ("max_steps must be between 1 and " ++ toString (maximumSteps mode) ++ "."))
  return ⟨s.normalized, s.sensitive, c.source, totalSteps⟩

def normalizeStages (texts : Texts) (definitions : List ParameterDefinition)
    (mode : ExecutionMode) : ℕ → List RunStageRequest → Except PrepareError (List NormalizedStage)
  | _, [] => .ok []
  | n, stage :: rest => do
    return (← normalizeStage texts definitions mode n stage) ::
      (← normalizeStages texts definitions mode (n + 1) rest)

/-- `bool(value)` -/
def JsonScalar.truthy : JsonScalar → Bool
  | .bool b => b
  | .number x => x.value ≠ .finite 0
  | .str s => s ≠ ""

/-- `str(value)` -/
def JsonScalar.text : JsonScalar → String
  | .bool b => if b then "True" else "False"
  | .number (.int n) => Json.intText n
  | .number (.float x) => x.repr
  | .str s => s

/-- What stands for the value of a sensitive parameter. -/
def hidden : String := "********"

/-- The text of a value on the command line. -/
def rendered (d : ParameterDefinition) (value : JsonScalar) : String :=
  if d.argumentStyle = .explicitBoolean then (if value.truthy then "True" else "False")
  else value.text

def parameterTokens (d : ParameterDefinition) (value : JsonScalar) (text : String) : List String :=
  if d.argumentStyle = .flagWhenTrue then (if value.truthy then [d.cliFlag] else [])
  else [d.cliFlag, text]

def argumentTokens (text : ParameterDefinition → JsonScalar → String)
    (parameters : String → Option JsonScalar) : List ParameterDefinition → List String
  | [] => []
  | d :: ds =>
    match parameters d.name with
    | none => argumentTokens text parameters ds
    | some value => parameterTokens d value (text d value) ++ argumentTokens text parameters ds

/-- The text of a value in the public command line. -/
def safeRendered (d : ParameterDefinition) (value : JsonScalar) : String :=
  if d.sensitive then hidden else rendered d value

def torchrunOptions (nprocPerNode : ℕ) (port : ℕ) : List String :=
  ["--nnodes=1", "--nproc_per_node=" ++ toString nprocPerNode, "--master_addr=127.0.0.1",
    "--master_port=" ++ toString port, "--node_rank=0"]

def rstripSlash (s : String) : String := String.ofList (s.toList.rdropWhile (· = '/'))

/-- `f"{n:02d}"` -/
def twoDigits (n : ℕ) : String := if n < 10 then "0" ++ toString n else toString n

def stageNames : List String :=
  ["第一阶段", "第二阶段", "第三阶段", "第四阶段", "第五阶段", "第六阶段", "第七阶段", "第八阶段",
    "第九阶段", "第十阶段"]

/-- The specification of a stage that is shown. -/
structure PublicSpec where
  executionMode : ExecutionMode
  familyRef : String
  familyName : String
  versionLabel : String
  stageNumber : ℕ
  stageName : String
  serverRef : String
  gpuUuids : List String
  launcherKind : LauncherKind
  masterAddr : Option String
  masterPort : Option ℕ
  nodeRank : Option ℕ
  nprocPerNode : ℕ
  visibleDevices : String
  runtimeEnvironment : RuntimeEnvironment
  monitoring : MonitoringFormat
  parameters : String → Option JsonScalar
  entrypoint : String
  argv : List String
  outputPreview : String
  datasetManifest : Option String

/-- The specification that the worker gets. -/
structure PrivateSpec where
  publicSpec : PublicSpec
  modelRef : String
  internalModelRevision : ℕ
  revisionRef : String
  gpuIndexes : List ℕ
  parameters : String → Option JsonScalar
  sensitiveParameters : List String
  workingDirectory : String
  outputRoot : String
  outputDirectory : String
  argv : List String
  safeCommandPreview : String

structure ReadyCheck where
  code : String
  message : String

def readyCode : ExecutionMode → String
  | .simulation => "simulation_ready"
  | .real => "real_preview_ready"

def stageCheck (mode : ExecutionMode) : ReadyCheck where
  code := readyCode mode
  message := match mode with
    | .simulation => "Simulation inputs and GPU availability are valid."
    | .real => "真实节点、GPU 和参数已通过预览校验；未创建任务、租约或进程。"

structure BuiltStage where
  stageNumber : ℕ
  stageName : String
  stageInputSource : StageInputSource
  parameters : String → Option JsonScalar
  privateSpec : PrivateSpec
  runSpec : PublicSpec
  commandPreview : String
  outputDirectory : String
  totalSteps : ℤ
  preflight : ReadyCheck

/-- A character that `shlex.quote` leaves alone. -/
def unquoted (c : Char) : Bool :=
  isWordChar c || c ∈ ['@', '%', '+', '=', ':', ',', '.', '/', '-']

def shlexQuote (s : String) : String :=
  if s = "" then "''"
  else if s.toList.all unquoted then s
  else String.ofList ('\'' :: (s.toList.flatMap fun c =>
    if c = '\'' then ['\'', '"', '\'', '"', '\''] else [c]) ++ ['\''])

def shlexJoin (argv : List String) : String := " ".intercalate (argv.map shlexQuote)

structure VersionMeta where
  versionLabel : String
  snapshotRef : Option String

/-- What `_prepare` has found out when it returns. -/
structure Prepared where
  texts : Texts
  data : RunRequest
  record : ModelRecord
  definitions : List ParameterDefinition
  stages : List NormalizedStage
  indexes : List ℕ
  datasetSplits : Option Json

namespace Prepared

variable (p : Prepared)

def template : LaunchTemplate := p.record.launchTemplate

def usesTorchrun : Bool := p.template.launcher = .torchrun

def nprocPerNode : ℕ := if p.usesTorchrun then p.indexes.length else 1

def stageInput : Option ParameterDefinition :=
  p.definitions.find? fun d => d.semanticRole = .stageInput

variable (runRef : String) (port : Option ℕ) (version : VersionMeta)

def versionSegment : String := if runRef = "preview" then "preview" else version.versionLabel

def versionOutputRoot : String :=
  rstripSlash p.template.outputRoot ++ "/" ++ p.record.familyRef ++ "/" ++
    versionSegment runRef version

def datasetManifestPath : Option String :=
  p.datasetSplits.map fun _ => p.versionOutputRoot runRef version ++ "/dataset-manifest.json"

def datasetManifest : Option Json :=
  p.datasetSplits.map fun splits => .obj [("contract", .str "datapilot_dataset_manifest_v1"),
    ("snapshot_ref", .str (version.snapshotRef.getD "preview")),
    ("run_ref", if runRef = "preview" then .null else .str runRef),
    ("family_ref", .str p.record.familyRef), ("splits", splits)]

def output (n : ℕ) : String :=
  p.versionOutputRoot runRef version ++ "/stage-" ++ twoDigits n

/-- The tokens in front of the arguments of the platform and of the parameters. -/
def argvHead : List String :=
  if p.usesTorchrun then
    [p.template.executable] ++ torchrunOptions p.nprocPerNode (port.getD 0) ++
      [p.template.entrypoint] ++ p.template.fixedArgv
  else [p.template.executable, p.template.entrypoint] ++ p.template.fixedArgv

/-- The arguments for managed data. -/
def manifestTokens : List String :=
  match p.datasetManifestPath runRef version with
  | some path => [datasetManifestFlag, path]
  | none => []

/-- The command line of a stage, with these texts for the values. -/
def argv (text : ParameterDefinition → JsonScalar → String) (n : ℕ)
    (parameters : String → Option JsonScalar) : List String :=
  p.argvHead port ++ p.manifestTokens runRef version ++
    argumentTokens text parameters p.definitions ++
      [p.template.outputFlag, p.output runRef version n]

def stageParameters (n : ℕ) (previous : Option String) (stage : NormalizedStage) :
    Except PrepareError (String → Option JsonScalar) :=
  match stage.stageInputSource, p.stageInput with
  | .previousStageOutput, some d =>
    match previous with
    | none => .error (.validation "invalid_stage_input_source"
        "A previous stage output is required for automatic stage input.")
    | some path =>
      match normalizeParameterValue p.texts.repr d (.str path) with
      | .ok v => .ok (Function.update stage.parameters d.name (some v))
      | .error (.value message) => .error (.validation "invalid_parameter"
          ("Stage " ++ toString n ++ ": " ++ message))
      | .error .overflow => .error .raised
  | _, _ => .ok stage.parameters

def publicSpec (n : ℕ) (name : String) (stage : NormalizedStage)
    (parameters : String → Option JsonScalar) : PublicSpec where
  executionMode := p.data.executionMode
  familyRef := p.record.familyRef
  familyName := p.record.familyName
  versionLabel := version.versionLabel
  stageNumber := n
  stageName := name
  serverRef := p.data.serverRef
  gpuUuids := p.data.gpuUuids
  launcherKind := p.template.launcher
  masterAddr := if p.usesTorchrun then some "127.0.0.1" else none
  masterPort := if p.usesTorchrun then port else none
  nodeRank := if p.usesTorchrun then some 0 else none
  nprocPerNode := p.nprocPerNode
  visibleDevices := ",".intercalate (p.indexes.map toString)
  runtimeEnvironment := p.template.runtimeEnvironment
  monitoring := p.template.monitoring
  parameters := fun key => (parameters key).map fun v =>
    if key ∈ stage.sensitiveParameters then .str hidden else v
  entrypoint := p.template.entrypoint
  argv := p.argv runRef port version safeRendered n parameters
  outputPreview := p.output runRef version n
  datasetManifest := p.datasetManifestPath runRef version

def buildStage (n : ℕ) (previous : Option String) (stage : NormalizedStage) :
    Except PrepareError BuiltStage := do
  let parameters ← p.stageParameters n previous stage
  let name ← orRaise .raised stageNames[n - 1]?
  let spec := p.publicSpec runRef port version n name stage parameters
  let private_spec : PrivateSpec := {
    publicSpec := spec
    modelRef := p.record.modelRef
    internalModelRevision := p.record.internalRevision
    revisionRef := p.record.revisionRef
    gpuIndexes := p.indexes
    parameters
    sensitiveParameters := stage.sensitiveParameters
    workingDirectory := p.template.workingDirectory
    outputRoot := p.template.outputRoot
    outputDirectory := p.output runRef version n
    argv := p.argv runRef port version rendered n parameters
    safeCommandPreview := shlexJoin spec.argv }
  return {
    stageNumber := n
    stageName := name
    stageInputSource := stage.stageInputSource
    parameters
    privateSpec := private_spec
    runSpec := spec
    commandPreview := private_spec.safeCommandPreview
    outputDirectory := p.output runRef version n
    totalSteps := stage.totalSteps
    preflight := stageCheck p.data.executionMode }

def buildStages : ℕ → Option String → List NormalizedStage →
    Except PrepareError (List BuiltStage)
  | _, _, [] => .ok []
  | n, previous, stage :: rest => do
    let built ← p.buildStage runRef port version n previous stage
    return built :: (← buildStages (n + 1) (some built.outputDirectory) rest)

def build : Except PrepareError (List BuiltStage) := do
  raiseIf (p.usesTorchrun ∧ port = none)
    (.validation "master_port_required" "Torchrun requires an allocated master port.")
  p.buildStages runRef port version 1 none p.stages

end Prepared

/-- The server and the mode of a run fit together. -/
def checkTarget (platform : Platform) (data : RunRequest) (allowRealPreview : Bool) :
    Except PrepareError Unit :=
  let server := platform.servers.lookup data.serverRef
  match data.executionMode with
  | .simulation => do
    raiseIf (¬ platform.simulationEnabled)
      (.forbidden "simulation_disabled" "Training simulation is disabled.")
    raiseIf (server = some .trainingNode) (.validation "real_execution_disabled"
      "真实训练尚未启用；真实训练节点当前只允许生成预览。")
  | .real => do
    raiseIf (¬ allowRealPreview ∧ ¬ platform.realExecutionEnabled)
      (.validation "real_execution_disabled"
        "Real training is disabled by deployment configuration.")
    raiseIf (server = some .simulation) (.validation "invalid_real_preview_target"
      "真实训练预览必须选择已登记的真实训练节点。")

def checkExecution (platform : Platform) (data : RunRequest) (model : ModelRecord)
    (allowRealPreview : Bool) : Except PrepareError Unit :=
  if data.executionMode = .real ∧ ¬ allowRealPreview then do
    raiseIf (model.status ≠ .verified) (.validation "real_training_model_not_verified"
      "The current model configuration must be verified before real training.")
    let node ← platform.getNode data.serverRef
    raiseIf (¬ node.online) (.validation "real_training_node_unavailable"
      "The selected Training Worker node must be online.")
    raiseIf (¬ node.executesTraining) (.validation "real_training_worker_upgrade_required"
      "Update the Training Worker before starting real training.")
  else return ()

def datasetSplits (platform : Platform) (data : RunRequest) (model : ModelRecord) :
    Except PrepareError (Option Json) :=
  let selection := data.datasetSelection.getD ⟨[], []⟩
  match model.dataAccessMode with
  | .datapilotManaged => do
    raiseIf (selection.trainReplicaRefs = []) (.validation "managed_dataset_training_set_required"
      "DataPilot managed data requires at least one training date.")
    some <$> platform.resolveDatasetSelection data.serverRef selection.trainReplicaRefs
      selection.testReplicaRefs
  | .selfManaged => do
    raiseIf (selection.trainReplicaRefs ≠ [] ∨ selection.testReplicaRefs ≠ [])
      (.validation "self_managed_dataset_selection_not_allowed"
        "This model family manages its own training data.")
    return none

def prepare (texts : Texts) (platform : Platform) (data : RunRequest)
    (ignorePlatformLeases allowRealPreview : Bool) : Except PrepareError Prepared := do
  checkTarget platform data allowRealPreview
  let indexes ← platform.requireAvailable data.serverRef data.gpuUuids ignorePlatformLeases
  let model ← platform.getModelRecord data.familyRef
  raiseIf (model.status = .disabled)
    (.validation "model_unavailable" "The selected model family is disabled.")
  raiseIf (model.launchTemplate.serverRef ≠ data.serverRef)
    (.validation "server_mismatch" "The model template belongs to another server.")
  checkExecution platform data model allowRealPreview
  let splits ← datasetSplits platform data model
  let definitions ← (validateStored texts.repr model.parameterDefinitions).mapError
    fun _ => .raised
  let stages ← normalizeStages texts definitions data.executionMode 1 data.stages
  return ⟨texts, data, model, definitions, stages, indexes, splits⟩

end DataJuicer.RunSpecs

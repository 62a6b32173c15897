import DataJuicer.Lib.Json
import DataJuicer.PublicContract.Signals

/-! # Public events

The public names of the tools, and the events that a user may see. The payload of an event is
checked when the event is built: no key of it is internal and no text of it is unsafe.
-/

namespace DataJuicer.PublicContract

open Transaction

inductive ActionVisibility
  | silent
  | grouped
  | visible
  deriving DecidableEq

structure PublicActionDefinition where
  internalTool : String
  actionCode : String
  displayName : String
  visibility : ActionVisibility
  group : String
  phase : Phase
  deriving DecidableEq

def actionDefinitions : List PublicActionDefinition :=
  [⟨"start_navigation_data_task", "start_navigation", "启动导航数据处理",
      .visible, "navigation_task", .setup⟩,
    ⟨"continue_navigation_data_task", "continue_navigation", "继续导航数据处理",
      .visible, "navigation_task", .setup⟩,
    ⟨"control_navigation_data_task", "control_navigation", "更新导航任务状态",
      .visible, "navigation_task", .setup⟩,
    ⟨"inspect_navigation_raw_metadata_tool", "inspect_data", "检查当前数据状态",
      .grouped, "data_inspection", .inspection⟩,
    ⟨"inspect_navigation_sensor_candidates_tool", "inspect_data", "检查当前数据状态",
      .grouped, "data_inspection", .inspection⟩,
    ⟨"inspect_navigation_topic_candidates_tool", "inspect_data", "检查当前数据状态",
      .grouped, "data_inspection", .inspection⟩,
    ⟨"inspect_navigation_artifact_state_tool", "inspect_artifacts", "核对已有处理结果",
      .grouped, "artifact_inspection", .inspection⟩,
    ⟨"inspect_navigation_gridmap_artifacts_tool", "inspect_artifacts", "核对已有处理结果",
      .grouped, "artifact_inspection", .inspection⟩,
    ⟨"inspect_navigation_runtime_assets_tool", "inspect_environment", "检查处理环境",
      .grouped, "environment_inspection", .inspection⟩,
    ⟨"inspect_navigation_calibration_inventory_tool", "inspect_parameters", "核对标定参数",
      .grouped, "parameter_inspection", .inspection⟩,
    ⟨"inspect_navigation_localization_sources_tool", "inspect_localization", "核对定位数据",
      .grouped, "localization_inspection", .inspection⟩,
    ⟨"inspect_navigation_annotation_job_facts_tool", "inspect_annotation_state", "核对标注任务状态",
      .grouped, "annotation_inspection", .inspection⟩,
    ⟨"list_observation_evidence_tool", "read_evidence", "汇总检查依据",
      .grouped, "evidence_read", .inspection⟩,
    ⟨"read_observation_evidence_tool", "read_evidence", "汇总检查依据",
      .grouped, "evidence_read", .inspection⟩,
    ⟨"describe_processing_action_tool", "review_capability", "核对处理条件",
      .grouped, "capability_review", .inspection⟩,
    ⟨"record_navigation_user_guidance_tool", "record_preferences", "记录处理要求",
      .grouped, "planning", .planning⟩,
    ⟨"complete_navigation_task_tool", "complete_task", "完成导航数据任务",
      .silent, "task_state", .verification⟩,
    ⟨"submit_extract_sync_plan_tool", "prepare_plan", "生成并校验处理方案", .visible, "planning", .planning⟩,
    ⟨"submit_finish_processing_plan_tool", "prepare_plan", "生成并校验处理方案",
      .visible, "planning", .planning⟩,
    ⟨"submit_trajectory_review_plan_tool", "prepare_review_plan", "生成并校验轨迹复核方案",
      .visible, "planning", .planning⟩,
    ⟨"prepare_raw_data_tool", "prepare_data", "准备原始数据", .visible, "preparation", .preparation⟩,
    ⟨"extract_and_sync_navigation_data_tool", "extract_sync", "提取并同步导航数据",
      .visible, "extract_sync", .extractSync⟩,
    ⟨"assemble_finish_temp_tool", "assemble_data", "整理中间数据",
      .visible, "finish_assembly", .finishAssembly⟩,
    ⟨"run_noobscene_preprocessing_tool", "preprocess_data", "预处理导航数据",
      .visible, "finish_assembly", .finishAssembly⟩,
    ⟨"confirm_navigation_calibration_params_tool", "confirm_parameters", "确认标定参数",
      .visible, "human_decision", .humanDecision⟩,
    ⟨"request_human_decision", "confirm_parameters", "确认关键处理选项",
      .visible, "human_decision", .humanDecision⟩,
    ⟨"run_initial_annotation_gui_tool", "annotate_data", "生成初始标注",
      .visible, "annotation", Phase.annotation⟩,
    ⟨"run_tracking_tool", "track_trajectory", "计算轨迹与跟踪结果", .visible, "tracking", .tracking⟩,
    ⟨"run_annotation_tracking_workflow_tool", "annotation_workbench", "等待首帧标注并继续跟踪",
      .visible, "annotation", Phase.annotation⟩,
    ⟨"prepare_gridmap_for_projection_tool", "prepare_projection", "准备投影数据",
      .visible, "projection", .projection⟩,
    ⟨"run_projection_and_trajectory_tool", "project_trajectory", "生成投影与轨迹结果",
      .visible, "projection", .projection⟩,
    ⟨"run_annotation_postprocessing_workflow_tool", "postprocess_trajectory", "执行后处理并生成轨迹",
      .visible, "projection", .projection⟩,
    ⟨"validate_navigation_outputs_tool", "verify_outputs", "核对输出完整性",
      .visible, "verification", .verification⟩,
    ⟨"open_trajectory_fix_workbench_tool", "open_fix_workbench", "进入轨迹修正工作台",
      .visible, "human_decision", .humanDecision⟩,
    ⟨"validate_trajectory_review_outcome_tool", "verify_review_outcome", "核对轨迹复核结果",
      .visible, "verification", .verification⟩,
    ⟨"get_navigation_task_context_tool", "read_task_state", "读取任务状态",
      .silent, "execution_state", .setup⟩,
    ⟨"get_plan_execution_overview_tool", "read_execution_state", "读取执行状态",
      .silent, "execution_state", .generic⟩,
    ⟨"get_current_plan_step_tool", "read_execution_state", "读取执行状态",
      .silent, "execution_state", .generic⟩]

def unknownAction : PublicActionDefinition :=
  ⟨"<unknown>", "processing_step", "执行处理步骤", .grouped, "generic_processing", .generic⟩

/-- `PublicActionRegistry`: an allowlist without duplicates. -/
structure PublicActionRegistry where
  definitions : List PublicActionDefinition
  nodup : (definitions.map PublicActionDefinition.internalTool).Nodup

def PublicActionRegistry.resolve (r : PublicActionRegistry) (internalTool : String) :
    PublicActionDefinition :=
  (r.definitions.find? fun d => d.internalTool = internalTool).getD unknownAction

/-- The registry of a projector that is given none. -/
def defaultRegistry : PublicActionRegistry := ⟨actionDefinitions, by decide +kernel⟩

structure Count where
  done : ℤ
  total : ℤ
  unit : String
  deriving DecidableEq

inductive EventBody
  | progressStart (phase : Phase) (summary : Option String) (count : Option Count)
  | progressDelta (phase : Phase) (summary : String) (count : Option Count)
  | progressEnd (phase : Phase) (status : ProgressStatus) (count : Option Count)
  | action (operation : ActionOperation) (actionRef : ℕ) (definition : PublicActionDefinition)
      (status : ActionStatus) (summary : Option String) (count : Option Count)
  | interactionRequired (signal : RequestInputSignal)
  | artifactReady (artifactRef label : String) (mediaType : Option String)
  | final (text : String) (taskStatus : TaskStatus)
  deriving DecidableEq

namespace EventBody

def type : EventBody → String
  | progressStart .. => "progress_start"
  | progressDelta .. => "progress_delta"
  | progressEnd .. => "progress_end"
  | action .start .. => "action_start"
  | action .finish .. => "action_end"
  | interactionRequired _ => "interaction_required"
  | artifactReady .. => "artifact_ready"
  | final .. => "final"

def countEntry : Option Count → Dict
  | some c => [("count",
      .obj [("done", .int c.done), ("total", .int c.total), ("unit", .str c.unit)])]
  | none => []

def textEntry (key : String) : Option String → Dict
  | some t => [(key, .str t)]
  | none => []

def optionPayload (o : InteractionOption) : Json :=
  .obj ([("option_id", .str o.optionId), ("label", .str o.label),
    ("destructive", .bool o.destructive)] ++ textEntry "description" o.description)

def payload : EventBody → Dict
  | progressStart phase summary count =>
    ("phase", .str phase.text) :: textEntry "summary" summary ++ countEntry count
  | progressDelta phase summary count =>
    ("phase", .str phase.text) :: ("summary", .str summary) :: countEntry count
  | progressEnd phase status count =>
    ("phase", .str phase.text) :: ("status", .str status.text) :: countEntry count
  | action _ actionRef definition status summary count =>
    [("action_ref", .str ("action-" ++ toString actionRef)),
      ("action_code", .str definition.actionCode), ("display_name", .str definition.displayName),
      ("group", .str definition.group), ("phase", .str definition.phase.text),
      ("status", .str status.text)] ++ textEntry "summary" summary ++ countEntry count
  | interactionRequired r =>
    [("interaction_ref", .str r.interactionRef), ("kind", .str r.interactionKind.text),
      ("blocking", .bool r.blocking), ("risk", .str r.risk.text), ("title", .str r.title),
      ("summary", .str r.summary), ("options", .arr (r.options.map optionPayload)),
      ("interaction_revision", .int r.interactionRevision),
      ("expected_task_revision", .int r.expectedTaskRevision),
      ("expires_at", (r.expiresAt.map Json.str).getD .null)]
  | artifactReady artifactRef label mediaType =>
    [("artifact_ref", .str artifactRef), ("label", .str label)] ++ textEntry "media_type" mediaType
  | final text taskStatus => [("text", .str text), ("task_status", .str taskStatus.text)]

end EventBody

structure PublicEvent where
  taskRef : String
  body : EventBody
  deriving DecidableEq

/-- `_FORBIDDEN_PUBLIC_KEYS`, sorted. -/
def forbiddenPublicKeys : List String :=
  ["agent", "agent_id", "call_id", "internal_task_id", "parent_run_id", "plan_id", "reply_id",
    "run_id", "session_id", "source", "step_id", "task_id", "tool", "tool_call_id", "tool_name",
    "web_session_id"]

variable (db : CharData)

mutual

/-- `payload_must_not_expose_internal_fields` -/
def checkPayload : Json → Except ProjectionError Unit
  | .obj entries => do
    raiseIf (∃ k ∈ forbiddenPublicKeys, k ∈ entries.map Prod.fst)
      (.forbiddenKeys (forbiddenPublicKeys.filter fun k => k ∈ entries.map Prod.fst))
    checkEntries entries
  | .arr items => checkItems items
  | .str s =>
    raiseIf (containsUnsafePublicText db s) (.value "public payload contains unsafe text")
  | _ => .ok ()

def checkItems : List Json → Except ProjectionError Unit
  | [] => .ok ()
  | v :: vs => do
    checkPayload v
    checkItems vs

def checkEntries : Dict → Except ProjectionError Unit
  | [] => .ok ()
  | (_, v) :: es => do
    checkPayload v
    checkEntries es

end

def event (taskRef : String) (body : EventBody) : Except ProjectionError PublicEvent := do
  let taskRef := trim taskRef
  require (LengthIn 8 200 taskRef ∧ IsRef taskRef) "task_ref"
  checkPayload db (.obj body.payload)
  return ⟨taskRef, body⟩

end DataJuicer.PublicContract

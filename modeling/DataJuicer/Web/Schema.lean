import DataJuicer.Lib.Json
import DataJuicer.Lib.Table
import DataJuicer.Lib.Transaction

/-! # The tables of the web sessions

The tables of the session store that refer to turns, and those that these refer to. Foreign keys
are enforced by the database, so that every committed state is consistent.
-/

namespace DataJuicer.Web

/-- Milliseconds of `_now`. -/
abbrev Timestamp := ℕ

inductive MessageRole
  | user
  | assistant
  deriving DecidableEq

inductive TurnStatus
  | running
  | waiting
  | completed
  | failed
  | interrupted
  deriving DecidableEq

/-- The statuses of the index `idx_web_turns_one_active`. -/
def TurnStatus.Active (st : TurnStatus) : Prop := st = .running ∨ st = .waiting

instance : DecidablePred TurnStatus.Active := fun _ => inferInstanceAs (Decidable (_ ∨ _))

structure SessionRow where
  id : String
  title : String
  status : String
  createdAt : Timestamp
  updatedAt : Timestamp
  contractVersion : ℕ

/-- A row of `messages`. -/
structure MessageRow where
  id : String
  sessionId : String
  turnId : Option String
  role : MessageRole
  content : String
  createdAt : Timestamp

structure TimelineEventRow where
  id : String
  sessionId : String
  turnId : Option String
  seq : ℕ
  originKey : Option String
  type : String
  source : Option String
  runId : Option String
  parentRunId : Option String
  timestamp : Option Timestamp
  payload : Dict
  createdAt : Timestamp

/-- A row of `web_turns`. -/
structure TurnRow where
  id : String
  webSessionId : String
  invocationId : Option String
  origin : String
  status : TurnStatus
  startedAt : Timestamp
  finishedAt : Option Timestamp
  finalMessageId : Option String

structure AgentscopeSessionRow where
  webSessionId : String
  agentId : String
  agentscopeSessionId : String
  eventCursor : Option String
  active : Bool
  activeTurnId : Option String
  updatedAt : Timestamp

inductive ReplyStatus
  | pending
  | running
  | ended (status : String)
  deriving DecidableEq

/-- A row of `agentscope_turn_replies`. -/
structure ReplyRow where
  id : String
  turnId : String
  agentscopeSessionId : String
  agentId : String
  replyId : Option String
  source : String
  status : ReplyStatus
  summaryText : Option String
  createdAt : Timestamp
  updatedAt : Timestamp

/-- A row of `agentscope_turn_tools`. -/
structure ToolRow where
  turnId : String
  agentscopeSessionId : String
  callId : String
  tool : String
  status : String
  startedAt : Timestamp
  finishedAt : Option Timestamp
  updatedAt : Timestamp

/-- A row of `conversation_agent_sessions`. -/
structure ConversationSessionRow where
  id : String
  webSessionId : String
  agentRole : String
  agentId : String
  agentscopeSessionId : String
  taskId : Option String
  eventCursor : Option String
  activeTurnId : Option String
  createdAt : Timestamp
  updatedAt : Timestamp

structure TurnRunRow where
  runId : String
  turnId : String
  taskId : Option String
  producer : String
  parentRunId : Option String
  agentscopeSessionId : Option String
  status : String
  createdAt : Timestamp
  updatedAt : Timestamp
  finishedAt : Option Timestamp

/-- A row of `turn_response_authority`. -/
structure AuthorityRow where
  turnId : String
  producer : String
  generation : ℕ
  leaseOpen : Bool
  finalMessageId : Option String
  createdAt : Timestamp
  updatedAt : Timestamp

/-- What a row of another table says about turns and tasks. -/
structure ReferringRow where
  id : String
  taskId : Option String
  turnId : Option String

inductive Selection
  | allClips
  | selectedClips (clips : List String)
  deriving DecidableEq

structure RequestContext where
  datasetDate : String
  selection : Selection
  deriving DecidableEq

/-- A row of `pending_session_request_contexts`. -/
structure PendingContextRow where
  webSessionId : String
  context : RequestContext
  createdAt : Timestamp

/-- A row of `turn_request_contexts`. -/
structure TurnContextRow where
  turnId : String
  context : RequestContext
  createdAt : Timestamp

instance : Keyed SessionRow String := ⟨SessionRow.id⟩
instance : Keyed MessageRow String := ⟨MessageRow.id⟩
instance : Keyed TimelineEventRow String := ⟨TimelineEventRow.id⟩
instance : Keyed TurnRow String := ⟨TurnRow.id⟩
instance : Keyed AgentscopeSessionRow (String × String) := ⟨fun r => (r.webSessionId, r.agentId)⟩
instance : Keyed ReplyRow String := ⟨ReplyRow.id⟩
instance : Keyed ToolRow (String × String × String) :=
  ⟨fun r => (r.turnId, r.agentscopeSessionId, r.callId)⟩
instance : Keyed ConversationSessionRow String := ⟨ConversationSessionRow.id⟩
instance : Keyed TurnRunRow String := ⟨TurnRunRow.runId⟩
instance : Keyed AuthorityRow String := ⟨AuthorityRow.turnId⟩
instance : Keyed ReferringRow String := ⟨ReferringRow.id⟩
instance : Keyed PendingContextRow String := ⟨PendingContextRow.webSessionId⟩
instance : Keyed TurnContextRow String := ⟨TurnContextRow.turnId⟩

structure Database where
  sessions : Table SessionRow
  messages : Table MessageRow
  timelineEvents : Table TimelineEventRow
  turns : Table TurnRow
  agentscopeSessions : Table AgentscopeSessionRow
  replies : Table ReplyRow
  tools : Table ToolRow
  conversationSessions : Table ConversationSessionRow
  turnRuns : Table TurnRunRow
  authorities : Table AuthorityRow
  /-- The task ids of `conversation_task_bindings`. -/
  taskIds : List String
  /-- `interactions`, by their `origin_turn_id`. -/
  interactions : Table ReferringRow
  /-- `runtime_outbox` -/
  outbox : Table ReferringRow
  pendingContexts : Table PendingContextRow
  turnContexts : Table TurnContextRow

def Database.HasTurn (db : Database) (turnId : String) : Prop := ∃ t ∈ db.turns, t.id = turnId

instance (db : Database) (turnId : String) : Decidable (db.HasTurn turnId) :=
  inferInstanceAs (Decidable (∃ t ∈ db.turns, t.id = turnId))

def Database.HasMessage (db : Database) (messageId : String) : Prop :=
  ∃ m ∈ db.messages, m.id = messageId

/-- The foreign keys that refer to turns, to their messages and to their runs. -/
structure Database.Consistent (db : Database) : Prop where
  messages : ∀ r ∈ db.messages, ∀ id ∈ r.turnId, db.HasTurn id
  timelineEvents : ∀ r ∈ db.timelineEvents, ∀ id ∈ r.turnId, db.HasTurn id
  replies : ∀ r ∈ db.replies, db.HasTurn r.turnId
  tools : ∀ r ∈ db.tools, db.HasTurn r.turnId
  turnRuns : ∀ r ∈ db.turnRuns, db.HasTurn r.turnId
  authorities : ∀ r ∈ db.authorities, db.HasTurn r.turnId
  interactions : ∀ r ∈ db.interactions, ∀ id ∈ r.turnId, db.HasTurn id
  outbox : ∀ r ∈ db.outbox, ∀ id ∈ r.turnId, db.HasTurn id
  turnContexts : ∀ r ∈ db.turnContexts, db.HasTurn r.turnId
  parentRuns : ∀ r ∈ db.turnRuns, ∀ id ∈ r.parentRunId, ∃ p ∈ db.turnRuns, p.runId = id
  turnFinal : ∀ r ∈ db.turns, ∀ id ∈ r.finalMessageId, db.HasMessage id
  authorityFinal : ∀ r ∈ db.authorities, ∀ id ∈ r.finalMessageId, db.HasMessage id

inductive StoreError
  | key
  | value (message : String)
  | runtime (message : String)
  | integrity

end DataJuicer.Web

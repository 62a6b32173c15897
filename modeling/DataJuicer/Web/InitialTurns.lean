import DataJuicer.Web.Schema

/-! # The first transactions of a turn

A user turn is begun in one transaction. The runtime then binds agent sessions, registers replies
and creates runs; when it fails, `abort_initial_turn` takes the turn back.
-/

namespace DataJuicer.Web

open Transaction

def datasetSelectionContext : String := "navigation_dataset_selection_v1"

def maxRequestContextBytes : ℕ := 3000

def SafeClip (clip : String) : Prop :=
  clip ≠ "" ∧ clip ≠ "." ∧ clip ≠ ".." ∧ '/' ∉ clip.toList ∧ '\\' ∉ clip.toList ∧
    '\r' ∉ clip.toList ∧ '\n' ∉ clip.toList ∧ clip.toList.length ≤ 200

instance : DecidablePred SafeClip := fun _ => by
  unfold SafeClip
  infer_instance

def normalizeClips : List Json → Except StoreError (List String)
  | [] => .ok []
  | .str clip :: rest => do
    let normalized := stripText clip
    raiseIf (¬ SafeClip normalized) (.value "request_context clips must be safe path components")
    return normalized :: (← normalizeClips rest)
  | _ => .error (.value "request_context clips must be strings")

def normalizeSelection (selection : Dict) : Except StoreError Selection := do
  if Json.get selection "kind" = .str "all_clips" then return .allClips
  raiseIf (Json.get selection "kind" ≠ .str "selected_clips")
    (.value "unsupported request_context selection kind")
  match Json.get selection "clips" with
  | .arr clips =>
    raiseIf (clips = [] ∨ 200 < clips.length)
      (.value "selected_clips requires between 1 and 200 clips")
    let clips ← normalizeClips clips
    raiseIf (¬ clips.Nodup) (.value "request_context clips must be unique")
    return .selectedClips clips
  | _ => .error (.value "selected_clips requires between 1 and 200 clips")

/-- The bytes of the compact JSON of the selection. -/
def Selection.encodedSize : Selection → ℕ
  | .allClips => utf8Size "\x7b\"kind\":\"all_clips\"\x7d"
  | .selectedClips clips => utf8Size "\x7b\"clips\":[],\"kind\":\"selected_clips\"\x7d" +
      (clips.map Json.stringSize).sum + (clips.length - 1)

def RequestContext.encodedSize (c : RequestContext) : ℕ :=
  utf8Size "\x7b\"dataset_date\":,\"kind\":,\"selection\":\x7d" + Json.stringSize c.datasetDate +
    Json.stringSize datasetSelectionContext + c.selection.encodedSize

def normalizeTurnRequestContext : Json → Except StoreError RequestContext
  | .obj value => do
    raiseIf (Json.get value "kind" ≠ .str datasetSelectionContext)
      (.value "unsupported request_context kind")
    let date ← match Json.get value "dataset_date" with
      | .str date => .ok date
      | _ => .error (.value "request_context dataset_date must be YYYYMMDD")
    raiseIf (date.toList.length ≠ 8 ∨ ¬ date.toList.all fun c => PyStr.isDigit c.toNat)
      (.value "request_context dataset_date must be YYYYMMDD")
    let selection ← match Json.get value "selection" with
      | .obj selection => .ok selection
      | _ => .error (.value "request_context selection must be an object")
    let selection ← normalizeSelection selection
    let context : RequestContext := ⟨date, selection⟩
    raiseIf (maxRequestContextBytes < context.encodedSize)
      (.value "request_context is too large")
    return context
  | _ => .error (.value "request_context must be an object")

variable (now : Timestamp)

def nextSeq (sessionId : String) (db : Database) : ℕ :=
  ((db.timelineEvents.select fun r => r.sessionId = sessionId).map TimelineEventRow.seq).foldl max 0
    + 1

def insertTimelineEvent (event : TimelineEventRow) (db : Database) :
    Except StoreError (TimelineEventRow × Database) := do
  let record := { event with seq := nextSeq event.sessionId db }
  let timelineEvents ← orRaise .integrity (db.timelineEvents.insert? record)
  return (record, { db with timelineEvents })

def insertResponseAuthority (turnId producer : String) (db : Database) :
    Except StoreError Database := do
  let authorities ← orRaise .integrity
    (db.authorities.insert? ⟨turnId, producer, 1, true, none, now, now⟩)
  return { db with authorities }

/-- The first row of a selection by its time, then by its position. -/
def earliest (createdAt : MessageRow → Timestamp) : List MessageRow → Option MessageRow
  | [] => none
  | r :: rs => match earliest createdAt rs with
    | some s => if createdAt s < createdAt r then some s else some r
    | none => some r

structure TurnSubmission where
  turn : TurnRow
  message : MessageRow
  events : List TimelineEventRow
  created : Bool

/-- The ids that `uuid4` gives for a turn. -/
structure TurnIds where
  turn : String
  message : String
  event : String

/-- The reply to a repeated invocation. -/
def repeatedTurn (supplied : Option RequestContext) (turn : TurnRow) (db : Database) :
    Except StoreError TurnSubmission := do
  let message ← orRaise (.runtime "idempotent turn is missing its user message")
    (earliest MessageRow.createdAt
      (db.messages.select fun m => m.turnId = some turn.id ∧ m.role = .user))
  raiseIf (supplied ≠ none ∧ (db.turnContexts.find? turn.id).map TurnContextRow.context ≠ supplied)
    (.runtime "idempotent turn request_context does not match")
  return ⟨turn, message, [], false⟩

def resolveContext (sessionId turnId : String) (supplied : Option RequestContext)
    (db : Database) : Except StoreError Database := do
  let pending := (db.pendingContexts.find? sessionId).map PendingContextRow.context
  raiseIf (supplied ≠ none ∧ pending ≠ none ∧ supplied ≠ pending)
    (.runtime "pending request_context does not match the turn")
  match supplied.or pending with
  | none => return db
  | some context =>
    let turnContexts ← orRaise .integrity (db.turnContexts.insert? ⟨turnId, context, now⟩)
    return { db with
      turnContexts
      pendingContexts := db.pendingContexts.delete fun r => r.webSessionId = sessionId }

/-- The router answers for the turns of a session of contract version 1. -/
def initialAuthority (session : SessionRow) (turnId : String) (db : Database) :
    Except StoreError Database :=
  if session.contractVersion = 1 then insertResponseAuthority now turnId "router" db else .ok db

/-- The statements of `begin_user_turn` that create the turn. -/
def createTurn (ids : TurnIds) (session : SessionRow) (message : String)
    (invocationId : Option String) (supplied : Option RequestContext) (db : Database) :
    Except StoreError (TurnSubmission × Database) := do
  raiseIf (∃ t ∈ db.turns, t.webSessionId = session.id ∧ t.status.Active)
    (.runtime "the session already has an active turn")
  let turn : TurnRow := ⟨ids.turn, session.id, invocationId, "user", .running, now, none, none⟩
  let turns ← orRaise .integrity (db.turns.insert? turn)
  let messageRow : MessageRow := ⟨ids.message, session.id, some ids.turn, .user, message, now⟩
  let messages ← orRaise .integrity (db.messages.insert? messageRow)
  let db ← resolveContext now session.id ids.turn supplied { db with turns, messages }
  let db ← initialAuthority now session ids.turn db
  let (event, db) ← insertTimelineEvent ⟨ids.event, session.id, some ids.turn, 0, none,
    "turn_start", none, none, none, some now,
    [("status", .str "running"), ("started_at", .int now)], now⟩ db
  let sessions := db.sessions.update (fun s => s.id = session.id)
    (fun s => { s with updatedAt := now }) fun s => Table.key_self s
  return (⟨turn, messageRow, [event], true⟩, { db with sessions })

def suppliedContext : Option Json → Except StoreError (Option RequestContext)
  | some value => some <$> normalizeTurnRequestContext value
  | none => .ok none

def beginUserTurn (ids : TurnIds) (sessionId message : String) (invocationId : Option String)
    (requestContext : Option Json) (db : Database) :
    Except StoreError (TurnSubmission × Database) := do
  let supplied ← suppliedContext requestContext
  let session ← orRaise .key (db.sessions.find? sessionId)
  match db.turns.rows.find? fun t =>
      t.webSessionId = sessionId ∧ invocationId ≠ none ∧ t.invocationId = invocationId with
  | some turn => return (← repeatedTurn supplied turn db, db)
  | none => createTurn now ids session message invocationId supplied db

def savePendingRequestContext (webSessionId : String) (context : Json) (db : Database) :
    Except StoreError Database := do
  let context ← normalizeTurnRequestContext context
  let session ← orRaise .key (db.sessions.find? webSessionId)
  raiseIf (session.contractVersion ≠ 1) (.runtime "request_context requires contract v1")
  match db.pendingContexts.find? webSessionId with
  | some existing =>
    raiseIf (existing.context ≠ context) (.runtime "pending request_context cannot be replaced")
    return db
  | none =>
    raiseIf (∃ t ∈ db.turns, t.webSessionId = webSessionId)
      (.runtime "pending request_context must be saved before the first turn")
    let pendingContexts ← orRaise .integrity
      (db.pendingContexts.insert? ⟨webSessionId, context, now⟩)
    return { db with pendingContexts }

def bindConversationAgentSessionToTurn (agentscopeSessionId : String) (turnId : Option String)
    (db : Database) : Except StoreError Database := do
  raiseIf (¬ ∀ id ∈ turnId, db.HasTurn id) .integrity
  raiseIf (¬ ∃ s ∈ db.conversationSessions, s.agentscopeSessionId = agentscopeSessionId) .key
  return { db with
    conversationSessions := db.conversationSessions.update
      (fun s => s.agentscopeSessionId = agentscopeSessionId)
      (fun s => { s with activeTurnId := turnId, updatedAt := now }) fun s => Table.key_self s }

/-- The last of the rows that were updated last. -/
def latest : List ReplyRow → Option ReplyRow
  | [] => none
  | r :: rs => match latest rs with
    | some s => if s.updatedAt < r.updatedAt then some r else some s
    | none => some r

def registerPendingReply (leaseId turnId agentscopeSessionId agentId source : String)
    (db : Database) : Except StoreError Database := do
  match latest (db.replies.select fun r => r.turnId = turnId ∧
      r.agentscopeSessionId = agentscopeSessionId ∧ r.status = .pending) with
  | some existing =>
    return { db with
      replies := db.replies.update (fun r => r.id = existing.id)
        (fun r => { r with agentId, source, updatedAt := now }) fun r => Table.key_self r }
  | none =>
    raiseIf (¬ db.HasTurn turnId) .integrity
    let replies ← orRaise .integrity (db.replies.insert?
      ⟨leaseId, turnId, agentscopeSessionId, agentId, none, source, .pending, none, now, now⟩)
    return { db with replies }

def discardPendingReply (leaseId : String) (db : Database) : Database :=
  { db with replies := db.replies.delete fun r => r.id = leaseId ∧ r.status = .pending }

/-- The arguments of `create_turn_run`. -/
structure TurnRunRequest where
  runId : String
  turnId : String
  producer : String
  status : String
  taskId : Option String
  parentRunId : Option String
  agentscopeSessionId : Option String

def createTurnRun (q : TurnRunRequest) (db : Database) : Except StoreError Database := do
  raiseIf (¬ db.HasTurn q.turnId) .integrity
  raiseIf (¬ ∀ id ∈ q.taskId, id ∈ db.taskIds) .integrity
  raiseIf (¬ ∀ id ∈ q.parentRunId, id = q.runId ∨ ∃ r ∈ db.turnRuns, r.runId = id) .integrity
  let turnRuns ← orRaise .integrity (db.turnRuns.insert? ⟨q.runId, q.turnId, q.taskId,
    q.producer, q.parentRunId, q.agentscopeSessionId, q.status, now, now, none⟩)
  return { db with turnRuns }

def updateTurnRun (runId status : String) (db : Database) : Except StoreError Database := do
  raiseIf (¬ ∃ r ∈ db.turnRuns, r.runId = runId) .key
  let finishedAt := if status ∈ ["completed", "failed", "interrupted"] then some now else none
  return { db with
    turnRuns := db.turnRuns.update (fun r => r.runId = runId)
      (fun r => { r with status, updatedAt := now, finishedAt }) fun r => Table.key_self r }

/-- The agent sessions are no longer bound to the turn. -/
def unbindTurn (turnId : String) (db : Database) : Database :=
  { db with
    agentscopeSessions := db.agentscopeSessions.update (fun s => s.activeTurnId = some turnId)
      (fun s => { s with activeTurnId := none }) fun s => Table.key_self s
    conversationSessions := db.conversationSessions.update
      (fun s => s.activeTurnId = some turnId)
      (fun s => { s with activeTurnId := none }) fun s => Table.key_self s }

/-- No other row refers to the messages with this id. -/
def Database.MessageFree (db : Database) (messageId : String) : Prop :=
  (∀ t ∈ db.turns, t.finalMessageId ≠ some messageId) ∧
    ∀ a ∈ db.authorities, a.finalMessageId ≠ some messageId

instance (db : Database) (messageId : String) : Decidable (db.MessageFree messageId) :=
  inferInstanceAs (Decidable (_ ∧ _))

/-- The `DELETE` statements of `abort_initial_turn`, each with the foreign keys that it checks. -/
def deleteTurn (turnId : String) (db : Database) : Except StoreError Database := do
  let turnRuns := db.turnRuns.delete fun r => r.turnId = turnId
  raiseIf (∃ r ∈ turnRuns, ∃ p ∈ db.turnRuns, p.turnId = turnId ∧ r.parentRunId = some p.runId)
    .integrity
  let db := { db with
    turnRuns
    authorities := db.authorities.delete fun r => r.turnId = turnId
    tools := db.tools.delete fun r => r.turnId = turnId
    replies := db.replies.delete fun r => r.turnId = turnId
    turnContexts := db.turnContexts.delete fun r => r.turnId = turnId
    timelineEvents := db.timelineEvents.delete fun r => r.turnId = some turnId }
  raiseIf (∃ m ∈ db.messages, m.turnId = some turnId ∧ ¬ db.MessageFree m.id) .integrity
  let db := { db with messages := db.messages.delete fun r => r.turnId = some turnId }
  raiseIf ((∃ r ∈ db.interactions, r.turnId = some turnId) ∨
    ∃ r ∈ db.outbox, r.turnId = some turnId) .integrity
  return { db with turns := db.turns.delete fun t => t.id = turnId }

def abortInitialTurn (turnId : String) (db : Database) : Except StoreError Database := do
  if ∃ t ∈ db.turns, t.id = turnId then deleteTurn turnId (unbindTurn turnId db) else .ok db

end DataJuicer.Web

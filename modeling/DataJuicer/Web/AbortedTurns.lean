import DataJuicer.Lib.Run
import DataJuicer.Web.InitialTurns

/-! # A first submission that is taken back

`begin_user_turn` writes rows that refer to the new turn, and so does the runtime. All of them are
deleted by `abort_initial_turn`. The request context that was saved for the session has been
moved to the turn, and is deleted with it.
-/

namespace DataJuicer.Web

open Transaction

inductive RuntimeOp
  | bind (agentscopeSessionId : String) (turnId : Option String)
  | registerReply (leaseId agentscopeSessionId agentId source : String)
  | discardReply (leaseId : String)
  | createRun (q : TurnRunRequest)
  | updateRun (runId status : String)

namespace RuntimeOp

def exec (turnId : String) (now : Timestamp) (db : Database) :
    RuntimeOp → Except StoreError Database
  | bind session turn => bindConversationAgentSessionToTurn now session turn db
  | registerReply lease session agent source =>
    registerPendingReply now lease turnId session agent source db
  | discardReply lease => .ok (discardPendingReply lease db)
  | createRun q => createTurnRun now q db
  | updateRun runId status => updateTurnRun now runId status db

/-- The rows that the operation names belong to the turn. -/
def Of (turnId : String) (db : Database) : RuntimeOp → Prop
  | bind _ _ | registerReply _ _ _ _ => True
  | discardReply lease => ∀ r ∈ db.replies, r.id = lease → r.turnId = turnId
  | createRun q => q.turnId = turnId
  | updateRun runId _ => ∀ r ∈ db.turnRuns, r.runId = runId → r.turnId = turnId

end RuntimeOp

/-- An operation for the turn that is committed, or one that raises. -/
inductive RuntimeStep (turnId : String) : Database → Timestamp × RuntimeOp → Database → Prop
  | done {db db' : Database} {now : Timestamp} {op : RuntimeOp} (hof : op.Of turnId db)
      (h : op.exec turnId now db = .ok db') : RuntimeStep turnId db (now, op) db'
  | raised {db : Database} {now : Timestamp} {op : RuntimeOp} {e : StoreError}
      (h : op.exec turnId now db = .error e) : RuntimeStep turnId db (now, op) db

/-- A session without its times. -/
def SessionRow.untimed (r : SessionRow) : SessionRow := { r with updatedAt := 0 }

/-- An agent session without its times and its binding. -/
def ConversationSessionRow.unbound (r : ConversationSessionRow) : ConversationSessionRow :=
  { r with activeTurnId := none, updatedAt := 0 }

def AgentscopeSessionRow.unbound (r : AgentscopeSessionRow) : AgentscopeSessionRow :=
  { r with activeTurnId := none, updatedAt := 0 }

/-- The sessions agree up to times and bindings. -/
structure SameSessions (s db : Database) : Prop where
  sessions : db.sessions.rows.map SessionRow.untimed = s.sessions.rows.map SessionRow.untimed
  agentscope : db.agentscopeSessions.rows.map AgentscopeSessionRow.unbound =
    s.agentscopeSessions.rows.map AgentscopeSessionRow.unbound
  conversation : db.conversationSessions.rows.map ConversationSessionRow.unbound =
    s.conversationSessions.rows.map ConversationSessionRow.unbound

/-- Every table is restored, up to the times and bindings of sessions. -/
structure Restored (s db : Database) : Prop extends SameSessions s db where
  messages : db.messages = s.messages
  timelineEvents : db.timelineEvents = s.timelineEvents
  turns : db.turns = s.turns
  replies : db.replies = s.replies
  tools : db.tools = s.tools
  turnRuns : db.turnRuns = s.turnRuns
  authorities : db.authorities = s.authorities
  taskIds : db.taskIds = s.taskIds
  interactions : db.interactions = s.interactions
  outbox : db.outbox = s.outbox
  pendingContexts : db.pendingContexts = s.pendingContexts
  turnContexts : db.turnContexts = s.turnContexts

structure Extends (turnId sessionId : String) (s db : Database) : Prop extends
    SameSessions s db where
  messages : (db.messages.delete fun r => r.turnId = some turnId) = s.messages
  timelineEvents : (db.timelineEvents.delete fun r => r.turnId = some turnId) = s.timelineEvents
  turns : (db.turns.delete fun r => r.id = turnId) = s.turns
  replies : (db.replies.delete fun r => r.turnId = turnId) = s.replies
  tools : (db.tools.delete fun r => r.turnId = turnId) = s.tools
  turnRuns : (db.turnRuns.delete fun r => r.turnId = turnId) = s.turnRuns
  authorities : (db.authorities.delete fun r => r.turnId = turnId) = s.authorities
  taskIds : db.taskIds = s.taskIds
  interactions : db.interactions = s.interactions
  outbox : db.outbox = s.outbox
  pendingContexts :
    db.pendingContexts = s.pendingContexts.delete fun r => r.webSessionId = sessionId
  turnContexts : (db.turnContexts.delete fun r => r.turnId = turnId) = s.turnContexts
  hasTurn : db.HasTurn turnId
  turnOpen : ∀ t ∈ db.turns, t.id = turnId → t.finalMessageId = none
  authorityOpen : ∀ a ∈ db.authorities, a.turnId = turnId → a.finalMessageId = none

variable {turnId sessionId : String} {s db db' : Database} {now : Timestamp}

theorem map_update_eq {ρ κ α : Type*} [Keyed ρ κ] {t : Table ρ} {p : ρ → Prop} [DecidablePred p]
    {f : ρ → ρ} (hf : ∀ r, key (f r) = key r) {g : ρ → α} (h : ∀ r, g (f r) = g r) :
    (t.update p f hf).rows.map g = t.rows.map g := by
  change (t.rows.map _).map g = _
  rw [List.map_map]
  refine List.map_congr_left fun r _ => ?_
  by_cases hp : p r <;> simp [hp, h]

theorem mem_of_latest {rs : List ReplyRow} {r : ReplyRow} (h : latest rs = some r) : r ∈ rs := by
  induction rs generalizing r with
  | nil => cases h
  | cons x rs ih =>
    unfold latest at h
    split at h
    · next s hs =>
      split at h
      · cases h
        exact List.mem_cons_self
      · cases h
        exact List.mem_cons_of_mem _ (ih hs)
    · cases h
      exact List.mem_cons_self

theorem extends_of_step {e : Timestamp × RuntimeOp}
    (h : Extends turnId sessionId s db) (hstep : RuntimeStep turnId db e db') :
    Extends turnId sessionId s db' := by
  cases hstep with
  | raised => exact h
  | @done _ now op hof hexec =>
    cases op with
    | bind session turn =>
      simp only [RuntimeOp.exec, bindConversationAgentSessionToTurn] at hexec
      obtain ⟨_, -, hexec⟩ := bind_eq_ok.1 hexec
      obtain ⟨_, -, hexec⟩ := bind_eq_ok.1 hexec
      obtain rfl := Except.ok.inj hexec
      refine { h with conversation := ?_ }
      refine Eq.trans (map_update_eq ?_ ?_) h.conversation
      · exact fun r => Table.key_self r
      · exact fun _ => rfl
    | registerReply lease session agent source =>
      simp only [RuntimeOp.exec, registerPendingReply] at hexec
      split at hexec
      · next existing hlatest =>
        obtain rfl := Except.ok.inj hexec
        obtain ⟨hmem, hturn, -⟩ := Table.mem_select.1 (mem_of_latest hlatest)
        refine { h with replies := ?_ }
        refine Eq.trans (Table.delete_update ?_ (fun r hr hid => ?_) fun _ => Iff.rfl) h.replies
        · exact fun r => Table.key_self r
        · rw [Table.eq_of_key hr hmem hid]
          exact hturn
      · obtain ⟨_, -, hexec⟩ := bind_eq_ok.1 hexec
        obtain ⟨replies, hins, hexec⟩ := bind_eq_ok.1 hexec
        obtain rfl := Except.ok.inj hexec
        refine { h with replies := ?_ }
        exact Eq.trans (Table.delete_insert? (orRaise_eq_ok.1 hins) rfl) h.replies
    | discardReply lease =>
      obtain rfl := Except.ok.inj hexec
      refine { h with replies := ?_ }
      exact Eq.trans (Table.delete_delete fun r hr hq => hof r hr hq.1) h.replies
    | createRun q =>
      obtain ⟨_, -, hexec⟩ := bind_eq_ok.1 hexec
      obtain ⟨_, -, hexec⟩ := bind_eq_ok.1 hexec
      obtain ⟨_, -, hexec⟩ := bind_eq_ok.1 hexec
      obtain ⟨runs, hins, hexec⟩ := bind_eq_ok.1 hexec
      obtain rfl := Except.ok.inj hexec
      refine { h with turnRuns := ?_ }
      exact Eq.trans (Table.delete_insert? (orRaise_eq_ok.1 hins) hof) h.turnRuns
    | updateRun runId status =>
      obtain ⟨_, -, hexec⟩ := bind_eq_ok.1 hexec
      obtain rfl := Except.ok.inj hexec
      refine { h with turnRuns := ?_ }
      refine Eq.trans (Table.delete_update ?_ hof fun _ => Iff.rfl) h.turnRuns
      exact fun r => Table.key_self r

def contextFor (sessionId : String) (supplied : Option RequestContext) (db : Database) :
    Option RequestContext :=
  supplied.or ((db.pendingContexts.find? sessionId).map PendingContextRow.context)

theorem delete_pending_of_none (h : db.pendingContexts.find? sessionId = none) :
    (db.pendingContexts.delete fun r => r.webSessionId = sessionId) = db.pendingContexts :=
  Table.delete_eq_self (Table.find?_eq_none_iff.1 h)

theorem resolveContext_eq_ok {supplied : Option RequestContext}
    (h : resolveContext now sessionId turnId supplied db = .ok db') : ∃ turnContexts,
      db' = { db with
        turnContexts
        pendingContexts := db.pendingContexts.delete fun r => r.webSessionId = sessionId } ∧
      (contextFor sessionId supplied db = none ∧ turnContexts = db.turnContexts ∨
        ∃ context, contextFor sessionId supplied db = some context ∧
          db.turnContexts.insert? ⟨turnId, context, now⟩ = some turnContexts) := by
  obtain ⟨_, -, h⟩ := bind_eq_ok.1 h
  split at h
  · next hnone =>
    obtain rfl := Except.ok.inj h
    have hpending := (Option.or_eq_none_iff.1 hnone).2
    refine ⟨db.turnContexts, ?_, .inl ⟨hnone, rfl⟩⟩
    rw [delete_pending_of_none (Option.map_eq_none_iff.1 hpending)]
  · next context hsome =>
    obtain ⟨turnContexts, hins, h⟩ := bind_eq_ok.1 h
    obtain rfl := Except.ok.inj h
    exact ⟨turnContexts, rfl, .inr ⟨context, hsome, orRaise_eq_ok.1 hins⟩⟩

/-- What is written for a new turn. -/
structure Created (now : Timestamp) (ids : TurnIds) (session : SessionRow) (message : String)
    (invocationId : Option String) (supplied : Option RequestContext) (s : Database)
    (sub : TurnSubmission) (db : Database) : Prop where
  created : sub.created
  turn : sub.turn =
    ⟨ids.turn, session.id, invocationId, "user", .running, now, none, none⟩
  message : sub.message = ⟨ids.message, session.id, some ids.turn, .user, message, now⟩
  turns : s.turns.insert? sub.turn = some db.turns
  messages : s.messages.insert? sub.message = some db.messages
  timelineEvents : ∃ e, e.turnId = some ids.turn ∧
    s.timelineEvents.insert? e = some db.timelineEvents
  authorities : db.authorities = s.authorities ∨
    s.authorities.insert? ⟨ids.turn, "router", 1, true, none, now, now⟩ = some db.authorities
  contexts : contextFor session.id supplied s = none ∧ db.turnContexts = s.turnContexts ∨
    ∃ context, contextFor session.id supplied s = some context ∧
      s.turnContexts.insert? ⟨ids.turn, context, now⟩ = some db.turnContexts
  pendingContexts :
    db.pendingContexts = s.pendingContexts.delete fun r => r.webSessionId = session.id
  sessions : SameSessions s db
  replies : db.replies = s.replies
  tools : db.tools = s.tools
  turnRuns : db.turnRuns = s.turnRuns
  taskIds : db.taskIds = s.taskIds
  interactions : db.interactions = s.interactions
  outbox : db.outbox = s.outbox

variable {ids : TurnIds} {session : SessionRow} {message : String}
  {invocationId : Option String} {supplied : Option RequestContext} {sub : TurnSubmission}

theorem createTurn_eq_ok
    (h : createTurn now ids session message invocationId supplied s = .ok (sub, db)) :
    Created now ids session message invocationId supplied s sub db := by
  obtain ⟨_, -, h⟩ := bind_eq_ok.1 h
  obtain ⟨turns, hturns, h⟩ := bind_eq_ok.1 h
  obtain ⟨messages, hmessages, h⟩ := bind_eq_ok.1 h
  obtain ⟨db₁, hcontext, h⟩ := bind_eq_ok.1 h
  obtain ⟨db₂, hauthority, h⟩ := bind_eq_ok.1 h
  obtain ⟨⟨event, db₃⟩, hevent, h⟩ := bind_eq_ok.1 h
  obtain ⟨turnContexts, rfl, hcontexts⟩ := resolveContext_eq_ok hcontext
  obtain ⟨timelineEvents, hins, hevent⟩ := bind_eq_ok.1 hevent
  obtain ⟨rfl, rfl⟩ := Prod.mk.inj (Except.ok.inj hevent)
  have hauthorities : ∃ authorities, db₂ = { s with
        turns, messages, turnContexts, authorities
        pendingContexts := s.pendingContexts.delete fun r => r.webSessionId = session.id } ∧
      (authorities = s.authorities ∨
        s.authorities.insert? ⟨ids.turn, "router", 1, true, none, now, now⟩ =
          some authorities) := by
    unfold initialAuthority at hauthority
    split at hauthority
    · obtain ⟨authorities, hrouter, hauthority⟩ := bind_eq_ok.1 hauthority
      obtain rfl := Except.ok.inj hauthority
      rw [orRaise_eq_ok] at hrouter
      dsimp only at hrouter
      exact ⟨authorities, rfl, .inr hrouter⟩
    · obtain rfl := Except.ok.inj hauthority
      exact ⟨s.authorities, rfl, .inl rfl⟩
  obtain ⟨authorities, rfl, hauthorities⟩ := hauthorities
  obtain ⟨rfl, rfl⟩ := Prod.mk.inj (Except.ok.inj h)
  rw [orRaise_eq_ok] at hturns hmessages hins
  refine ⟨rfl, rfl, rfl, hturns, hmessages, ⟨_, rfl, hins⟩, hauthorities, hcontexts, rfl,
    ⟨?_, rfl, rfl⟩, rfl, rfl, rfl, rfl, rfl, rfl⟩
  refine map_update_eq ?_ ?_
  · exact fun r => Table.key_self r
  · exact fun _ => rfl

theorem created_of_beginUserTurn {requestContext : Option Json}
    (h : beginUserTurn now ids sessionId message invocationId requestContext s = .ok (sub, db))
    (hc : sub.created) : ∃ supplied session, suppliedContext requestContext = .ok supplied ∧
      s.sessions.find? sessionId = some session ∧
      (∀ t ∈ s.turns, ¬ (t.webSessionId = sessionId ∧ invocationId ≠ none ∧
        t.invocationId = invocationId)) ∧
      (¬ ∃ t ∈ s.turns, t.webSessionId = session.id ∧ t.status.Active) ∧
      Created now ids session message invocationId supplied s sub db := by
  obtain ⟨supplied, hsupplied, h⟩ := bind_eq_ok.1 h
  obtain ⟨session, hsession, h⟩ := bind_eq_ok.1 h
  rw [orRaise_eq_ok] at hsession
  split at h
  · obtain ⟨sub', hrepeated, h⟩ := bind_eq_ok.1 h
    obtain ⟨rfl, rfl⟩ := Prod.mk.inj (Except.ok.inj h)
    obtain ⟨_, -, hrepeated⟩ := bind_eq_ok.1 hrepeated
    obtain ⟨_, -, hrepeated⟩ := bind_eq_ok.1 hrepeated
    obtain rfl := Except.ok.inj hrepeated
    cases hc
  · next hnone =>
    have hnew := List.find?_eq_none.1 hnone
    have hidle := raiseIf_eq_ok.1 (bind_eq_ok.1 h).choose_spec.1
    exact ⟨supplied, session, hsupplied, hsession, fun t ht => by simpa using hnew t ht, hidle,
      createTurn_eq_ok h⟩

theorem not_hasTurn_of_created
    (h : Created now ids session message invocationId supplied s sub db) :
    ¬ s.HasTurn ids.turn := by
  rintro ⟨t, ht, hid⟩
  apply Table.insert?_fresh h.turns t ht
  rw [h.turn]
  exact hid

theorem delete_of_new {ρ κ : Type*} [Keyed ρ κ] {t : Table ρ} {ref : ρ → String}
    (hnew : ¬ s.HasTurn turnId) (h : ∀ r ∈ t, s.HasTurn (ref r)) :
    (t.delete fun r => ref r = turnId) = t := by
  refine Table.delete_eq_self fun r hr href => hnew ?_
  rw [← href]
  exact h r hr

theorem delete_of_new? {ρ κ : Type*} [Keyed ρ κ] {t : Table ρ} {ref : ρ → Option String}
    (hnew : ¬ s.HasTurn turnId) (h : ∀ r ∈ t, ∀ id ∈ ref r, s.HasTurn id) :
    (t.delete fun r => ref r = some turnId) = t :=
  Table.delete_eq_self fun r hr href => hnew (h r hr turnId href)

theorem extends_of_created (hs : s.Consistent)
    (h : Created now ids session message invocationId supplied s sub db) :
    Extends ids.turn session.id s db where
  toSameSessions := h.sessions
  messages := by
    have hmessage : sub.message.turnId = some ids.turn := by rw [h.message]
    rw [Table.delete_insert? h.messages hmessage]
    exact delete_of_new? (not_hasTurn_of_created h) hs.messages
  timelineEvents := by
    obtain ⟨event, hevent, hins⟩ := h.timelineEvents
    rw [Table.delete_insert? hins hevent]
    exact delete_of_new? (not_hasTurn_of_created h) hs.timelineEvents
  turns := by
    have hturn : sub.turn.id = ids.turn := by rw [h.turn]
    rw [Table.delete_insert? h.turns hturn]
    exact delete_of_new (not_hasTurn_of_created h) fun t ht => ⟨t, ht, rfl⟩
  replies := by
    rw [h.replies]
    exact delete_of_new (not_hasTurn_of_created h) hs.replies
  tools := by
    rw [h.tools]
    exact delete_of_new (not_hasTurn_of_created h) hs.tools
  turnRuns := by
    rw [h.turnRuns]
    exact delete_of_new (not_hasTurn_of_created h) hs.turnRuns
  authorities := by
    have hold := delete_of_new (not_hasTurn_of_created h) hs.authorities
    rcases h.authorities with he | hins
    · rw [he]
      exact hold
    · exact Eq.trans (Table.delete_insert? hins rfl) hold
  taskIds := h.taskIds
  interactions := h.interactions
  outbox := h.outbox
  pendingContexts := h.pendingContexts
  turnContexts := by
    have hold := delete_of_new (not_hasTurn_of_created h) hs.turnContexts
    rcases h.contexts with ⟨-, he⟩ | ⟨context, -, hins⟩
    · rw [he]
      exact hold
    · exact Eq.trans (Table.delete_insert? hins rfl) hold
  hasTurn := by
    refine ⟨sub.turn, (Table.mem_insert? h.turns).2 (.inr rfl), ?_⟩
    rw [h.turn]
  turnOpen := by
    intro t ht hid
    rcases (Table.mem_insert? h.turns).1 ht with ht | rfl
    · exact absurd ⟨t, ht, hid⟩ (not_hasTurn_of_created h)
    · rw [h.turn]
  authorityOpen := by
    intro a ha hid
    have hnew : ∀ a ∈ s.authorities, a.turnId ≠ ids.turn := fun a ha he =>
      not_hasTurn_of_created h (he ▸ hs.authorities a ha)
    rcases h.authorities with he | hins
    · exact absurd hid (hnew a (he ▸ ha))
    · rcases (Table.mem_insert? hins).1 ha with ha | rfl
      · exact absurd hid (hnew a ha)
      · rfl

theorem messageFree_of_extends (hs : s.Consistent) (h : Extends turnId sessionId s db) :
    ∀ m ∈ db.messages, m.turnId = some turnId → db.MessageFree m.id := by
  intro m hm hturn
  have hother : ¬ s.HasMessage m.id := by
    rintro ⟨m', hm', hid⟩
    rw [← h.messages, Table.mem_delete] at hm'
    exact hm'.2 (Table.eq_of_key hm'.1 hm hid ▸ hturn)
  constructor
  · intro t ht hfinal
    by_cases hid : t.id = turnId
    · rw [h.turnOpen t ht hid] at hfinal
      cases hfinal
    · exact hother (hs.turnFinal t (h.turns ▸ Table.mem_delete.2 ⟨ht, hid⟩) m.id hfinal)
  · intro a ha hfinal
    by_cases hid : a.turnId = turnId
    · rw [h.authorityOpen a ha hid] at hfinal
      cases hfinal
    · exact hother (hs.authorityFinal a (h.authorities ▸ Table.mem_delete.2 ⟨ha, hid⟩) m.id hfinal)

theorem parents_of_extends (hs : s.Consistent) (h : Extends turnId sessionId s db) :
    ∀ r ∈ db.turnRuns, r.turnId ≠ turnId → ∀ p ∈ db.turnRuns, p.turnId = turnId →
      r.parentRunId ≠ some p.runId := by
  intro r hr hother p hp hturn hparent
  have hr' : r ∈ s.turnRuns := h.turnRuns ▸ Table.mem_delete.2 ⟨hr, hother⟩
  obtain ⟨p', hp', hid⟩ := hs.parentRuns r hr' p.runId hparent
  rw [← h.turnRuns, Table.mem_delete] at hp'
  exact hp'.2 (Table.eq_of_key hp'.1 hp hid ▸ hturn)

/-- The turn can be taken back, and the request context of the session is gone. -/
theorem abort_of_extends (hs : s.Consistent) (hnew : ¬ s.HasTurn turnId)
    (h : Extends turnId sessionId s db) : ∃ db', abortInitialTurn turnId db = .ok db' ∧
      Restored { s with
        pendingContexts := s.pendingContexts.delete fun r => r.webSessionId = sessionId } db' := by
  have hruns : ¬ ∃ r ∈ db.turnRuns.delete fun r => r.turnId = turnId,
      ∃ p ∈ db.turnRuns, p.turnId = turnId ∧ r.parentRunId = some p.runId := by
    rintro ⟨r, hr, p, hp, hturn, hparent⟩
    obtain ⟨hr, hother⟩ := Table.mem_delete.1 hr
    exact parents_of_extends hs h r hr hother p hp hturn hparent
  have hfree : ¬ ∃ m ∈ db.messages, m.turnId = some turnId ∧
      ¬ ((∀ t ∈ db.turns, t.finalMessageId ≠ some m.id) ∧
        ∀ a ∈ db.authorities.delete fun r => r.turnId = turnId,
          a.finalMessageId ≠ some m.id) := by
    rintro ⟨m, hm, hturn, hnot⟩
    obtain ⟨hturns, hauthorities⟩ := messageFree_of_extends hs h m hm hturn
    exact hnot ⟨hturns, fun a ha => hauthorities a (Table.mem_delete.1 ha).1⟩
  have hrefs : ¬ ((∃ r ∈ db.interactions, r.turnId = some turnId) ∨
      ∃ r ∈ db.outbox, r.turnId = some turnId) := by
    rw [h.interactions, h.outbox]
    rintro (⟨r, hr, hturn⟩ | ⟨r, hr, hturn⟩)
    · exact hnew (hs.interactions r hr turnId hturn)
    · exact hnew (hs.outbox r hr turnId hturn)
  refine ⟨_, Eq.trans (if_pos h.hasTurn) (bind_eq_ok.2 ⟨⟨⟩, raiseIf_eq_ok.2 hruns,
    bind_eq_ok.2 ⟨⟨⟩, raiseIf_eq_ok.2 hfree, bind_eq_ok.2 ⟨⟨⟩, raiseIf_eq_ok.2 hrefs, rfl⟩⟩⟩), ?_⟩
  refine ⟨⟨h.sessions, ?_, ?_⟩, h.messages, h.timelineEvents, h.turns, h.replies, h.tools,
    h.turnRuns, h.authorities, h.taskIds, h.interactions, h.outbox, h.pendingContexts,
    h.turnContexts⟩
  · refine Eq.trans (map_update_eq ?_ ?_) h.agentscope
    · exact fun r => Table.key_self r
    · exact fun _ => rfl
  · refine Eq.trans (map_update_eq ?_ ?_) h.conversation
    · exact fun r => Table.key_self r
    · exact fun _ => rfl

/-- Ids that no row has yet. -/
structure TurnIds.Fresh (ids : TurnIds) (db : Database) : Prop where
  turn : ¬ db.HasTurn ids.turn
  message : ¬ db.HasMessage ids.message
  event : ∀ e ∈ db.timelineEvents, e.id ≠ ids.event

def contextOf (turnId : String) (db : Database) : Option RequestContext :=
  (db.turnContexts.find? turnId).map TurnContextRow.context

theorem contextOf_created (hnew : ∀ r ∈ s.turnContexts, r.turnId ≠ ids.turn)
    (h : Created now ids session message invocationId supplied s sub db) :
    contextOf ids.turn db = contextFor session.id supplied s := by
  unfold contextOf
  rcases h.contexts with ⟨hnone, he⟩ | ⟨context, hsome, hins⟩
  · rw [hnone, he, Table.find?_eq_none_iff.2 hnew]
    rfl
  · rw [hsome, Table.find?_insert? hins]
    exact congrArg _ (if_pos rfl)

theorem exists_resolveContext (db : Database) (turnId : String) (now : Timestamp)
    (supplied : Option RequestContext) (hpending : db.pendingContexts.find? sessionId = none)
    (hnew : ∀ r ∈ db.turnContexts, r.turnId ≠ turnId) :
    ∃ turnContexts pendingContexts, resolveContext now sessionId turnId supplied db =
      .ok { db with turnContexts, pendingContexts } := by
  have hagree : ¬ (supplied ≠ none ∧
      (db.pendingContexts.find? sessionId).map PendingContextRow.context ≠ none ∧
      supplied ≠ (db.pendingContexts.find? sessionId).map PendingContextRow.context) := by
    rw [hpending]
    simp
  cases supplied with
  | none =>
    refine ⟨db.turnContexts, db.pendingContexts, bind_eq_ok.2 ⟨⟨⟩, raiseIf_eq_ok.2 hagree, ?_⟩⟩
    rw [hpending]
    rfl
  | some context =>
    have hkey : ∀ r ∈ db.turnContexts, key r ≠ key (⟨turnId, context, now⟩ : TurnContextRow) := hnew
    obtain ⟨turnContexts, hins⟩ := Table.insert?_isSome hkey
    refine ⟨turnContexts, db.pendingContexts.delete fun r => r.webSessionId = sessionId,
      bind_eq_ok.2 ⟨⟨⟩, raiseIf_eq_ok.2 hagree, ?_⟩⟩
    rw [hpending]
    exact bind_eq_ok.2 ⟨turnContexts, orRaise_eq_ok.2 hins, rfl⟩

theorem exists_initialAuthority (db : Database) (turnId : String) (now : Timestamp)
    (session : SessionRow) (hnew : ∀ r ∈ db.authorities, r.turnId ≠ turnId) :
    ∃ authorities, initialAuthority now session turnId db = .ok { db with authorities } := by
  unfold initialAuthority
  split
  · have hkey : ∀ r ∈ db.authorities,
        key r ≠ key (⟨turnId, "router", 1, true, none, now, now⟩ : AuthorityRow) := hnew
    obtain ⟨authorities, hins⟩ := Table.insert?_isSome hkey
    exact ⟨authorities, bind_eq_ok.2 ⟨authorities, orRaise_eq_ok.2 hins, rfl⟩⟩
  · exact ⟨db.authorities, rfl⟩

theorem createTurn_succeeds (now : Timestamp) (message : String) (invocationId : Option String)
    (supplied : Option RequestContext)
    (hidle : ¬ ∃ t ∈ db.turns, t.webSessionId = session.id ∧ t.status.Active)
    (hpending : db.pendingContexts.find? session.id = none) (hfresh : ids.Fresh db)
    (hcontexts : ∀ r ∈ db.turnContexts, db.HasTurn r.turnId)
    (hauthorities : ∀ r ∈ db.authorities, db.HasTurn r.turnId) :
    Succeeds (createTurn now ids session message invocationId supplied db) := by
  obtain ⟨turns, hturns⟩ : ∃ turns, db.turns.insert?
      ⟨ids.turn, session.id, invocationId, "user", .running, now, none, none⟩ = some turns :=
    Table.insert?_isSome fun t ht hid => hfresh.turn ⟨t, ht, hid⟩
  obtain ⟨messages, hmessages⟩ : ∃ messages, db.messages.insert?
      ⟨ids.message, session.id, some ids.turn, .user, message, now⟩ = some messages :=
    Table.insert?_isSome fun m hm hid => hfresh.message ⟨m, hm, hid⟩
  obtain ⟨turnContexts, pendingContexts, hcontext⟩ :=
    exists_resolveContext { db with turns, messages } ids.turn now supplied hpending
      fun r hr he => hfresh.turn (he ▸ hcontexts r hr)
  obtain ⟨authorities, hauthority⟩ :=
    exists_initialAuthority { db with turns, messages, turnContexts, pendingContexts } ids.turn now
      session
      fun r hr he => hfresh.turn (he ▸ hauthorities r hr)
  obtain ⟨timelineEvents, hevents⟩ : ∃ timelineEvents, db.timelineEvents.insert?
      ⟨ids.event, session.id, some ids.turn, nextSeq session.id db, none, "turn_start", none, none,
        none, some now, [("status", .str "running"), ("started_at", .int now)], now⟩ =
        some timelineEvents :=
    Table.insert?_isSome hfresh.event
  refine succeeds_raiseIf_bind.2 ⟨hidle, ?_⟩
  refine succeeds_orRaise_bind.2 ⟨turns, hturns, ?_⟩
  refine succeeds_orRaise_bind.2 ⟨messages, hmessages, ?_⟩
  refine succeeds_bind.2 ⟨_, hcontext, ?_⟩
  refine succeeds_bind.2 ⟨_, hauthority, ?_⟩
  refine succeeds_bind.2 ⟨(_, _), bind_eq_ok.2 ⟨timelineEvents, orRaise_eq_ok.2 hevents, rfl⟩, ?_⟩
  exact succeeds_ok _

/-- The session is still there, with another time. -/
theorem find?_session (h : SameSessions s db)
    (hsession : s.sessions.find? sessionId = some session) :
    ∃ session', db.sessions.find? sessionId = some session' ∧
      session'.untimed = session.untimed := by
  have hfind (t : Table SessionRow) : (t.find? sessionId).map SessionRow.untimed =
      (t.rows.map SessionRow.untimed).find? fun r => key r = sessionId := by
    rw [List.find?_map]
    rfl
  have hsame : (db.sessions.find? sessionId).map SessionRow.untimed =
      some session.untimed := by
    rw [hfind, h.sessions, ← hfind, hsession]
    rfl
  exact Option.map_eq_some_iff.1 hsame

theorem submit_again {s₁ s₃ : Database} {now' : Timestamp} {ids' : TurnIds}
    {requestContext : Option Json} (hs : s.Consistent)
    (hnone : s.pendingContexts.find? sessionId = none)
    (hbegin : beginUserTurn now ids sessionId message invocationId requestContext s = .ok (sub, s₁))
    (hc : sub.created) (h : Restored s s₃) (hfresh : ids'.Fresh s₃) :
    ∃ sub' s₄, beginUserTurn now' ids' sessionId message invocationId requestContext s₃ =
        .ok (sub', s₄) ∧ sub'.created ∧ contextOf ids'.turn s₄ = contextOf ids.turn s₁ := by
  obtain ⟨supplied, session, hsupplied, hsession, hnew, hidle, hcreated⟩ :=
    created_of_beginUserTurn hbegin hc
  obtain ⟨session', hsession', hsame⟩ := find?_session h.toSameSessions hsession
  have hid : session.id = sessionId := (Table.find?_eq_some_iff.1 hsession).2
  have hid' : session'.id = sessionId := (Table.find?_eq_some_iff.1 hsession').2
  have hpending : s₃.pendingContexts.find? session'.id = none := by
    rw [h.pendingContexts, hid', hnone]
  have hidle' : ¬ ∃ t ∈ s₃.turns, t.webSessionId = session'.id ∧ t.status.Active := by
    rwa [h.turns, hid', ← hid]
  have hturns (turnId : String) : s.HasTurn turnId → s₃.HasTurn turnId := by
    unfold Database.HasTurn
    rw [h.turns]
    exact id
  have hcontexts : ∀ r ∈ s₃.turnContexts, s₃.HasTurn r.turnId := by
    rw [h.turnContexts]
    exact fun r hr => hturns _ (hs.turnContexts r hr)
  have hauthorities : ∀ r ∈ s₃.authorities, s₃.HasTurn r.turnId := by
    rw [h.authorities]
    exact fun r hr => hturns _ (hs.authorities r hr)
  obtain ⟨⟨sub', s₄⟩, hcreate⟩ := createTurn_succeeds now' message invocationId supplied hidle'
    hpending hfresh hcontexts hauthorities
  have hcreated' := createTurn_eq_ok hcreate
  have hnone' : (s₃.turns.rows.find? fun t => t.webSessionId = sessionId ∧ invocationId ≠ none ∧
      t.invocationId = invocationId) = none := by
    rw [h.turns, List.find?_eq_none]
    intro t ht
    simpa using hnew t ht
  refine ⟨sub', s₄, ?_, hcreated'.created, ?_⟩
  · refine bind_eq_ok.2 ⟨supplied, hsupplied, bind_eq_ok.2 ⟨session', ?_, ?_⟩⟩
    · exact orRaise_eq_ok.2 hsession'
    · rw [hnone']
      exact hcreate
  · rw [contextOf_created (fun r hr he => hfresh.turn (he ▸ hcontexts r hr)) hcreated',
      contextOf_created (fun r hr he => not_hasTurn_of_created hcreated
        (he ▸ hs.turnContexts r hr)) hcreated]
    unfold contextFor
    rw [hpending, hid, hnone]

/-- A submission that is taken back leaves no trace, and can be made again with the same context,
if and only if no context was saved for the session. -/
theorem restored_iff_no_pending {s₁ s₂ : Database} {requestContext : Option Json}
    {l : List (Transition Database (Timestamp × RuntimeOp))} (hs : s.Consistent)
    (hbegin : beginUserTurn now ids sessionId message invocationId requestContext s = .ok (sub, s₁))
    (hc : sub.created) (hrun : Run (RuntimeStep ids.turn) s₁ l s₂) :
    (∃ s₃, abortInitialTurn sub.turn.id s₂ = .ok s₃ ∧ Restored s s₃ ∧
        ∀ now' ids', TurnIds.Fresh ids' s₃ → ∃ sub' s₄,
          beginUserTurn now' ids' sessionId message invocationId requestContext s₃ =
            .ok (sub', s₄) ∧ sub'.created ∧ contextOf ids'.turn s₄ = contextOf ids.turn s₁) ↔
      s.pendingContexts.find? sessionId = none := by
  obtain ⟨supplied, session, -, hsession, -, -, hcreated⟩ := created_of_beginUserTurn hbegin hc
  obtain rfl : session.id = sessionId := (Table.find?_eq_some_iff.1 hsession).2
  have hid : sub.turn.id = ids.turn := by rw [hcreated.turn]
  have hextends : Extends ids.turn session.id s s₂ :=
    hrun.keeps (extends_of_created hs hcreated) fun x hx h =>
      extends_of_step h (hrun.step_of_mem hx)
  obtain ⟨s₃, habort, hrestored⟩ := abort_of_extends hs (not_hasTurn_of_created hcreated) hextends
  rw [hid]
  constructor
  · rintro ⟨s₃', habort', hrestored', -⟩
    obtain rfl : s₃ = s₃' := Except.ok.inj (habort.symm.trans habort')
    rw [← hrestored'.pendingContexts, hrestored.pendingContexts, Table.find?_eq_none_iff]
    intro r hr
    exact (Table.mem_delete.1 hr).2
  · intro hnone
    have hs₃ : Restored s s₃ :=
      { hrestored with
        pendingContexts := hrestored.pendingContexts.trans (delete_pending_of_none hnone) }
    refine ⟨s₃, habort, hs₃, fun now' ids' hfresh => ?_⟩
    exact submit_again hs hnone hbegin hc hs₃ hfresh

def newSession : Database where
  sessions := ⟨[⟨"web-1", "", "active", 0, 0, 1⟩], List.nodup_singleton _⟩
  messages := .empty
  timelineEvents := .empty
  turns := .empty
  agentscopeSessions := .empty
  replies := .empty
  tools := .empty
  conversationSessions := .empty
  turnRuns := .empty
  authorities := .empty
  taskIds := []
  interactions := .empty
  outbox := .empty
  pendingContexts := .empty
  turnContexts := .empty

/-- The selection that the user makes before the first message. -/
def selectedClip : Json := .obj [("kind", .str datasetSelectionContext),
  ("dataset_date", .str "20260401"),
  ("selection", .obj [("kind", .str "selected_clips"), ("clips", .arr [.str "clip-7"])])]

def firstIds : TurnIds := ⟨"turn-1", "message-1", "event-1"⟩

def secondIds : TurnIds := ⟨"turn-2", "message-2", "event-2"⟩

/-- The turn is begun, taken back, and begun again. -/
def submitTwice : Except StoreError (Database × (TurnSubmission × Database) × Database ×
    (TurnSubmission × Database)) := do
  let s ← savePendingRequestContext 1 "web-1" selectedClip newSession
  let begun ← beginUserTurn 2 firstIds "web-1" "annotate it" (some "call-1") none s
  let s₃ ← abortInitialTurn begun.1.turn.id begun.2
  let again ← beginUserTurn 3 secondIds "web-1" "annotate it" (some "call-1") none s₃
  return (s, begun, s₃, again)

/-- The selection of the user is lost with the submission that is taken back. -/
theorem pendingContext_lost : ∃ s sub s₁ s₃ sub' s₄,
    savePendingRequestContext 1 "web-1" selectedClip newSession = .ok s ∧
    beginUserTurn 2 firstIds "web-1" "annotate it" (some "call-1") none s = .ok (sub, s₁) ∧
    sub.created ∧ abortInitialTurn sub.turn.id s₁ = .ok s₃ ∧ ¬ Restored s s₃ ∧
    beginUserTurn 3 secondIds "web-1" "annotate it" (some "call-1") none s₃ = .ok (sub', s₄) ∧
    contextOf "turn-1" s₁ = some ⟨"20260401", .selectedClips ["clip-7"]⟩ ∧
    contextOf "turn-2" s₄ = none := by
  have hrun : (submitTwice.toOption.map fun (s, begun, s₃, again) =>
      (begun.1.created, contextOf "turn-1" begun.2, contextOf "turn-2" again.2,
        s.pendingContexts.rows.length, s₃.pendingContexts.rows.length)) =
      some (true, some ⟨"20260401", .selectedClips ["clip-7"]⟩, none, 1, 0) := by
    decide +kernel
  obtain ⟨⟨s, ⟨sub, s₁⟩, s₃, sub', s₄⟩, hsubmit, hrun⟩ := Option.map_eq_some_iff.1 hrun
  have hsubmit : submitTwice = .ok (s, (sub, s₁), s₃, sub', s₄) := by
    cases h : submitTwice with
    | error e => simp [h, Except.toOption] at hsubmit
    | ok r => simpa [h, Except.toOption] using hsubmit
  obtain ⟨s, hsave, hsubmit⟩ := bind_eq_ok.1 hsubmit
  obtain ⟨begun, hbegin, hsubmit⟩ := bind_eq_ok.1 hsubmit
  obtain ⟨s₃, habort, hsubmit⟩ := bind_eq_ok.1 hsubmit
  obtain ⟨again, hagain, hsubmit⟩ := bind_eq_ok.1 hsubmit
  cases hsubmit
  simp only [Prod.mk.injEq] at hrun
  obtain ⟨hcreated, hfirst, hsecond, hbefore, hafter⟩ := hrun
  refine ⟨s, sub, s₁, s₃, sub', s₄, hsave, hbegin, hcreated, habort, fun h => ?_, hagain, hfirst,
    hsecond⟩
  rw [h.pendingContexts, hbefore] at hafter
  cases hafter

/-- A turn of a session without a saved context, with a reply that is pending. -/
def submitPlain : Except StoreError ((TurnSubmission × Database) × Database) := do
  let begun ← beginUserTurn 2 firstIds "web-1" "hello" none none newSession
  let s₂ ← registerPendingReply 3 "lease-1" "turn-1" "agent-1" "chief" "router" begun.2
  return (begun, s₂)

theorem newSession_consistent : newSession.Consistent where
  messages := by rintro r ⟨⟩
  timelineEvents := by rintro r ⟨⟩
  replies := by rintro r ⟨⟩
  tools := by rintro r ⟨⟩
  turnRuns := by rintro r ⟨⟩
  authorities := by rintro r ⟨⟩
  interactions := by rintro r ⟨⟩
  outbox := by rintro r ⟨⟩
  turnContexts := by rintro r ⟨⟩
  parentRuns := by rintro r ⟨⟩
  turnFinal := by rintro r ⟨⟩
  authorityFinal := by rintro r ⟨⟩

theorem restored_iff_no_pending_plain : ∃ sub s₁ l s₂ s₃,
    beginUserTurn 2 firstIds "web-1" "hello" none none newSession = .ok (sub, s₁) ∧
    Run (RuntimeStep "turn-1") s₁ l s₂ ∧ l ≠ [] ∧ abortInitialTurn sub.turn.id s₂ = .ok s₃ ∧
    Restored newSession s₃ := by
  have hrun : submitPlain.toOption.map (fun r => r.1.1.created) = some true := by
    decide +kernel
  obtain ⟨⟨⟨sub, s₁⟩, s₂⟩, hsubmit, hcreated⟩ := Option.map_eq_some_iff.1 hrun
  have hsubmit : submitPlain = .ok ((sub, s₁), s₂) := by
    cases h : submitPlain with
    | error e => simp [h, Except.toOption] at hsubmit
    | ok r => simpa [h, Except.toOption] using hsubmit
  obtain ⟨begun, hbegin, hsubmit⟩ := bind_eq_ok.1 hsubmit
  obtain ⟨s₂, hreply, hsubmit⟩ := bind_eq_ok.1 hsubmit
  cases hsubmit
  have hstep : RuntimeStep "turn-1" s₁
      (3, .registerReply "lease-1" "agent-1" "chief" "router") s₂ := .done trivial hreply
  obtain ⟨s₃, habort, hrestored, -⟩ := (restored_iff_no_pending newSession_consistent hbegin
    hcreated (Run.single hstep)).2 rfl
  exact ⟨sub, s₁, _, s₂, s₃, hbegin, Run.single hstep, by simp, habort, hrestored⟩

end DataJuicer.Web

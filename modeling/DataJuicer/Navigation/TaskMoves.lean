import DataJuicer.Navigation.Ledger

/-! # What a request does to the tasks

A task is changed by the statements on `navigation_tasks` and by the triggers of its child
rows. As for the ledger, this module says once which change each operation commits.
-/

namespace DataJuicer.Navigation

open Table

/-- The triggers have fired `n` times. -/
def TaskRow.bump (t : TaskRow) (n : ℕ) : TaskRow := { t with stateRevision := t.stateRevision + n }

@[simp] theorem TaskRow.bump_zero (t : TaskRow) : t.bump 0 = t := rfl

@[simp] theorem TaskRow.bump_bump (t : TaskRow) (m n : ℕ) : (t.bump m).bump n = t.bump (m + n) := by
  simp [bump, Nat.add_assoc]

/-- Nothing but triggers changed the task. -/
def TaskRow.Bumped (t t' : TaskRow) : Prop := ∃ n, t' = t.bump n

theorem TaskRow.Bumped.refl (t : TaskRow) : t.Bumped t := ⟨0, rfl⟩

theorem TaskRow.Bumped.trans {t t' t'' : TaskRow} (h : t.Bumped t') (h' : t'.Bumped t'') :
    t.Bumped t'' := by
  obtain ⟨m, rfl⟩ := h
  obtain ⟨n, rfl⟩ := h'
  exact ⟨m + n, t.bump_bump m n⟩

def TaskRow.BumpedFor (id : String) (t t' : TaskRow) : Prop :=
  ∃ n, t' = t.bump n ∧ (t.taskId = id → 0 < n)

theorem TaskRow.Bumped.bumpedFor {id : String} {t t' t'' : TaskRow} (h : t.Bumped t')
    (h' : t'.BumpedFor id t'') : t.BumpedFor id t'' := by
  obtain ⟨m, rfl⟩ := h
  obtain ⟨n, rfl, hn⟩ := h'
  exact ⟨m + n, t.bump_bump m n, fun ht => Nat.add_pos_right m (hn ht)⟩

theorem TaskRow.BumpedFor.bumped {id : String} {t t' t'' : TaskRow} (h : t.BumpedFor id t')
    (h' : t'.Bumped t'') : t.BumpedFor id t'' := by
  obtain ⟨m, rfl, hm⟩ := h
  obtain ⟨n, rfl⟩ := h'
  exact ⟨m + n, t.bump_bump m n, fun ht => Nat.add_pos_left (hm ht) n⟩

def NavigationDb.OnlyTriggers (db db' : NavigationDb) : Prop :=
  Rowwise TaskRow.Bumped db.tasks db'.tasks

namespace NavigationDb

variable {db db' db'' : NavigationDb}

theorem OnlyTriggers.trans (h : db.OnlyTriggers db') (h' : db'.OnlyTriggers db'') :
    db.OnlyTriggers db'' :=
  Rowwise.trans h h' fun _ _ _ _ => TaskRow.Bumped.trans

theorem onlyTriggers_of_eq (h : db'.tasks = db.tasks) : db.OnlyTriggers db' := by
  unfold OnlyTriggers
  rw [h]
  exact Rowwise.refl fun t _ => .refl t

theorem OnlyTriggers.refl (db : NavigationDb) : db.OnlyTriggers db := onlyTriggers_of_eq rfl

theorem onlyTriggers_touch (h : db'.tasks = db.tasks) (ids : List String) :
    db.OnlyTriggers (db'.touch ids) := by
  have hkey : ∀ t : TaskRow, key (t.bump (ids.count t.taskId)) = key t := fun _ => rfl
  have hbump : Rowwise TaskRow.Bumped db.tasks (db.tasks.update (fun _ => True)
      (fun t => t.bump (ids.count t.taskId)) hkey) :=
    Rowwise.of_update hkey fun t _ => ⟨ids.count t.taskId, if_pos trivial⟩
  unfold OnlyTriggers touch
  rw [h]
  exact hbump

section Statements

variable (db)

theorem onlyTriggers_updateSteps (p : StepRow → Prop) [DecidablePred p] (f : StepRow → StepRow)
    (hf : ∀ r, key (f r) = key r) : db.OnlyTriggers (db.updateSteps p f hf) :=
  onlyTriggers_touch rfl _

theorem onlyTriggers_updatePlans (p : PlanRow → Prop) [DecidablePred p] (f : PlanRow → PlanRow)
    (hf : ∀ r, key (f r) = key r) : db.OnlyTriggers (db.updatePlans p f hf) :=
  onlyTriggers_touch rfl _

theorem onlyTriggers_updateHandoffs (p : HandoffRow → Prop) [DecidablePred p]
    (f : HandoffRow → HandoffRow) (hf : ∀ r, key (f r) = key r) :
    db.OnlyTriggers (db.updateHandoffs p f hf) :=
  onlyTriggers_touch rfl _

theorem onlyTriggers_deletePlans (p : PlanRow → Prop) [DecidablePred p] :
    db.OnlyTriggers (db.deletePlans p) :=
  onlyTriggers_touch rfl _

theorem onlyTriggers_deleteOutbox (p : OutboxRow → Prop) [DecidablePred p] :
    db.OnlyTriggers (db.deleteOutbox p) :=
  onlyTriggers_touch rfl _

theorem onlyTriggers_deleteHandoffs (p : HandoffRow → Prop) [DecidablePred p] :
    db.OnlyTriggers (db.deleteHandoffs p) :=
  onlyTriggers_touch rfl _

theorem onlyTriggers_deleteAttempts (p : AttemptRow → Prop) [DecidablePred p] :
    db.OnlyTriggers (db.deleteAttempts p) :=
  onlyTriggers_touch rfl _

theorem onlyTriggers_deleteOutcomes (p : OutcomeRow → Prop) [DecidablePred p] :
    db.OnlyTriggers (db.deleteOutcomes p) :=
  onlyTriggers_touch rfl _

theorem onlyTriggers_deleteLineage (p : LineageRow → Prop) [DecidablePred p] :
    db.OnlyTriggers (db.deleteLineage p) :=
  onlyTriggers_touch rfl _

end Statements

theorem onlyTriggers_insertStep? {r : StepRow} (h : db.insertStep? r = some db') :
    db.OnlyTriggers db' := by
  obtain ⟨_, _, rfl⟩ := Option.map_eq_some_iff.1 h
  exact onlyTriggers_touch rfl _

theorem onlyTriggers_insertPlan? {p : PlanRow} (h : db.insertPlan? p = some db') :
    db.OnlyTriggers db' := by
  obtain ⟨_, _, rfl⟩ := Option.map_eq_some_iff.1 h
  exact onlyTriggers_touch rfl _

theorem onlyTriggers_insertLineage? {l : LineageRow} (h : db.insertLineage? l = some db') :
    db.OnlyTriggers db' := by
  obtain ⟨_, _, rfl⟩ := Option.map_eq_some_iff.1 h
  exact onlyTriggers_touch rfl _

theorem onlyTriggers_insertObservation? {o : NavigationObservationRevision}
    (h : db.insertObservation? o = some db') : db.OnlyTriggers db' := by
  obtain ⟨_, _, rfl⟩ := Option.map_eq_some_iff.1 h
  exact onlyTriggers_touch rfl _

theorem onlyTriggers_insertEvidence? {e : EvidenceDescriptor}
    (h : db.insertEvidence? e = some db') : db.OnlyTriggers db' := by
  obtain ⟨_, _, rfl⟩ := Option.map_eq_some_iff.1 h
  exact onlyTriggers_touch rfl _

theorem onlyTriggers_insertOutcome? {o : OutcomeRow} (h : db.insertOutcome? o = some db') :
    db.OnlyTriggers db' := by
  obtain ⟨_, _, rfl⟩ := Option.map_eq_some_iff.1 h
  exact onlyTriggers_touch rfl _

end NavigationDb

def NavigationDb.EndsWith (db : NavigationDb) (planId : String) (action : StepAction) : Prop :=
  ∃ s ∈ db.steps, s.planId = planId ∧ s.toolName = action ∧
    ∀ r ∈ db.steps, r.planId = planId → r.sequence ≤ s.sequence

def NavigationDb.EndsValidated (db : NavigationDb) (p : PlanRow) : Prop :=
  p.phase = .finishProcessing ∧ db.EndsWith p.planId .validateNavigationOutputs ∨
    p.phase = .trajectoryReview ∧ db.EndsWith p.planId .validateTrajectoryReviewOutcome

inductive StatusWrite (db : NavigationDb) : Op → TaskRow → TaskStatus → Prop
  | reset {now : Timestamp} {date resetRef : String} {t : TaskRow} (ht : ¬ t.status.IsTerminal) :
      StatusWrite db (.cancelNonterminalForDatasetReset now date resetRef) t .cancelled
  | resumed {call : Call} {planId stepId action : String} {t : TaskRow}
      (ht : t.status = .waitingUser ∨ t.status = .active) :
      StatusWrite db (.resumeWaitingWorkflowStep call planId stepId action) t .active
  | workflowWaited {call : Call} {planId stepId action : String} {t : TaskRow}
      (ht : t.status = .active ∨ t.status = .waitingUser) :
      StatusWrite db (.markWorkflowStepWaitingUser call planId stepId action) t .waitingUser
  | failed {call : Call} {planId stepId action : String} {v : StepView} {staged : OutboxRow}
      {t : TaskRow} (h : Finalizable db call planId stepId action v staged)
      (htarget : staged.targetStatus = .failed) (ht : t.taskId = staged.taskId) :
      StatusWrite db (.finalizeStagedStep call planId stepId action) t .failed
  | completed {call : Call} {planId stepId action : String} {v : StepView} {staged : OutboxRow}
      {t : TaskRow} (h : Finalizable db call planId stepId action v staged)
      (htarget : staged.targetStatus = .completed)
      (hlast : ∀ s ∈ db.steps, s.planId = planId → s.stepId ≠ stepId → s.status = .completed)
      (ht : t.taskId = v.plan.taskId) (hends : db.EndsValidated v.plan) :
      StatusWrite db (.finalizeStagedStep call planId stepId action) t .completed
  | continued {call : Call} {planId stepId action : String} {v : StepView} {staged : OutboxRow}
      {t : TaskRow} (h : Finalizable db call planId stepId action v staged)
      (htarget : staged.targetStatus = .completed)
      (hlast : ∀ s ∈ db.steps, s.planId = planId → s.stepId ≠ stepId → s.status = .completed)
      (ht : t.taskId = v.plan.taskId) (hends : ¬ db.EndsValidated v.plan) :
      StatusWrite db (.finalizeStagedStep call planId stepId action) t .active
  | recovered {call : Call} {planId stepId reason action : String} {v : StepView} {t : TaskRow}
      (h : Recoverable db call planId stepId action v) (ht : t.taskId = v.plan.taskId) :
      StatusWrite db (.recoverRunningStepWithoutResult call planId stepId reason action) t
        .needsReplan
  | replanned {call : Call} {planId reason : String} {p : PlanRow} {t : TaskRow}
      (h : Replannable db call planId p) (ht : t.taskId = p.taskId) :
      StatusWrite db (.markNeedsReplan call planId reason) t .needsReplan
  | terminalized {call : Call} {planId stepId reason action : String} {v : StepView} {t : TaskRow}
      (h : Terminalizable db call planId stepId action v) (ht : t.taskId = v.plan.taskId) :
      StatusWrite db (.markTerminalizedClaimNeedsReplan call planId stepId reason action) t
        .needsReplan
  | quarantined {now : Timestamp} {web planId stepId reason : String} {h : HandoffRow} {t : TaskRow}
      (hq : Quarantinable db now web planId stepId reason h) (ht : t.taskId = h.taskId) :
      StatusWrite db (.quarantineHumanDecisionHandoff now web planId stepId reason) t .needsReplan

/-- How a committed operation changes a task that it does not create or delete. -/
inductive TaskMove (db : NavigationDb) : Op → TaskRow → TaskRow → Prop
  | triggered {op : Op} {t t' : TaskRow} (h : t.Bumped t') : TaskMove db op t t'
  | written {op : Op} {t t' : TaskRow} {s : TaskStatus} {now : Timestamp}
      (hs : StatusWrite db op t s) {n : ℕ} (hn : 0 < n)
      (h : t' = { t with status := s, updatedAt := utcNow now }.bump n) : TaskMove db op t t'
  | activated {call : Call} {a : Activation} {t t' : TaskRow} (ht : t.taskId = a.taskId) {n : ℕ}
      (hn : 0 < n) (h : t' = { t with
        acceptedPlanPhase := some a.phase, updatedAt := utcNow call.now }.bump n) :
      TaskMove db (.activate call a) t t'
  | merged {call : Call} {taskId : String} {expected : Option ℕ} {changes : TaskChanges}
      {t t' : TaskRow} (ht : t.taskId = taskId) (hexpected : ∀ r ∈ expected, t.stateRevision = r)
      (hedge : t.status = changes.status.getD t.status ∨
        changes.status.getD t.status ∈ t.status.transitions)
      (h : t' = mergedTask t changes call.now)
      (hindex : ∀ r ∈ db.tasks, r.taskId ≠ taskId → r.replayKey ≠ t'.replayKey) :
      TaskMove db (.updateTaskForSession call taskId expected changes) t t'
  | guided {call : Call} {g : UserGuidance} {t t' : TaskRow} (ht : t.taskId = g.taskId)
      (hexpected : t.stateRevision = g.expectedStateRevision) {n : ℕ} (hn : 0 < n)
      (h : t' = { t with
        guidanceRevision := t.guidanceRevision + 1, sceneMode := g.sceneMode.or t.sceneMode
        updatedAt := utcNow call.now }.bump n) :
      TaskMove db (.appendUserGuidance call g) t t'

/-- The task tables that a committed request can leave. -/
inductive TasksMove (db : NavigationDb) : Op → Table TaskRow → Prop
  | changed {op : Op} {tasks : Table TaskRow} (h : Rowwise (TaskMove db op) db.tasks tasks) :
      TasksMove db op tasks
  | created {op : Op} {tasks : Table TaskRow} {t : TaskRow} (hstatus : t.status = .active)
      (hphase : t.acceptedPlanPhase = none) (hweb : isBlank t.createdByWebSessionId = false)
      (hagentscope : isBlank t.agentscopeSessionId = false)
      (hnew : ∀ r ∈ db.tasks, r.taskId ≠ t.taskId)
      {grown : Table TaskRow} (hgrown : ∀ r, r ∈ grown ↔ r ∈ db.tasks ∨ r = t)
      (h : Rowwise TaskRow.Bumped grown tasks)
      (hkey : t.segmentsKey = segmentsKey (storedArg t.segments))
      (hindex : ∀ r ∈ db.tasks, r.replayKey ≠ t.replayKey) : TasksMove db op tasks
  | deleted {call : Call} {taskId : String} {rev : ℕ} {tasks : Table TaskRow} {t : TaskRow}
      (ht : t ∈ db.tasks) (hid : t.taskId = taskId) (hrev : t.stateRevision = rev)
      {rest : Table TaskRow} (hrest : ∀ r, r ∈ rest ↔ r ∈ db.tasks ∧ r.taskId ≠ taskId)
      (h : Rowwise TaskRow.Bumped rest tasks) :
      TasksMove db (.deleteTaskIfCurrent call taskId rev) tasks

section TaskStore

open NavigationDb

variable {db db' : NavigationDb} {call : Call} {now : Timestamp}

theorem mem_dropWhile_of_not {l : List Char} {p : Char → Bool} {c : Char} (hc : c ∈ l)
    (hp : p c = false) : c ∈ l.dropWhile p := by
  rw [← List.takeWhile_append_dropWhile (p := p) (l := l), List.mem_append] at hc
  rcases hc with hc | hc
  · rw [List.mem_takeWhile_imp hc] at hp
    cases hp
  · exact hc

theorem isBlank_stripText {s : String} (h : isBlank s = false) : isBlank (stripText s) = false := by
  obtain ⟨c, hc, hp⟩ := List.all_eq_false.1 h
  have hp := Bool.not_eq_true _ |>.mp hp
  refine List.all_eq_false.2 ⟨c, ?_, by simp [hp]⟩
  unfold stripText List.rdropWhile
  rw [String.toList_ofList, List.mem_reverse]
  exact mem_dropWhile_of_not (List.mem_reverse.2 (mem_dropWhile_of_not hc hp)) hp

theorem onlyTriggers_deleteTask (taskId : String) :
    Rowwise TaskRow.Bumped (db.tasks.delete fun t => t.taskId = taskId)
      (db.deleteTask taskId).tasks := by
  change OnlyTriggers { db with tasks := db.tasks.delete fun t => t.taskId = taskId } _
  unfold NavigationDb.deleteTask
  exact (onlyTriggers_deletePlans _ _).trans <| (onlyTriggers_deleteOutbox _ _).trans <|
    (onlyTriggers_deleteHandoffs _ _).trans <| (onlyTriggers_deleteAttempts _ _).trans <|
    (onlyTriggers_deleteOutcomes _ _).trans (onlyTriggers_deleteLineage _ _)

end TaskStore

section Statements

open NavigationDb

variable {db db' d : NavigationDb} {call : Call} {op : Op}
  {planId stepId action reason : String}

theorem rowwise_updateTasks {Q R : TaskRow → TaskRow → Prop} {p : TaskRow → Prop}
    [DecidablePred p] {f : TaskRow → TaskRow} (hf : ∀ t, key (f t) = key t)
    (hpre : Rowwise Q db.tasks d.tasks) (hpost : (d.updateTasks p f hf).OnlyTriggers db')
    (hR : ∀ t ∈ db.tasks, ∀ t' n, Q t t' → p t' → R t ((f t').bump n))
    (hkeep : ∀ t t' n, Q t t' → R t (t'.bump n)) : Rowwise R db.tasks db'.tasks := by
  have hupdate : Rowwise (fun t t' => t' = if p t then f t else t) d.tasks
      (d.updateTasks p f hf).tasks := Rowwise.of_update hf fun t _ => rfl
  have hwritten : Rowwise (fun t t' => ∀ n, R t (t'.bump n)) db.tasks
      (d.updateTasks p f hf).tasks := by
    refine hpre.trans hupdate fun t ht t' t'' hQ h n => ?_
    subst h
    split_ifs with hp
    · exact hR t ht t' n hQ hp
    · exact hkeep t t' n hQ
  refine hwritten.trans hpost fun t _ t' t'' h hbumped => ?_
  obtain ⟨n, rfl⟩ := hbumped
  exact h n

theorem rowwise_setTaskStatus {p : TaskRow → Prop} [DecidablePred p] {s : TaskStatus}
    {now : Timestamp} (hpre : db.OnlyTriggers d)
    (hpost : (d.setTaskStatus p s now).OnlyTriggers db')
    (hp : ∀ t ∈ db.tasks, ∀ n, p (t.bump n) → StatusWrite db op t s) :
    TasksMove db op db'.tasks := by
  refine .changed (rowwise_updateTasks (by exact fun _ => rfl) hpre hpost ?_ ?_)
  · rintro t ht _ n ⟨m, rfl⟩ h
    refine .written (hp t ht m h) (by omega)
      (?_ : _ = TaskRow.bump { t with status := s, updatedAt := utcNow now } (m + 1 + n))
    simp [TaskRow.bump, Nat.add_assoc]
  · rintro t _ n ⟨m, rfl⟩
    exact .triggered ⟨m + n, t.bump_bump m n⟩

theorem tasksMove_of_triggers (h : db.OnlyTriggers db') : TasksMove db op db'.tasks :=
  .changed (h.mono fun _ _ _ ht => .triggered ht)

end Statements

end DataJuicer.Navigation

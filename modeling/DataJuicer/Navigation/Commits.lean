import DataJuicer.Navigation.TaskMoves

/-! # What each operation commits

Each operation is inverted once: from its successful answer the change of the ledger and of
the tasks it committed, with the checks that came before it.
-/

namespace DataJuicer.Navigation

open NavigationDb Table Transaction

/-- A committed request and the database it leaves. -/
structure Commits (db : NavigationDb) (op : Op) (db' : NavigationDb) : Prop where
  ledger : LedgerMove db op db'.ledger
  tasks : TasksMove db op db'.tasks

theorem Commits.same {db : NavigationDb} {op : Op} : Commits db op db :=
  ⟨.same op, tasksMove_of_triggers (.refl db)⟩

theorem Commits.of_triggers {db db' : NavigationDb} {op : Op} (h : LedgerMove db op db'.ledger)
    (ht : db.OnlyTriggers db') : Commits db op db' :=
  ⟨h, tasksMove_of_triggers ht⟩

variable {db db' : NavigationDb} {call : Call} {planId stepId action reason : String}

theorem at_iff_is {status : StepStatus} {s : StepRow} (hs : s ∈ db.steps)
    (hid : s.Is planId stepId) (haction : s.toolName.name = action) (hstatus : s.status = status) :
    ∀ r ∈ db.steps, r.At planId stepId action status ↔ r.Is planId stepId := by
  intro r hr
  refine ⟨fun h => ⟨h.1, h.2.1⟩, fun h => ?_⟩
  have hk : key r = key s := Prod.ext (h.1.trans hid.1.symm) (h.2.trans hid.2.symm)
  obtain rfl := Table.eq_of_key hr hs hk
  exact ⟨h.1, h.2, haction, hstatus⟩

theorem ledger_updateSteps {q : StepRow → Prop} [DecidablePred q] (status : StepStatus)
    (start : Option Timestamp → Option Timestamp)
    (hq : ∀ r ∈ db.steps, q r ↔ r.Is planId stepId) :
    (db.updateSteps q fun r => { r with status := status, startedAt := start r.startedAt }).ledger =
      db.ledger.moveStep planId stepId status start :=
  congrArg (fun t => (⟨db.plans, t, db.outbox, db.handoffs⟩ : Ledger)) (Table.update_congr hq)

theorem ledger_updateSteps_of_none {q : StepRow → Prop} [DecidablePred q] {f : StepRow → StepRow}
    {hf : ∀ r, key (f r) = key r} (h : ∀ r ∈ db.steps, ¬ q r) :
    (db.updateSteps q f hf).ledger = db.ledger := by
  have ht : db.steps.update q f hf = db.steps := Table.update_eq_self h
  exact congrArg (fun t => (⟨db.plans, t, db.outbox, db.handoffs⟩ : Ledger)) ht

theorem pending_of_rowcount
    (h : db.steps.rowcount (fun r => r.At planId stepId action .pending ∧
      ActivePlanOwned db r.planId call) = 1) :
    ∃ s ∈ db.steps, s.At planId stepId action .pending ∧ ActivePlanOwned db planId call := by
  obtain ⟨s, hs, hat, hown⟩ := (Table.rowcount_eq_one_iff (k := (planId, stepId))
    fun s _ hs => Prod.ext hs.1.1 hs.1.2.1).1 h
  exact ⟨s, hs, hat, hat.1 ▸ hown⟩

theorem owned_iff_is {s : StepRow} (hs : s ∈ db.steps) (hat : s.At planId stepId action .pending)
    (hown : ActivePlanOwned db planId call) :
    ∀ r ∈ db.steps, (r.At planId stepId action .pending ∧ ActivePlanOwned db r.planId call) ↔
      r.Is planId stepId := by
  intro r hr
  rw [at_iff_is hs ⟨hat.1, hat.2.1⟩ hat.2.2.1 hat.2.2.2 r hr, and_iff_left_iff_imp]
  rintro ⟨hr, _⟩
  exact hr.symm ▸ hown

theorem claimCandidate?_joins {v : StepView}
    (h : claimCandidate? db planId stepId action = some v) :
    v.Joins db planId stepId ∧ v.step.toolName.name = action ∧
      v.plan.plan.Names stepId action := by
  obtain ⟨hv, hp⟩ := Option.filter_eq_some_iff.1 h
  exact ⟨stepView?_eq_some_iff.1 hv, of_decide_eq_true hp⟩

theorem activeStepView?_joins {v : StepView}
    (h : activeStepView? db planId stepId action = some v) :
    v.Joins db planId stepId ∧ v.step.toolName.name = action ∧ v.plan.status = .active := by
  obtain ⟨hv, hp⟩ := Option.filter_eq_some_iff.1 h
  exact ⟨stepView?_eq_some_iff.1 hv, of_decide_eq_true hp⟩

theorem confirmationView?_joins {v : StepView}
    (h : confirmationView? db planId stepId = some v) : v.Joins db planId stepId ∧
      v.step.toolName = .confirmNavigationCalibrationParams ∧ v.plan.status = .active := by
  obtain ⟨hv, hp⟩ := Option.filter_eq_some_iff.1 h
  exact ⟨stepView?_eq_some_iff.1 hv, of_decide_eq_true hp⟩

theorem claimStep_commits {r : StepClaimOutcome}
    (h : claimStep call planId stepId action db = .ok (r, db')) :
    Commits db (.claimStep call planId stepId action) db' := by
  unfold claimStep at h
  dsimp only at h
  split at h
  · cases h; exact .same
  · cases h
  · rename_i hauth
    split at h
    · cases h; exact .same
    · rename_i v hv
      obtain ⟨hv, haction, hnames⟩ := claimCandidate?_joins hv
      split_ifs at h with hpending hbusy hcount
      · cases h; exact .same
      · cases h; exact .same
      · simp only [not_or, not_not] at hpending
        cases h
        obtain ⟨s, hs, hat, hown⟩ := pending_of_rowcount hcount
        refine .of_triggers ?_ (onlyTriggers_updateSteps _ _ _ _)
        rw [ledger_updateSteps .running (fun _ => some (utcNow call.now))
          (owned_iff_is hs hat hown)]
        exact .claimed ⟨hauth, hv, haction, hnames, hpending.1, hpending.2, hbusy⟩
      · cases h; exact .same

theorem markWaitingUser_commits {r : Bool}
    (h : markWaitingUser call planId stepId action db = .ok (r, db')) :
    Commits db (.markWaitingUser call planId stepId action) db' := by
  obtain ⟨_, hauth, h⟩ := bind_eq_ok.1 h
  cases h
  refine .of_triggers ?_ (onlyTriggers_updateSteps _ _ _ _)
  by_cases hex : ∃ s ∈ db.steps, s.At planId stepId action .pending ∧
      ActivePlanOwned db s.planId call
  · obtain ⟨s, hs, hat, hown⟩ := hex
    rw [hat.1] at hown
    rw [ledger_updateSteps .waitingUser (·.or (some (utcNow call.now))) (owned_iff_is hs hat hown)]
    exact .waited ⟨hauth, hs, hat, hown⟩
  · have hnone : ∀ s ∈ db.steps, ¬ (s.At planId stepId action .pending ∧
        ActivePlanOwned db s.planId call) := fun s hs h => hex ⟨s, hs, h⟩
    rw [ledger_updateSteps_of_none hnone]
    exact .same _

theorem resumeWaitingWorkflowStep_commits {r : Bool}
    (h : resumeWaitingWorkflowStep call planId stepId action db = .ok (r, db')) :
    Commits db (.resumeWaitingWorkflowStep call planId stepId action) db' := by
  obtain ⟨_, hauth, h⟩ := bind_eq_ok.1 h
  split at h
  · cases h; exact .same
  · rename_i v hv
    obtain ⟨hv, haction, hactive⟩ := activeStepView?_joins hv
    dsimp only at h
    split_ifs at h with hdone hwait hcount
    · cases h; exact .same
    · cases h; exact .same
    · cases h; exact .same
    · cases h
      simp only [not_or, not_and_or, not_not] at hwait
      refine ⟨?_, rowwise_setTaskStatus (onlyTriggers_updateSteps _ _ _ _) (.refl _)
        fun t _ _ ht => .resumed ht.2⟩
      rw [NavigationDb.ledger_setTaskStatus, ledger_updateSteps .running
        (·.or (some (utcNow call.now)))
        (at_iff_is hv.step_mem ⟨hv.step_planId, hv.step_stepId⟩ haction hwait.1)]
      exact .resumed ⟨hauth, hv, haction, hactive, hwait.1, hwait.2⟩

theorem markWorkflowStepWaitingUser_commits {r : Bool}
    (h : markWorkflowStepWaitingUser call planId stepId action db = .ok (r, db')) :
    Commits db (.markWorkflowStepWaitingUser call planId stepId action) db' := by
  obtain ⟨_, hauth, h⟩ := bind_eq_ok.1 h
  split at h
  · cases h; exact .same
  · rename_i v hv
    obtain ⟨hv, haction, hactive⟩ := activeStepView?_joins hv
    dsimp only at h
    split_ifs at h with hdone hwait hcount htasks
    · cases h; exact .same
    · cases h; exact .same
    · cases h; exact .same
    · cases h; exact .same
    · cases h
      simp only [not_or, not_and_or, not_not] at hwait
      refine ⟨?_, rowwise_setTaskStatus (onlyTriggers_updateSteps _ _ _ _) (.refl _)
        fun t _ _ ht => .workflowWaited ht.2⟩
      rw [NavigationDb.ledger_setTaskStatus, ledger_updateSteps .waitingUser
        (·.or (some (utcNow call.now)))
        (at_iff_is hv.step_mem ⟨hv.step_planId, hv.step_stepId⟩ haction rfl)]
      exact .workflowWaited ⟨hauth, hv, haction, hactive, hwait.1, hwait.2⟩

theorem stageStepResult_commits {result : StepResult} {r : OutboxRow}
    (h : stageStepResult call planId stepId action result db = .ok (r, db')) :
    Commits db (.stageStepResult call planId stepId action result) db' := by
  obtain ⟨_, _, h⟩ := bind_eq_ok.1 h
  obtain ⟨_, hallowed, h⟩ := bind_eq_ok.1 h
  obtain ⟨_, _, h⟩ := bind_eq_ok.1 h
  obtain ⟨v, hv, h⟩ := bind_eq_ok.1 h
  obtain ⟨_, hv, haction, hactive, _⟩ := authorizeClaimTerminalization_eq_ok.1 hv
  split at h
  · obtain ⟨_, _, h⟩ := bind_eq_ok.1 h
    cases h
    exact .same
  · obtain ⟨_, hstatus, h⟩ := bind_eq_ok.1 h
    obtain ⟨ref, _, h⟩ := bind_eq_ok.1 h
    obtain ⟨d, hd, h⟩ := bind_eq_ok.1 h
    cases h
    obtain ⟨outbox, houtbox, rfl⟩ := Option.map_eq_some_iff.1 (constrained_eq_ok.1 hd)
    exact .of_triggers (.staged hv haction hactive (not_not.1 (raiseIf_eq_ok.1 hallowed))
      (not_not.1 (raiseIf_eq_ok.1 hstatus)) houtbox) (onlyTriggers_touch rfl _)

theorem attachStagedResultEvidence_commits {resultRef : String} {r : Bool}
    (h : attachStagedResultEvidence call planId stepId resultRef action db = .ok (r, db')) :
    Commits db (.attachStagedResultEvidence call planId stepId resultRef action)
      db' := by
  obtain ⟨_, _, h⟩ := bind_eq_ok.1 h
  split at h
  · cases h; exact .same
  · obtain ⟨_, _, h⟩ := bind_eq_ok.1 h
    cases h
    exact .of_triggers .attached (onlyTriggers_touch rfl _)

@[simp] theorem ledger_recordTaskOutcome (db : NavigationDb) (taskId : String)
    (outcome : CompletionOutcome) (now : Timestamp) :
    (db.recordTaskOutcome taskId outcome now).ledger = db.ledger := by
  unfold NavigationDb.recordTaskOutcome NavigationDb.insertOutcome?
  split
  · rfl
  · cases db.outcomes.insert? _ <;> rfl

theorem ledger_completePlan (db : NavigationDb) (p : PlanRow) (now : Timestamp) :
    (db.completePlan p now).ledger = db.ledger.complete p.planId now := by
  unfold NavigationDb.completePlan
  dsimp only
  rw [NavigationDb.ledger_updateTasks]
  cases planOutcome? db p.planId p.phase with
  | none => rfl
  | some o => exact ledger_recordTaskOutcome _ _ _ _

theorem ledger_deleteOutbox_step (db : NavigationDb) (planId stepId : String) :
    (db.deleteOutbox fun r => r.planId = planId ∧ r.stepId = stepId).ledger =
      db.ledger.removeOutbox planId stepId := rfl

/-- A staged result that is finalized meets just the step it was staged for. -/
theorem finishes_iff {v : StepView} {staged : OutboxRow} (hv : v.Joins db planId stepId)
    (hid : staged.planId = planId ∧ staged.stepId = stepId)
    (hcount : db.steps.rowcount (Finishes db staged) = 1) :
    v.step.status ∈ staged.expectedStatuses ∧
      ∀ r ∈ db.steps, Finishes db staged r ↔ r.Is staged.planId staged.stepId := by
  obtain ⟨s, hs, hfin⟩ := (Table.rowcount_eq_one_iff (k := (planId, stepId))
    fun s _ hs => Prod.ext (hs.1.trans hid.1) (hs.2.1.trans hid.2)).1 hcount
  obtain rfl : s = v.step := Table.eq_of_key hs hv.step_mem (Prod.ext
    ((hfin.1.trans hid.1).trans hv.step_planId.symm)
    ((hfin.2.1.trans hid.2).trans hv.step_stepId.symm))
  refine ⟨hfin.2.2.1, fun r hr => ⟨fun h => ⟨h.1, h.2.1⟩, fun h => ?_⟩⟩
  obtain rfl := Table.eq_of_key hr hs (Prod.ext (h.1.trans hfin.1.symm)
    (h.2.trans hfin.2.1.symm))
  exact hfin

theorem finishStep_ledger {v : StepView} {staged : OutboxRow}
    (hfor : Finalizable db call planId stepId action v staged)
    (hcount : db.steps.rowcount (Finishes db staged) = 1) :
    LedgerMove db (.finalizeStagedStep call planId stepId action)
      (db.finishStep v.plan staged call.now).ledger := by
  have hid := hfor.staged_id
  have hcongr := (finishes_iff hfor.joins hid hcount).2
  have hkey : ∀ s, key (finishedStep staged call.now s) = key s := fun _ => rfl
  have hsteps : db.steps.update (Finishes db staged) (finishedStep staged call.now) hkey =
      db.steps.update (StepRow.Is staged.planId staged.stepId)
        (finishedStep staged call.now) hkey := Table.update_congr hcongr
  have hfinish :
      (db.updateSteps (Finishes db staged) (finishedStep staged call.now) hkey).ledger =
        db.ledger.finish staged call.now :=
    congrArg (fun t => (⟨db.plans, t, db.outbox, db.handoffs⟩ : Ledger)) hsteps
  have hplan : v.plan.planId = planId := hfor.joins.plan_planId
  have hmove : ∀ l : Ledger, _ → LedgerMove db (.finalizeStagedStep call planId stepId action)
      (l.removeOutbox planId stepId) :=
    .finished hfor
  unfold NavigationDb.finishStep
  dsimp only
  rw [ledger_deleteOutbox_step, hid.1, hid.2]
  refine hmove _ ?_
  split
  · rename_i htarget
    split_ifs with hun
    · refine .inl ⟨hfinish, .inr ?_⟩
      rw [← hplan]
      exact hun
    · rw [ledger_completePlan, hfinish, hplan]
      refine .inr ⟨rfl, htarget, fun r hr hrp => ?_⟩
      by_contra hne
      refine hun ⟨r, ?_, hrp.trans hplan.symm, hne⟩
      change r ∈ db.steps.update (Finishes db staged) (finishedStep staged call.now) hkey
      rw [hsteps]
      exact hr
  · rename_i htarget
    exact .inl ⟨hfinish, .inl htarget⟩

theorem onlyTriggers_recordTaskOutcome (db : NavigationDb) (taskId : String)
    (outcome : CompletionOutcome) (now : Timestamp) :
    db.OnlyTriggers (db.recordTaskOutcome taskId outcome now) := by
  unfold NavigationDb.recordTaskOutcome
  split
  · exact onlyTriggers_touch rfl _
  · cases h : db.insertOutcome? _ with
    | none => exact .refl _
    | some d => exact onlyTriggers_insertOutcome? h

theorem rowwise_updatePlans {p : PlanRow} {q : PlanRow → Prop} [DecidablePred q]
    {f : PlanRow → PlanRow} (hf : ∀ r, key (f r) = key r) (hp : p ∈ db.plans) (hq : q p) :
    Rowwise (TaskRow.BumpedFor p.taskId) db.tasks (db.updatePlans q f hf).tasks := by
  have hkey : ∀ t : TaskRow,
      key (t.bump (((db.plans.select q).map (·.taskId)).count t.taskId)) = key t := fun _ => rfl
  have hbump : Rowwise (TaskRow.BumpedFor p.taskId) db.tasks
      (db.tasks.update (fun _ => True)
        (fun t => t.bump (((db.plans.select q).map (·.taskId)).count t.taskId)) hkey) := by
    refine Rowwise.of_update hkey fun t _ => ⟨_, if_pos trivial, fun ht => ?_⟩
    rw [ht]
    exact List.count_pos_iff.2 (List.mem_map_of_mem (Table.mem_select.2 ⟨hp, hq⟩))
  exact hbump

/-- The rows are of one plan, action and sequence number. -/
def StepRow.SamePlace (r s : StepRow) : Prop :=
  s.planId = r.planId ∧ s.toolName = r.toolName ∧ s.sequence = r.sequence

theorem endsWith_iff_of_rowwise {d : NavigationDb}
    (h : Rowwise StepRow.SamePlace db.steps d.steps) (tool : StepAction) :
    d.EndsWith planId tool ↔ db.EndsWith planId tool := by
  constructor
  · rintro ⟨s, hs, hid, htool, hlast⟩
    obtain ⟨r, hr, hid', htool', hseq⟩ := h.exists_pre s hs
    refine ⟨r, hr, hid' ▸ hid, htool' ▸ htool, fun q hq hqid => ?_⟩
    obtain ⟨q', hq', hqid', _, hqseq⟩ := h.exists_post q hq
    rw [← hseq, ← hqseq]
    exact hlast q' hq' (hqid'.trans hqid)
  · rintro ⟨r, hr, hid, htool, hlast⟩
    obtain ⟨s, hs, hid', htool', hseq⟩ := h.exists_post r hr
    refine ⟨s, hs, hid'.trans hid, htool'.trans htool, fun q' hq' hqid' => ?_⟩
    obtain ⟨q, hq, hqid, _, hqseq⟩ := h.exists_pre q' hq'
    rw [hseq, hqseq]
    exact hlast q hq (hqid.symm.trans hqid')

theorem lastStepCompleted_iff {tool : StepAction} (h : ¬ Unfinished db planId) :
    LastStepCompleted db planId tool ↔ db.EndsWith planId tool := by
  constructor
  · rintro ⟨s, hs, hid, htool, _, hlast⟩
    exact ⟨s, hs, hid, htool, hlast⟩
  · rintro ⟨s, hs, hid, htool, hlast⟩
    refine ⟨s, hs, hid, htool, ?_, hlast⟩
    by_contra hne
    exact h ⟨s, hs, hid, hne⟩

theorem planOutcome?_isSome {p : PlanRow} (h : ¬ Unfinished db p.planId) :
    (planOutcome? db p.planId p.phase).isSome ↔ db.EndsValidated p := by
  unfold planOutcome? NavigationDb.EndsValidated
  cases p.phase with
  | extractSync => simp
  | finishProcessing =>
    rw [← lastStepCompleted_iff h]
    split_ifs <;> simp_all
  | trajectoryReview =>
    rw [← lastStepCompleted_iff h, ← lastStepCompleted_iff h]
    split_ifs <;> simp_all

theorem completePlan_tasks {op : Op} {d : NavigationDb} {p : PlanRow} {now : Timestamp}
    (hpre : db.OnlyTriggers d) (hp : p ∈ d.plans) (hactive : p.status = .active)
    (hpost : (d.completePlan p now).OnlyTriggers db')
    (hs : ∀ t, t.taskId = p.taskId → StatusWrite db op t
      (if (planOutcome? d p.planId p.phase).isSome then TaskStatus.completed else .active)) :
    TasksMove db op db'.tasks := by
  have hrecord : ∀ (e : NavigationDb) (o : Option CompletionOutcome),
      e.OnlyTriggers (o.elim e fun o => e.recordTaskOutcome p.taskId o now) := by
    intro e o
    cases o with
    | none => exact .refl e
    | some o => exact onlyTriggers_recordTaskOutcome e _ o now
  have hplans : Rowwise (TaskRow.BumpedFor p.taskId) d.tasks
      (d.updatePlans (fun r => r.planId = p.planId ∧ r.status = .active)
        (fun r => { r with status := .completed, updatedAt := now }) fun _ => rfl).tasks :=
    rowwise_updatePlans (fun _ => rfl) hp ⟨rfl, hactive⟩
  have hbumped : Rowwise (TaskRow.BumpedFor p.taskId) db.tasks _ :=
    Rowwise.trans hpre hplans fun _ _ _ _ => TaskRow.Bumped.bumpedFor
  have hbumped : Rowwise (TaskRow.BumpedFor p.taskId) db.tasks _ :=
    Rowwise.trans hbumped (hrecord _ (planOutcome? d p.planId p.phase))
      fun _ _ _ _ => TaskRow.BumpedFor.bumped
  refine .changed (rowwise_updateTasks (by exact fun _ => rfl) hbumped hpost ?_ ?_)
  · rintro t ht _ n ⟨m, rfl, hm⟩ hit
    refine .written (hs t hit) (Nat.add_pos_left (hm hit) n)
      (?_ : _ = TaskRow.bump { t with status := _, updatedAt := utcNow now } (m + n))
    simp [TaskRow.bump, Nat.add_assoc]
  · rintro t _ n ⟨m, rfl, _⟩
    exact .triggered ⟨m + n, t.bump_bump m n⟩

theorem finishStep_tasks {v : StepView} {staged : OutboxRow}
    (hfor : Finalizable db call planId stepId action v staged) :
    TasksMove db (.finalizeStagedStep call planId stepId action)
      (db.finishStep v.plan staged call.now).tasks := by
  have hkey : ∀ s, key (finishedStep staged call.now s) = key s := fun _ => rfl
  have hpre := onlyTriggers_updateSteps db (Finishes db staged) (finishedStep staged call.now) hkey
  have hplan : v.plan.planId = planId := hfor.joins.plan_planId
  unfold NavigationDb.finishStep
  dsimp only
  split
  · rename_i htarget
    split_ifs with hun
    · exact tasksMove_of_triggers (hpre.trans (onlyTriggers_deleteOutbox _ _))
    · have hlast : ∀ s ∈ db.steps, s.planId = planId → s.stepId ≠ stepId →
          s.status = .completed := by
        intro s hs hid hne
        have hkept :
            s ∈ db.steps.update (Finishes db staged) (finishedStep staged call.now) hkey :=
          Table.mem_update_of_not hs fun hfin => hne (hfin.2.1.trans hfor.staged_id.2)
        by_contra hst
        exact hun ⟨s, hkept, hid.trans hplan.symm, hst⟩
      have hplace : Rowwise StepRow.SamePlace db.steps
          (db.updateSteps (Finishes db staged) (finishedStep staged call.now) hkey).steps := by
        refine Rowwise.of_update (p := Finishes db staged) hkey fun r _ => ?_
        split_ifs <;> exact ⟨rfl, rfl, rfl⟩
      have hends : NavigationDb.EndsValidated _ v.plan ↔ db.EndsValidated v.plan :=
        or_congr (and_congr_right fun _ => endsWith_iff_of_rowwise hplace _)
          (and_congr_right fun _ => endsWith_iff_of_rowwise hplace _)
      refine completePlan_tasks hpre hfor.joins.plan_mem hfor.active (onlyTriggers_deleteOutbox _ _)
        fun t ht => ?_
      have houtcome := (planOutcome?_isSome hun).trans hends
      split_ifs with ho
      · exact .completed hfor htarget hlast ht (houtcome.1 ho)
      · exact .continued hfor htarget hlast ht fun h => ho (houtcome.2 h)
  · rename_i htarget
    exact rowwise_setTaskStatus hpre (onlyTriggers_deleteOutbox _ _)
      fun t _ _ ht => .failed hfor htarget ht

theorem finalizeStagedStep_commits {r : Bool}
    (h : finalizeStagedStep call planId stepId action db = .ok (r, db')) :
    Commits db (.finalizeStagedStep call planId stepId action) db' := by
  obtain ⟨v, hv, h⟩ := bind_eq_ok.1 h
  split at h
  · cases h; exact .same
  · rename_i staged hstaged
    obtain ⟨hstaged, hk⟩ := Table.find?_eq_some_iff.1 hstaged
    have hid := Prod.mk.inj hk
    split_ifs at h with hcount
    · cases h; exact .same
    · cases h
      have hcount := not_not.1 hcount
      have hfor : Finalizable db call planId stepId action v staged :=
        ⟨hv, hstaged, hid, (finishes_iff (joins_of_authorized hv).1 hid hcount).1⟩
      exact ⟨finishStep_ledger hfor hcount, finishStep_tasks hfor⟩

theorem abandonPlan_tasks {op : Op} (planId taskId reason : String) (now : Timestamp)
    (h : ∀ t, t.taskId = taskId → StatusWrite db op t .needsReplan) :
    TasksMove db op (db.abandonPlan planId taskId reason now).tasks :=
  rowwise_setTaskStatus ((onlyTriggers_updatePlans _ _ _ _).trans
    (onlyTriggers_updateSteps _ _ _ _))
    (.refl _) fun t _ _ ht => h t ht

theorem recoverRunningStepWithoutResult_commits {r : Bool}
    (h : recoverRunningStepWithoutResult call planId stepId reason action db = .ok (r, db')) :
    Commits db (.recoverRunningStepWithoutResult call planId stepId reason action)
      db' := by
  obtain ⟨v, hv, h⟩ := bind_eq_ok.1 h
  split_ifs at h with hguard
  · cases h; exact .same
  · simp only [not_or, not_not] at hguard
    split at h
    · cases h
    · rename_i hnone
      cases h
      have hrec : Recoverable db call planId stepId action v :=
        ⟨hv, hguard.1, fun o ho hid => hguard.2 ⟨o, ho, hid⟩, hnone⟩
      exact ⟨.recovered hrec, abandonPlan_tasks _ _ _ _ fun t => .recovered hrec⟩

theorem markNeedsReplan_commits {r : Bool}
    (h : markNeedsReplan call planId reason db = .ok (r, db')) :
    Commits db (.markNeedsReplan call planId reason) db' := by
  obtain ⟨_, hauth, h⟩ := bind_eq_ok.1 h
  split at h
  · cases h; exact .same
  · rename_i p hp
    obtain ⟨hp, hpid⟩ := Table.find?_eq_some_iff.1 hp
    split_ifs at h with hactive
    · cases h; exact .same
    · obtain ⟨_, hidle, h⟩ := bind_eq_ok.1 h
      cases h
      have hrep : Replannable db call planId p :=
        ⟨hauth, hp, hpid, not_not.1 hactive, raiseIf_eq_ok.1 hidle⟩
      exact ⟨.replanned hrep, abandonPlan_tasks _ _ _ _ fun t => .replanned hrep⟩

theorem markTerminalizedClaimNeedsReplan_commits {r : Bool}
    (h : markTerminalizedClaimNeedsReplan call planId stepId reason action db = .ok (r, db')) :
    Commits db (.markTerminalizedClaimNeedsReplan call planId stepId reason action)
      db' := by
  obtain ⟨v, hv, h⟩ := bind_eq_ok.1 h
  split_ifs at h with hguard
  · cases h; exact .same
  · simp only [not_or, not_and_or, not_not] at hguard
    obtain ⟨_, hidle, h⟩ := bind_eq_ok.1 h
    cases h
    have hterm : Terminalizable db call planId stepId action v :=
      ⟨hv, hguard.1, hguard.2.1, raiseIf_eq_ok.1 hidle⟩
    exact ⟨.terminalized hterm, abandonPlan_tasks _ _ _ _ fun t => .terminalized hterm⟩

theorem invalidate_commits {r : PlanRow} (h : invalidate call planId reason db = .ok (r, db')) :
    Commits db (.invalidate call planId reason) db' := by
  unfold invalidate at h
  split at h
  · cases h
  · obtain ⟨_, hauth, h⟩ := bind_eq_ok.1 h
    obtain ⟨_, hidle, h⟩ := bind_eq_ok.1 h
    cases h
    have hplans : db.plans.update (fun p => p.planId = planId) (fun r : PlanRow =>
        { r with
          status := .invalidated, invalidationReason := some reason
          updatedAt := utcNow call.now }) (fun _ => rfl) =
        db.plans.update (fun p => p.planId = planId ∧ True) (fun r : PlanRow =>
        { r with
          status := .invalidated, invalidationReason := some reason
          updatedAt := utcNow call.now }) fun _ => rfl :=
      Table.update_congr fun r _ => (and_true _).symm.to_iff
    have hmove : LedgerMove db (.invalidate call planId reason) _ :=
      .invalidated ⟨hauth, raiseIf_eq_ok.1 hidle⟩
    unfold Ledger.invalidatePlan Ledger.markPlan at hmove
    rw [NavigationDb.ledger_plans, ← hplans] at hmove
    exact .of_triggers hmove (onlyTriggers_updatePlans _ _ _ _)

theorem insertLedgerRow?_eq_some {r : StepRow} (h : db.insertLedgerRow? r = some db') :
    db'.plans = db.plans ∧ db'.outbox = db.outbox ∧ db'.handoffs = db.handoffs ∧
      db.steps.insert? r = some db'.steps := by
  unfold NavigationDb.insertLedgerRow? at h
  split_ifs at h
  obtain ⟨steps, hsteps, rfl⟩ := Option.map_eq_some_iff.1 h
  exact ⟨rfl, rfl, rfl, hsteps⟩

theorem insertLedgerRows_tables {record : PlanRow} {rows : List PlanStep} {n : ℕ}
    (h : insertLedgerRows record rows n db = some db') :
    db'.plans = db.plans ∧ db'.outbox = db.outbox ∧ db'.handoffs = db.handoffs := by
  induction rows generalizing n db with
  | nil => cases h; exact ⟨rfl, rfl, rfl⟩
  | cons row rows ih =>
    obtain ⟨d, hd, h⟩ := Option.bind_eq_some_iff.1 h
    obtain ⟨h₁, h₂, h₃, _⟩ := insertLedgerRow?_eq_some hd
    obtain ⟨h₄, h₅, h₆⟩ := ih h
    exact ⟨h₄.trans h₁, h₅.trans h₂, h₆.trans h₃⟩

theorem mem_insertLedgerRows {record : PlanRow} {rows : List PlanStep} {n : ℕ}
    (h : insertLedgerRows record rows n db = some db') (s : StepRow) :
    s ∈ db'.steps ↔ s ∈ db.steps ∨
      ∃ i row, rows[i]? = some row ∧ s = ledgerRow record row (n + i) := by
  induction rows generalizing n db with
  | nil => cases h; simp
  | cons row rows ih =>
    obtain ⟨d, hd, h⟩ := Option.bind_eq_some_iff.1 h
    obtain ⟨_, _, _, hins⟩ := insertLedgerRow?_eq_some hd
    rw [ih h, Table.mem_insert? hins, or_assoc]
    refine or_congr_right ⟨?_, ?_⟩
    · rintro (rfl | ⟨i, r, hr, rfl⟩)
      · exact ⟨0, row, rfl, rfl⟩
      · exact ⟨i + 1, r, hr, by rw [Nat.add_right_comm, Nat.add_assoc]⟩
    · rintro ⟨i, r, hr, rfl⟩
      cases i with
      | zero => cases hr; exact .inl rfl
      | succ i => exact .inr ⟨i, r, hr, by rw [Nat.add_right_comm, Nat.add_assoc]⟩

theorem insertLedgerRows_fresh {record : PlanRow} {rows : List PlanStep} {n : ℕ}
    (h : insertLedgerRows record rows n db = some db') :
    ∀ s ∈ db.steps, ∀ r ∈ rows, key s ≠ (record.planId, r.stepId) := by
  induction rows generalizing n db with
  | nil => simp
  | cons row rows ih =>
    obtain ⟨d, hd, h⟩ := Option.bind_eq_some_iff.1 h
    obtain ⟨_, _, _, hins⟩ := insertLedgerRow?_eq_some hd
    intro s hs r hr
    rcases List.mem_cons.1 hr with rfl | hr
    · exact Table.insert?_fresh hins s hs
    · exact ih h s ((Table.mem_insert? hins).2 (.inl hs)) r hr

theorem insertLedgerRows_onlyTriggers {record : PlanRow} {rows : List PlanStep} {n : ℕ}
    (h : insertLedgerRows record rows n db = some db') : db.OnlyTriggers db' := by
  induction rows generalizing n db with
  | nil => cases h; exact .refl _
  | cons row rows ih =>
    obtain ⟨d, hd, h⟩ := Option.bind_eq_some_iff.1 h
    unfold NavigationDb.insertLedgerRow? at hd
    split_ifs at hd
    exact (onlyTriggers_insertStep? hd).trans (ih h)

theorem activatedTask_tasks {a : Activation} {d : NavigationDb} (h : db.OnlyTriggers d) :
    TasksMove db (.activate call a) (d.updateTasks (fun t => t.taskId = a.taskId) fun t =>
      { t with
        acceptedPlanPhase := some a.phase, updatedAt := utcNow call.now
        stateRevision := t.stateRevision + 1 }).tasks := by
  refine .changed (rowwise_updateTasks (by exact fun _ => rfl) h (.refl _) ?_ ?_)
  · rintro t ht _ n ⟨m, rfl⟩ hit
    refine .activated hit (n := m + 1 + n) (by omega) ?_
    simp [TaskRow.bump, Nat.add_assoc]
  · rintro t _ n ⟨m, rfl⟩
    exact .triggered ⟨m + n, t.bump_bump m n⟩

theorem activate_commits {a : Activation} {r : PlanRow} (h : activate call a db = .ok (r, db')) :
    Commits db (.activate call a) db' := by
  obtain ⟨_, hphase, h⟩ := bind_eq_ok.1 h
  split at h
  · cases h
  · rename_i t ht
    obtain ⟨ht, hid⟩ := Table.find?_eq_some_iff.1 ht
    obtain ⟨_, _, h⟩ := bind_eq_ok.1 h
    obtain ⟨_, _, h⟩ := bind_eq_ok.1 h
    obtain ⟨_, hidle, h⟩ := bind_eq_ok.1 h
    obtain ⟨d, hd, h⟩ := bind_eq_ok.1 h
    obtain ⟨d', hd', h⟩ := bind_eq_ok.1 h
    cases h
    have hd := constrained_eq_ok.1 hd
    have hd' := constrained_eq_ok.1 hd'
    unfold NavigationDb.insertActivePlan? at hd
    split_ifs at hd
    have htriggers : db.OnlyTriggers d' := (onlyTriggers_updatePlans _ _ _ _).trans <|
      (onlyTriggers_insertPlan? hd).trans (insertLedgerRows_onlyTriggers hd')
    obtain ⟨plans, hplans, rfl⟩ := Option.map_eq_some_iff.1 hd
    obtain ⟨h₁, h₂, h₃⟩ := insertLedgerRows_tables hd'
    have hsteps := mem_insertLedgerRows hd'
    simp only [Nat.zero_add] at hsteps
    have hnew := insertLedgerRows_fresh hd'
    have hledger : d'.ledger = { db.ledger with plans := plans, steps := d'.steps } := by
      unfold NavigationDb.ledger
      rw [h₁, h₂, h₃]
      rfl
    refine ⟨?_, activatedTask_tasks htriggers⟩
    rw [NavigationDb.ledger_updateTasks, hledger]
    exact .activated ht hid (not_not.1 (raiseIf_eq_ok.1 hphase)) (raiseIf_eq_ok.1 hidle) rfl hplans
      hsteps hnew

theorem deleteTaskIfCurrent_commits {taskId : String} {rev : ℕ} {r : Bool}
    (h : deleteTaskIfCurrent call taskId rev db = .ok (r, db')) :
    Commits db (.deleteTaskIfCurrent call taskId rev) db' := by
  unfold deleteTaskIfCurrent at h
  split at h
  · split_ifs at h
    cases h
    exact .same
  · split_ifs at h with hcurrent
    · obtain ⟨_, hno, h⟩ := bind_eq_ok.1 h
      cases h
      obtain ⟨t, ht, hid, hrev, _⟩ := hcurrent
      exact ⟨.deleted fun s hs hid => raiseIf_eq_ok.1 hno ⟨s, hs, hid⟩,
        .deleted ht hid hrev (fun r => Table.mem_delete) (onlyTriggers_deleteTask taskId)⟩
    · cases h
      exact .same

theorem stageHumanDecisionHandoff_commits {d : HumanDecision} {r : HandoffStage}
    (h : stageHumanDecisionHandoff call planId stepId d db = .ok (r, db')) :
    Commits db (.stageHumanDecisionHandoff call planId stepId d) db' := by
  obtain ⟨_, _, h⟩ := bind_eq_ok.1 h
  obtain ⟨_, _, h⟩ := bind_eq_ok.1 h
  obtain ⟨_, _, h⟩ := bind_eq_ok.1 h
  obtain ⟨_, _, h⟩ := bind_eq_ok.1 h
  split at h
  · cases h; exact .same
  · split at h
    · cases h; exact .same
    · rename_i v hv
      obtain ⟨hv, haction, hactive⟩ := confirmationView?_joins hv
      split_ifs at h with hstatus
      · cases h; exact .same
      · simp only [not_and_or, not_not] at hstatus
        obtain ⟨ref, _, h⟩ := bind_eq_ok.1 h
        obtain ⟨d₁, hd₁, h⟩ := bind_eq_ok.1 h
        obtain ⟨d₂, hd₂, h⟩ := bind_eq_ok.1 h
        cases h
        obtain ⟨handoffs, hhandoffs, rfl⟩ := Option.map_eq_some_iff.1 (constrained_eq_ok.1 hd₁)
        obtain ⟨outbox, houtbox, rfl⟩ := Option.map_eq_some_iff.1 (constrained_eq_ok.1 hd₂)
        exact .of_triggers (.handoffStaged hv haction hactive hstatus hhandoffs houtbox)
          ((onlyTriggers_touch rfl _).trans (onlyTriggers_touch rfl _))

theorem acknowledgeHumanDecisionHandoff_commits {decisionKey : String} {r : Bool}
    (h : acknowledgeHumanDecisionHandoff call planId stepId decisionKey db = .ok (r, db')) :
    Commits db (.acknowledgeHumanDecisionHandoff call planId stepId decisionKey)
      db' := by
  obtain ⟨_, _, h⟩ := bind_eq_ok.1 h
  cases h
  exact .of_triggers .acknowledged (onlyTriggers_deleteHandoffs _ _)

theorem updateHandoffs_commits {op : Op} (hop : op.Delivers) {p : HandoffRow → Prop}
    [DecidablePred p]
    {f : HandoffRow → HandoffRow} {hf : ∀ r, key (f r) = key r}
    (htask : ∀ r, (f r).taskId = r.taskId)
    (hopen : ∀ r, p r → ((f r).status = .quarantined ↔ r.status = .quarantined)) :
    Commits db op (db.updateHandoffs p f hf) :=
  .of_triggers (.handoffUpdated hop p f hf htask hopen) (onlyTriggers_updateHandoffs _ _ _ _)

theorem claimHumanDecisionDelivery_commits {decisionKey owner token : String} {r : DeliveryClaim}
    (h : claimHumanDecisionDelivery call planId stepId decisionKey owner token db =
      .ok (r, db')) :
    Commits db (.claimHumanDecisionDelivery call planId stepId decisionKey owner token)
      db' := by
  obtain ⟨v, _, h⟩ := bind_eq_ok.1 h
  dsimp only at h
  split_ifs at h
  · cases h; exact .same
  · cases h; exact .same
  · cases h; exact .same
  · cases h; exact .same
  · cases h; exact .same
  · cases h
    refine updateHandoffs_commits (by trivial) (fun _ => rfl) ?_
    rintro r ⟨_, hpending, _⟩
    simp [hpending]
  · cases h
    exact updateHandoffs_commits (by trivial) (fun _ => rfl) fun _ _ => Iff.rfl

theorem markHumanDecisionRecoveryRequired_commits {code : String}
    {anchor : Option String} {r : Bool}
    (h : markHumanDecisionRecoveryRequired call planId stepId code anchor db = .ok (r, db')) :
    Commits db (.markHumanDecisionRecoveryRequired call planId stepId code anchor)
      db' := by
  unfold markHumanDecisionRecoveryRequired at h
  split at h
  · obtain ⟨_, _, h⟩ := bind_eq_ok.1 h
    split at h
    · cases h; exact .same
    · obtain ⟨_, _, h⟩ := bind_eq_ok.1 h
      split at h
      · cases h; exact .same
      · rename_i v hv
        obtain ⟨hv, haction, hactive⟩ := confirmationView?_joins hv
        split_ifs at h with hstatus
        · cases h; exact .same
        · obtain ⟨d, hd, h⟩ := bind_eq_ok.1 h
          cases h
          obtain ⟨handoffs, hhandoffs, rfl⟩ := Option.map_eq_some_iff.1 (constrained_eq_ok.1 hd)
          exact .of_triggers (.anchored hv haction hactive (not_not.1 hstatus) hhandoffs)
            (onlyTriggers_touch rfl _)
  · obtain ⟨_, _, h⟩ := bind_eq_ok.1 h
    dsimp only at h
    split_ifs at h
    · cases h; exact .same
    · cases h; exact .same
    · cases h; exact .same
    · cases h
      refine updateHandoffs_commits (by trivial) (fun _ => rfl) ?_
      rintro r ⟨_, _, hpending, _⟩
      simp [hpending]

theorem quarantineHumanDecisionHandoff_commits {now : Timestamp} {web : String} {r : Unit}
    (h : quarantineHumanDecisionHandoff now web planId stepId reason db = .ok (r, db')) :
    Commits db (.quarantineHumanDecisionHandoff now web planId stepId reason)
      db' := by
  obtain ⟨_, hreason, h⟩ := bind_eq_ok.1 h
  dsimp only at h
  split at h
  · cases h
  · rename_i row hrow
    obtain ⟨hrow, hk⟩ := Table.find?_eq_some_iff.1 hrow
    split at h
    · cases h
    · rename_i t ht
      obtain ⟨ht, hid⟩ := Table.find?_eq_some_iff.1 ht
      obtain ⟨_, hweb, h⟩ := bind_eq_ok.1 h
      obtain ⟨v, hv, h⟩ := bind_eq_ok.1 h
      obtain ⟨_, hstatus, h⟩ := bind_eq_ok.1 h
      cases h
      have hstatus := raiseIf_eq_ok.1 hstatus
      simp only [not_or, not_not] at hstatus
      have hq : Quarantinable db now web planId stepId reason row :=
        ⟨Bool.not_eq_true _ |>.mp (raiseIf_eq_ok.1 hreason), hrow, Prod.mk.inj hk,
          ⟨t, ht, hid, not_not.1 (raiseIf_eq_ok.1 hweb), v, hv⟩, hstatus⟩
      refine ⟨.quarantined hq, ?_⟩
      exact rowwise_setTaskStatus ((onlyTriggers_updateHandoffs _ _ _ _).trans <|
        (onlyTriggers_deleteOutbox _ _).trans <| (onlyTriggers_updatePlans _ _ _ _).trans <|
        onlyTriggers_updateSteps _ _ _ _) (.refl _) fun t _ _ ht => .quarantined hq ht

theorem finishHumanDecisionDelivery_commits {decisionKey token : String} {delivered r : Bool}
    (h : finishHumanDecisionDelivery call planId stepId decisionKey token delivered db =
      .ok (r, db')) :
    Commits db (.finishHumanDecisionDelivery call planId stepId decisionKey token delivered)
      db' := by
  obtain ⟨_, _, h⟩ := bind_eq_ok.1 h
  cases h
  exact updateHandoffs_commits (by trivial) (fun _ => rfl) fun _ _ => Iff.rfl

theorem markConsumedHumanDecisionDelivery_commits {decisionKey : String} {r : Bool}
    (h : markConsumedHumanDecisionDelivery call planId stepId decisionKey db = .ok (r, db')) :
    Commits db (.markConsumedHumanDecisionDelivery call planId stepId decisionKey)
      db' := by
  obtain ⟨_, _, h⟩ := bind_eq_ok.1 h
  cases h
  refine updateHandoffs_commits (by trivial) (fun _ => rfl) ?_
  rintro r ⟨_, _, _, hstatus, _⟩
  rcases hstatus with hstatus | hstatus <;> simp [hstatus]

theorem mem_nonterminalTaskIds {date id : String} (h : id ∈ nonterminalTaskIds db date) :
    ∃ t ∈ db.tasks, t.taskId = id ∧ t.date = date ∧ ¬ t.status.IsTerminal := by
  obtain ⟨t, ht, rfl⟩ := List.mem_map.1 h
  rw [(List.perm_insertionSort _ _).mem_iff] at ht
  obtain ⟨ht, hdate, hstatus⟩ := Table.mem_select.1 ht
  exact ⟨t, ht, rfl, hdate, hstatus⟩

theorem cancelNonterminalForDatasetReset_commits {now : Timestamp} {date resetRef : String}
    {r : List String} (h : cancelNonterminalForDatasetReset now date resetRef db = .ok (r, db')) :
    Commits db (.cancelNonterminalForDatasetReset now date resetRef) db' := by
  unfold cancelNonterminalForDatasetReset at h
  dsimp only at h
  split_ifs at h
  · cases h; exact .same
  · cases h
    refine ⟨.reset, ?_⟩
    refine rowwise_setTaskStatus ((onlyTriggers_updateHandoffs _ _ _ _).trans <|
      (onlyTriggers_deleteOutbox _ _).trans <| (onlyTriggers_updateSteps _ _ _ _).trans <|
      onlyTriggers_updatePlans _ _ _ _) (.refl _) fun t ht _ hid => ?_
    obtain ⟨s, hs, hst, _, hterminal⟩ := mem_nonterminalTaskIds hid
    obtain rfl := Table.eq_of_key hs ht hst
    exact .reset hterminal

theorem ledger_insertAttemptTask? {t : TaskRow} (h : db.insertAttemptTask? t = some db') :
    db'.ledger = db.ledger := by
  unfold NavigationDb.insertAttemptTask? at h
  split_ifs at h
  obtain ⟨tasks, _, rfl⟩ := Option.map_eq_some_iff.1 h
  rfl

theorem ledger_insertOutcome? {o : OutcomeRow} (h : db.insertOutcome? o = some db') :
    db'.ledger = db.ledger := by
  obtain ⟨outcomes, _, rfl⟩ := Option.map_eq_some_iff.1 h
  rfl

theorem insertAttemptTask?_eq_some {t : TaskRow} (h : db.insertAttemptTask? t = some db') :
    (∀ r ∈ db.tasks, r.taskId ≠ t.taskId) ∧ ∀ r, r ∈ db'.tasks ↔ r ∈ db.tasks ∨ r = t := by
  unfold NavigationDb.insertAttemptTask? at h
  split_ifs at h
  obtain ⟨tasks, htasks, rfl⟩ := Option.map_eq_some_iff.1 h
  exact ⟨Table.insert?_fresh htasks, fun r => Table.mem_insert? htasks⟩

theorem insertAttemptTask?_index {t : TaskRow} (h : db.insertAttemptTask? t = some db') :
    ∀ r ∈ db.tasks, r.replayKey ≠ t.replayKey := by
  unfold NavigationDb.insertAttemptTask? at h
  split_ifs at h with hindex
  push Not at hindex
  exact hindex

theorem createTaskAttempt_commits {now : Timestamp} {a : TaskAttempt} {r : TaskRow × Bool}
    (h : createTaskAttempt now a db = .ok (r, db')) :
    Commits db (.createTaskAttempt now a) db' := by
  obtain ⟨_, hweb, h⟩ := bind_eq_ok.1 h
  obtain ⟨_, hagentscope, h⟩ := bind_eq_ok.1 h
  dsimp only at h
  split at h
  · cases h; exact .same
  · obtain ⟨_, _, h⟩ := bind_eq_ok.1 h
    obtain ⟨d, hd, h⟩ := bind_eq_ok.1 h
    obtain ⟨d', hd', h⟩ := bind_eq_ok.1 h
    have hd := constrained_eq_ok.1 hd
    have hd' := constrained_eq_ok.1 hd'
    split at h
    · cases h
    · cases h
      have hledger : db'.ledger = db.ledger :=
        (ledger_insertOutcome? hd').trans (ledger_insertAttemptTask? hd)
      obtain ⟨hnew, hgrown⟩ := insertAttemptTask?_eq_some hd
      refine ⟨hledger ▸ .same _, ?_⟩
      exact .created (t := a.row now) rfl rfl
        (isBlank_stripText (Bool.not_eq_true _ |>.mp (raiseIf_eq_ok.1 hweb)))
        (isBlank_stripText (Bool.not_eq_true _ |>.mp (raiseIf_eq_ok.1 hagentscope)))
        hnew hgrown (onlyTriggers_insertOutcome? hd') rfl (insertAttemptTask?_index hd)

theorem createLinkedTrajectoryFixAttempt_commits {now : Timestamp} {a : LinkedAttempt}
    {r : TaskRow × Bool} (h : createLinkedTrajectoryFixAttempt now a db = .ok (r, db')) :
    Commits db (.createLinkedTrajectoryFixAttempt now a) db' := by
  obtain ⟨_, hblank, h⟩ := bind_eq_ok.1 h
  have hblank := raiseIf_eq_ok.1 hblank
  simp only [not_or, Bool.not_eq_true] at hblank
  split at h
  · cases h; exact .same
  · split at h
    · cases h
    · rename_i parent _
      obtain ⟨_, _, h⟩ := bind_eq_ok.1 h
      obtain ⟨d, hd, h⟩ := bind_eq_ok.1 h
      obtain ⟨d', hd', h⟩ := bind_eq_ok.1 h
      obtain ⟨_, _, h⟩ := bind_eq_ok.1 h
      obtain ⟨d'', hd'', h⟩ := bind_eq_ok.1 h
      have hd := constrained_eq_ok.1 hd
      have hd' := constrained_eq_ok.1 hd'
      split at h
      · cases h
      · cases h
        have htriggers := (onlyTriggers_insertOutcome? hd').trans
          (onlyTriggers_insertLineage? (constrained_eq_ok.1 hd''))
        have hledger : d'.ledger = db.ledger :=
          (ledger_insertOutcome? hd').trans (ledger_insertAttemptTask? hd)
        obtain ⟨lineage, _, rfl⟩ := Option.map_eq_some_iff.1 (constrained_eq_ok.1 hd'')
        obtain ⟨hnew, hgrown⟩ := insertAttemptTask?_eq_some hd
        refine ⟨hledger ▸ .same _, ?_⟩
        exact .created (t := a.row parent now) rfl rfl (isBlank_stripText hblank.1)
          (isBlank_stripText hblank.2) hnew hgrown htriggers rfl (insertAttemptTask?_index hd)

theorem updateTaskForSession_commits {taskId : String} {expected : Option ℕ}
    {changes : TaskChanges} {r : TaskRow}
    (h : updateTaskForSession call taskId expected changes db = .ok (r, db')) :
    Commits db (.updateTaskForSession call taskId expected changes) db' := by
  obtain ⟨_, _, h⟩ := bind_eq_ok.1 h
  split at h
  · cases h
  · rename_i current hcurrent
    obtain ⟨hcurrent, hid⟩ := Table.find?_eq_some_iff.1 hcurrent
    split at h
    · cases h
    · obtain ⟨_, hexpected, h⟩ := bind_eq_ok.1 h
      obtain ⟨_, hedge, h⟩ := bind_eq_ok.1 h
      have hexpected := raiseIf_eq_ok.1 hexpected
      simp only [Option.any_eq_true, decide_eq_true_eq, not_exists, not_and, not_not] at hexpected
      split_ifs at h
      · cases h; exact .same
      · obtain ⟨_, _, h⟩ := bind_eq_ok.1 h
        obtain ⟨_, hindex, h⟩ := bind_eq_ok.1 h
        have hindex := raiseIf_eq_ok.1 hindex
        push Not at hindex
        cases h
        have hmerge : Rowwise (TaskMove db (.updateTaskForSession call taskId expected changes))
            db.tasks (db.tasks.update (fun t => t.taskId = taskId)
              (fun t => mergedTask t changes call.now) fun _ => rfl) := by
          refine Rowwise.of_update (by exact fun _ => rfl) fun t ht => ?_
          split_ifs with hit
          · obtain rfl := Table.eq_of_key ht hcurrent (hit.trans hid.symm)
            exact .merged hid (fun r hr => (hexpected r hr).symm)
              (validateNavigationTaskStatusTransition_eq_ok.1 hedge).2 rfl hindex
          · exact .triggered (.refl t)
        exact ⟨.same _, .changed hmerge⟩

theorem appendUserGuidance_commits {g : UserGuidance} {r : ℤ × NavigationObservationRevision}
    (h : appendUserGuidance call g db = .ok (r, db')) :
    Commits db (.appendUserGuidance call g) db' := by
  obtain ⟨_, _, h⟩ := bind_eq_ok.1 h
  split at h
  · cases h
  · rename_i current hcurrent
    obtain ⟨hcurrent, hid⟩ := Table.find?_eq_some_iff.1 hcurrent
    obtain ⟨_, hexpected, h⟩ := bind_eq_ok.1 h
    dsimp only at h
    split at h
    · cases h
    · obtain ⟨d, hd, h⟩ := bind_eq_ok.1 h
      obtain ⟨d', hd', h⟩ := bind_eq_ok.1 h
      cases h
      have htriggers := (onlyTriggers_insertObservation? (constrained_eq_ok.1 hd)).trans
        (onlyTriggers_insertEvidence? (constrained_eq_ok.1 hd'))
      obtain ⟨evidence, _, rfl⟩ := Option.map_eq_some_iff.1 (constrained_eq_ok.1 hd')
      obtain ⟨observations, _, rfl⟩ := Option.map_eq_some_iff.1 (constrained_eq_ok.1 hd)
      refine ⟨.same _, .changed (rowwise_updateTasks (by exact fun _ => rfl)
        (Rowwise.refl fun t _ => rfl) htriggers ?_ ?_)⟩
      · rintro t ht _ n rfl hit
        obtain rfl := Table.eq_of_key ht hcurrent (hit.1.trans hid.symm)
        refine .guided hid hit.2 (n := 1 + n) (by omega) ?_
        simp [TaskRow.bump, Nat.add_assoc]
      · rintro t _ n rfl
        exact .triggered ⟨n, rfl⟩

theorem recordAttempt_commits {attempt r : AttemptRow}
    (h : recordAttempt call attempt db = .ok (r, db')) :
    Commits db (.recordAttempt call attempt) db' := by
  obtain ⟨_, _, h⟩ := bind_eq_ok.1 h
  obtain ⟨_, _, h⟩ := bind_eq_ok.1 h
  obtain ⟨d, hd, h⟩ := bind_eq_ok.1 h
  cases h
  obtain ⟨attempts, _, rfl⟩ := Option.map_eq_some_iff.1 (constrained_eq_ok.1 hd)
  exact .of_triggers (.same _) (onlyTriggers_touch rfl _)

theorem answer_eq_ok {α : Type} {f : α → Reply} {x : Except NavigationError (α × NavigationDb)}
    {r : Reply} : answer f x = .ok (r, db') ↔ ∃ a, x = .ok (a, db') ∧ f a = r := by
  unfold answer
  cases x with
  | error e => simp [Except.map]
  | ok x =>
    obtain ⟨a, d⟩ := x
    simp only [Except.map, Except.ok.injEq, Prod.mk.injEq]
    constructor
    · rintro ⟨rfl, rfl⟩
      exact ⟨a, ⟨rfl, rfl⟩, rfl⟩
    · rintro ⟨_, ⟨rfl, rfl⟩, rfl⟩
      exact ⟨rfl, rfl⟩

theorem perform_commits {op : Op} {r : Reply} (h : perform op db = .ok (r, db')) :
    Commits db op db' := by
  cases op <;> unfold perform at h <;> obtain ⟨a, h, _⟩ := answer_eq_ok.1 h
  case createTaskAttempt => exact createTaskAttempt_commits h
  case createLinkedTrajectoryFixAttempt => exact createLinkedTrajectoryFixAttempt_commits h
  case updateTaskForSession => exact updateTaskForSession_commits h
  case deleteTaskIfCurrent => exact deleteTaskIfCurrent_commits h
  case cancelNonterminalForDatasetReset => exact cancelNonterminalForDatasetReset_commits h
  case appendUserGuidance => exact appendUserGuidance_commits h
  case recordAttempt => exact recordAttempt_commits h
  case activate => exact activate_commits h
  case invalidate => exact invalidate_commits h
  case claimStep => exact claimStep_commits h
  case markWaitingUser => exact markWaitingUser_commits h
  case resumeWaitingWorkflowStep => exact resumeWaitingWorkflowStep_commits h
  case markWorkflowStepWaitingUser => exact markWorkflowStepWaitingUser_commits h
  case stageStepResult => exact stageStepResult_commits h
  case attachStagedResultEvidence => exact attachStagedResultEvidence_commits h
  case finalizeStagedStep => exact finalizeStagedStep_commits h
  case recoverRunningStepWithoutResult => exact recoverRunningStepWithoutResult_commits h
  case markNeedsReplan => exact markNeedsReplan_commits h
  case markTerminalizedClaimNeedsReplan => exact markTerminalizedClaimNeedsReplan_commits h
  case stageHumanDecisionHandoff => exact stageHumanDecisionHandoff_commits h
  case acknowledgeHumanDecisionHandoff => exact acknowledgeHumanDecisionHandoff_commits h
  case claimHumanDecisionDelivery => exact claimHumanDecisionDelivery_commits h
  case markHumanDecisionRecoveryRequired => exact markHumanDecisionRecoveryRequired_commits h
  case quarantineHumanDecisionHandoff => exact quarantineHumanDecisionHandoff_commits h
  case finishHumanDecisionDelivery => exact finishHumanDecisionDelivery_commits h
  case markConsumedHumanDecisionDelivery => exact markConsumedHumanDecisionDelivery_commits h

end DataJuicer.Navigation

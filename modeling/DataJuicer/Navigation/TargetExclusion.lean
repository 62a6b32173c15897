import DataJuicer.Navigation.Consistency

/-! # Exclusive navigation targets

A running step of an active plan holds the target of its task when its action locks it and
the task is not a dry run. `claim_step` looks for other holders before it starts a step;
`resume_waiting_workflow_step` starts one without looking.
-/

namespace DataJuicer.Navigation

open Table

def TaskRow.Overlaps (t t' : TaskRow) : Prop :=
  navigationTargetsOverlap t.date (storedArg t.segments) t'.date (storedArg t'.segments) = true

theorem TaskRow.Overlaps.symm {t t' : TaskRow} (h : t.Overlaps t') : t'.Overlaps t := by
  unfold TaskRow.Overlaps
  rw [navigationTargetsOverlap_comm]
  exact h

structure LocksTargetOf (db : NavigationDb) (s : StepRow) (t : TaskRow) : Prop where
  step_mem : s ∈ db.steps
  locks : s.toolName.LocksTarget
  plan_active : ∃ p ∈ db.plans, p.planId = s.planId ∧ p.status = .active
  task_mem : t ∈ db.tasks
  task_id : t.taskId = s.taskId
  writes : t.dryRun = false

structure HoldsTarget (db : NavigationDb) (s : StepRow) (t : TaskRow) : Prop
    extends LocksTargetOf db s t where
  running : s.status = .running

/-- No two steps hold overlapping targets. -/
def TargetExclusive (db : NavigationDb) : Prop :=
  ∀ s t s' t', HoldsTarget db s t → HoldsTarget db s' t' → s ≠ s' → ¬ t.Overlaps t'

def TargetsFixed (x : Transition NavigationDb Event) : Prop :=
  ∀ t ∈ x.pre.tasks, ∀ t' ∈ x.post.tasks, t'.taskId = t.taskId →
    t'.date = t.date ∧ t'.segments = t.segments ∧ t'.dryRun = t.dryRun

/-- A resumption of a step that locks the target of its task finds the target free. -/
def ResumesFree (db : NavigationDb) : Op → Prop
  | .resumeWaitingWorkflowStep call planId stepId action => ∀ v : StepView,
      Resumable db call planId stepId action v → action ∈ lockingActions →
      v.task.dryRun = false → ¬ TargetBusy db v.task planId stepId
  | _ => True

variable {db db' : NavigationDb} {op : Op} {r : Reply}

theorem StepRow.Of.names {s : StepRow} {p : PlanRow} (h : s.Of p) :
    p.plan.Names s.stepId s.toolName.name := by
  obtain ⟨_, _, row, hrow, hid, haction⟩ := h
  exact ⟨row, List.mem_of_getElem? hrow, hid, by rw [haction]⟩

/-- Another holder of an overlapping target is what makes a target busy. -/
theorem HoldsTarget.busy (hc : Consistent db) {s : StepRow} {t t' : TaskRow}
    (h : HoldsTarget db s t) {planId stepId : String} (hne : ¬ s.Is planId stepId)
    (hover : t'.Overlaps t) : TargetBusy db t' planId stepId := by
  obtain ⟨p, hp, hpid, hactive⟩ := h.plan_active
  obtain ⟨q, hq, hof⟩ := hc.step_plan s h.step_mem
  obtain rfl := eq_of_key hp hq (hpid.trans hof.1.symm)
  have hdate := (navigationTargetsOverlap_iff.1 hover).1
  exact ⟨s, h.step_mem, h.running, h.locks, hne, p, hp, hpid, hactive, hof.names, t, h.task_mem,
    h.task_id, h.writes, hdate.symm, hover⟩

theorem exists_holder_of_busy {t : TaskRow} {planId stepId : String}
    (h : TargetBusy db t planId stepId) :
    ∃ s t', HoldsTarget db s t' ∧ ¬ s.Is planId stepId ∧ t.Overlaps t' := by
  obtain ⟨s, hs, hrun, hlocks, hne, p, hp, hpid, hactive, _, t', ht', htid, hdry, _, hover⟩ := h
  exact ⟨s, t', ⟨⟨hs, hlocks, ⟨p, hp, hpid, hactive⟩, ht', htid, hdry⟩, hrun⟩, hne, hover⟩

theorem StepWrite.running_free {s : StepRow} (h : StepWrite db op s .running)
    (hfree : ResumesFree db op) (hlocks : s.toolName.LocksTarget) {t : TaskRow} (ht : t ∈ db.tasks)
    (hid : t.taskId = s.taskId) (hdry : t.dryRun = false) :
    ¬ TargetBusy db t s.planId s.stepId := by
  generalize hst : StepStatus.running = st at h
  cases h with
  | claimed h =>
    have hv := h.joins
    obtain rfl := eq_of_key ht hv.task_mem (hid.trans hv.task_taskId.symm)
    rw [hv.step_planId, hv.step_stepId]
    exact fun hbusy => h.free ⟨hdry, h.action_name ▸ hlocks, hbusy⟩
  | resumed h =>
    have hv := h.joins
    obtain rfl := eq_of_key ht hv.task_mem (hid.trans hv.task_taskId.symm)
    rw [hv.step_planId, hv.step_stepId]
    exact hfree _ h (h.action_name ▸ hlocks) hdry
  | @finished _ _ _ _ _ staged =>
    cases htarget : staged.targetStatus <;> rw [htarget] at hst <;> cases hst
  | _ => cases hst

theorem StepView.Joins.unique {planId stepId : String} {v v' : StepView}
    (h : v.Joins db planId stepId) (h' : v'.Joins db planId stepId) : v = v' :=
  Option.some_inj.1 ((stepView?_eq_some_iff.2 h).symm.trans (stepView?_eq_some_iff.2 h'))

/-- A request starts at most one step. -/
theorem StepWrite.running_unique {s s' : StepRow} (h : StepWrite db op s .running)
    (h' : StepWrite db op s' .running) : s = s' := by
  generalize hst : StepStatus.running = st at h
  cases h with
  | claimed h =>
    cases h' with
    | claimed h' => rw [h.joins.unique h'.joins]
  | resumed h =>
    generalize StepStatus.running = st at h'
    cases h' with
    | resumed h' => rw [h.joins.unique h'.joins]
  | @finished _ _ _ _ _ staged =>
    cases htarget : staged.targetStatus <;> rw [htarget] at hst <;> cases hst
  | _ => cases hst

/-- A holder after a request was a possible holder before, and was running or is started. -/
theorem HoldsTarget.pre (hc : Consistent db) (h : Commits db op db')
    (hfix : ∀ t ∈ db.tasks, ∀ t' ∈ db'.tasks, t'.taskId = t.taskId →
      t'.date = t.date ∧ t'.segments = t.segments ∧ t'.dryRun = t.dryRun)
    {s' : StepRow} {t' : TaskRow} (hold : HoldsTarget db' s' t') :
    ∃ s t, s.Same s' ∧ t'.date = t.date ∧ t'.segments = t.segments ∧ LocksTargetOf db s t ∧
      (s.status = .running ∨ StepWrite db op s .running) := by
  have hrows := h.ledger.rowsMove
  rcases hrows.step_pre hold.step_mem with ⟨s, hs, hsame, hstatus⟩ | ⟨_, _, _, _, _, _, rfl⟩
  · obtain ⟨q, hq, hof⟩ := hc.step_plan s hs
    have hplan : ∃ p ∈ db.plans, p.planId = s.planId ∧ p.status = .active := by
      obtain ⟨p', hp', hpid, hactive⟩ := hold.plan_active
      rcases hrows.active_pre hp' hactive with ⟨p, hp, hpsame, hactive⟩ | ha
      · exact ⟨p, hp, hpsame.planId.symm.trans (hpid.trans hsame.planId), hactive⟩
      · cases ha with
        | intro _ _ _ _ hrecord hnew =>
          subst hrecord
          exact absurd (hof.1.trans (hsame.planId.symm.trans hpid.symm)) (hnew q hq)
    have htask : ∃ t ∈ db.tasks, TaskMove db op t t' := by
      rcases h.tasks.exists_pre hold.task_mem with ht | ⟨hnew, _⟩
      · exact ht
      · obtain ⟨t, ht, hid⟩ := hc.plan_task q hq
        refine absurd ?_ (hnew t ht)
        rw [hid, hof.2.1, ← hsame.taskId, hold.task_id]
    obtain ⟨t, ht, hmove⟩ := htask
    obtain ⟨hdate, hsegments, hdry⟩ := hfix t ht t' hold.task_mem hmove.taskId
    refine ⟨s, t, hsame, hdate, hsegments, ⟨hs, hsame.toolName ▸ hold.locks, hplan, ht, ?_, ?_⟩, ?_⟩
    · exact hmove.taskId.symm.trans (hold.task_id.trans hsame.taskId)
    · exact hdry.symm.trans hold.writes
    · rcases hstatus with hs | hw
      · exact .inl (hs.symm.trans hold.running)
      · exact .inr (hold.running ▸ hw)
  · cases hold.running

theorem TargetExclusive.commit (hc : Consistent db) (hex : TargetExclusive db)
    (h : Commits db op db')
    (hfix : ∀ t ∈ db.tasks, ∀ t' ∈ db'.tasks, t'.taskId = t.taskId →
      t'.date = t.date ∧ t'.segments = t.segments ∧ t'.dryRun = t.dryRun)
    (hfree : ResumesFree db op) : TargetExclusive db' := by
  intro s₁' t₁' s₂' t₂' h₁ h₂ hne hover
  obtain ⟨s₁, t₁, hsame₁, hdate₁, hseg₁, hl₁, hrun₁⟩ := h₁.pre hc h hfix
  obtain ⟨s₂, t₂, hsame₂, hdate₂, hseg₂, hl₂, hrun₂⟩ := h₂.pre hc h hfix
  have hover : t₁.Overlaps t₂ := by
    unfold TaskRow.Overlaps at hover
    rwa [hdate₁, hseg₁, hdate₂, hseg₂] at hover
  have hne : s₁ ≠ s₂ := by
    rintro rfl
    exact hne (eq_of_key h₁.step_mem h₂.step_mem (Prod.ext
      (hsame₁.planId.trans hsame₂.planId.symm) (hsame₁.stepId.trans hsame₂.stepId.symm)))
  have hkey : ∀ {s s' : StepRow}, s ∈ db.steps → s' ∈ db.steps → s ≠ s' →
      ¬ s.Is s'.planId s'.stepId := fun hs hs' hne h => hne (eq_of_key hs hs' (Prod.ext h.1 h.2))
  rcases hrun₁ with hrun₁ | hw₁ <;> rcases hrun₂ with hrun₂ | hw₂
  · exact hex s₁ t₁ s₂ t₂ ⟨hl₁, hrun₁⟩ ⟨hl₂, hrun₂⟩ hne hover
  · refine hw₂.running_free hfree hl₂.locks hl₂.task_mem hl₂.task_id hl₂.writes ?_
    exact HoldsTarget.busy hc ⟨hl₁, hrun₁⟩ (hkey hl₁.step_mem hl₂.step_mem hne) hover.symm
  · refine hw₁.running_free hfree hl₁.locks hl₁.task_mem hl₁.task_id hl₁.writes ?_
    exact HoldsTarget.busy hc ⟨hl₂, hrun₂⟩ (hkey hl₂.step_mem hl₁.step_mem hne.symm) hover
  · exact hne (hw₁.running_unique hw₂)

theorem Resumable.resumes {call : Call} {planId stepId action : String} {v : StepView}
    (h : Resumable db call planId stepId action v) :
    resumeWaitingWorkflowStep call planId stepId action db = .ok (true,
      (db.updateSteps (StepRow.At planId stepId action .waitingUser) fun r =>
        { r with
          status := .running
          startedAt := r.startedAt.or (some (utcNow call.now)) }).setTaskStatus
        (fun t => t.taskId = v.task.taskId ∧ (t.status = .waitingUser ∨ t.status = .active))
        .active call.now) := by
  obtain ⟨hauth, hv, haction, hactive, hstatus, htask⟩ := h
  have hview : activeStepView? db planId stepId action = some v := Option.filter_eq_some_iff.2
    ⟨stepView?_eq_some_iff.2 hv, decide_eq_true ⟨haction, hactive⟩⟩
  have hcount : db.steps.rowcount (StepRow.At planId stepId action .waitingUser) = 1 :=
    (Table.rowcount_eq_one_iff (k := (planId, stepId)) fun s _ hs => Prod.ext hs.1 hs.2.1).2
      ⟨v.step, hv.step_mem, hv.step_planId, hv.step_stepId, haction, hstatus⟩
  have hrun : ¬ (v.step.status = .running ∧ v.task.status = .active) :=
    fun h => by simp [hstatus] at h
  have hwait : ¬ (v.step.status ≠ .waitingUser ∨
      (v.task.status ≠ .waitingUser ∧ v.task.status ≠ .active)) := by
    rintro (h | ⟨h, h'⟩)
    · exact h hstatus
    · exact htask.elim h h'
  unfold resumeWaitingWorkflowStep
  simp only [hauth, hview, if_neg hrun, if_neg hwait, hcount]
  rfl

theorem LocksTargetOf.post (h : Commits db op db') (hplans : db'.plans = db.plans)
    (hkeep : ∀ call taskId rev, op ≠ .deleteTaskIfCurrent call taskId rev)
    (hfix : ∀ t ∈ db.tasks, ∀ t' ∈ db'.tasks, t'.taskId = t.taskId →
      t'.date = t.date ∧ t'.segments = t.segments ∧ t'.dryRun = t.dryRun)
    {s s' : StepRow} {t : TaskRow} (hl : LocksTargetOf db s t) (hs' : s' ∈ db'.steps)
    (hsame : s.Same s') :
    ∃ t', LocksTargetOf db' s' t' ∧ t'.date = t.date ∧ t'.segments = t.segments := by
  rcases h.tasks.exists_post hl.task_mem with ⟨t', ht', hmove⟩ | ⟨call, rev, hop⟩
  · obtain ⟨hdate, hsegments, hdry⟩ := hfix t hl.task_mem t' ht' hmove.taskId
    refine ⟨t', ⟨hs', hsame.toolName ▸ hl.locks, ?_, ht', ?_, hdry.trans hl.writes⟩, hdate,
      hsegments⟩
    · rw [hplans, hsame.planId]
      exact hl.plan_active
    · exact hmove.taskId.trans (hl.task_id.trans hsame.taskId.symm)
  · exact absurd hop (hkeep _ _ _)

/-- A resumption that finds its target busy adds a second holder. -/
theorem ResumesFree.of_exclusive {e : Event} (h : Step db e db')
    (hfix : ∀ t ∈ db.tasks, ∀ t' ∈ db'.tasks, t'.taskId = t.taskId →
      t'.date = t.date ∧ t'.segments = t.segments ∧ t'.dryRun = t.dryRun)
    (hex : TargetExclusive db') : ResumesFree db e.1 := by
  obtain ⟨op, reply⟩ := e
  cases op with
  | resumeWaitingWorkflowStep call planId stepId action =>
    intro v hres hlock hdry hbusy
    have hv := hres.joins
    have haction := hres.action_name
    obtain ⟨s, t, hold, hne, hover⟩ := exists_holder_of_busy hbusy
    have hdo : perform (.resumeWaitingWorkflowStep call planId stepId action) db = _ := congrArg
      (answer .flag) hres.resumes
    rcases step_iff.1 h with ⟨r, hr, _⟩ | ⟨x, hx, _⟩
    · have hdb : _ = db' := (Prod.mk.inj (Except.ok.inj (hdo.symm.trans hr))).2
      have hplans : db'.plans = db.plans := hdb ▸ rfl
      have hstarted : { v.step with
          status := .running, startedAt := v.step.startedAt.or (some (utcNow call.now)) } ∈
          db'.steps := by
        rw [← hdb]
        exact List.mem_map.2 ⟨v.step, hv.step_mem,
          if_pos ⟨hv.step_planId, hv.step_stepId, haction, hres.waiting⟩⟩
      have hother : s ∈ db'.steps := by
        rw [← hdb]
        exact List.mem_map.2 ⟨s, hold.step_mem, if_neg fun hat => hne ⟨hat.1, hat.2.1⟩⟩
      have hlock' : v.step.toolName.LocksTarget := by
        unfold StepAction.LocksTarget
        rwa [haction]
      have hlocks : LocksTargetOf db v.step v.task :=
        ⟨hv.step_mem, hlock', ⟨v.plan, hv.plan_mem,
          hv.plan_planId.trans hv.step_planId.symm, hres.active⟩, hv.task_mem, hv.task_taskId, hdry⟩
      obtain ⟨t₁, hl₁, hdate₁, hseg₁⟩ := hlocks.post (perform_commits hr) hplans
        (fun _ _ _ h => by cases h) hfix hstarted ⟨rfl, rfl, rfl, rfl, rfl, rfl⟩
      obtain ⟨t₂, hl₂, hdate₂, hseg₂⟩ := hold.toLocksTargetOf.post (perform_commits hr) hplans
        (fun _ _ _ h => by cases h) hfix hother (.refl s)
      refine hex _ t₁ s t₂ ⟨hl₁, rfl⟩ ⟨hl₂, hold.running⟩ ?_ ?_
      · rintro rfl
        exact hne ⟨hv.step_planId, hv.step_stepId⟩
      · unfold TaskRow.Overlaps
        rwa [hdate₁, hseg₁, hdate₂, hseg₂]
    · cases hdo.symm.trans hx
  | _ => trivial

/-- Targets stay exclusive in a run exactly when all resumptions find their target free. -/
theorem navigation_target_exclusion_iff {l : List (Transition NavigationDb Event)}
    (h : Run Step .initial l db) (hfix : ∀ x ∈ l, TargetsFixed x) :
    (∀ x ∈ l, TargetExclusive x.post) ↔ ∀ x ∈ l, ResumesFree x.pre x.label.1 := by
  have hstart : TargetExclusive .initial := fun s _ _ _ hs =>
    absurd hs.step_mem (Table.not_mem_empty s)
  have hok : ∀ x ∈ l, Consistent x.pre ∧ TargetsFixed x := fun x hx =>
    ⟨((Consistent.of_run h).2 x hx).1, hfix x hx⟩
  refine h.forall_post_iff hstart hok fun x hex ⟨hc, hfix⟩ hx => ⟨fun hpost => ?_, fun hfree => ?_⟩
  · exact ResumesFree.of_exclusive hx hfix hpost
  · rcases step_iff.1 hx with ⟨r, hr, _⟩ | ⟨_, _, _, hsame⟩
    · exact hex.commit hc (perform_commits hr) hfix hfree
    · exact hsame ▸ hex

instance (db : NavigationDb) (s : StepRow) (t : TaskRow) : Decidable (HoldsTarget db s t) :=
  decidable_of_iff (s ∈ db.steps.rows ∧ s.toolName.LocksTarget ∧
    (∃ p ∈ db.plans, p.planId = s.planId ∧ p.status = .active) ∧ t ∈ db.tasks.rows ∧
    t.taskId = s.taskId ∧ t.dryRun = false ∧ s.status = .running)
    ⟨fun ⟨h₁, h₂, h₃, h₄, h₅, h₆, h₇⟩ => ⟨⟨h₁, h₂, h₃, h₄, h₅, h₆⟩, h₇⟩,
      fun ⟨⟨h₁, h₂, h₃, h₄, h₅, h₆⟩, h₇⟩ => ⟨h₁, h₂, h₃, h₄, h₅, h₆, h₇⟩⟩

instance (t t' : TaskRow) : Decidable (t.Overlaps t') := instDecidableEqBool _ _

instance : DecidablePred TargetsFixed := fun x => by
  unfold TargetsFixed
  infer_instance

/-- While the workflow of task `a` waits for its user, task `b` claims the same target. -/
def overlappingResume : List Op := Sample.setup ++
  [.createTaskAttempt 2 (Sample.attempt "b" "web-b" "agent-b"),
   .activate (Sample.bob 3) (Sample.activation "q" "b"),
   .claimStep (Sample.alice 4) "p" "track" "run_annotation_tracking_workflow",
   .markWorkflowStepWaitingUser (Sample.alice 5) "p" "track" "run_annotation_tracking_workflow",
   .claimStep (Sample.bob 6) "q" "track" "run_annotation_tracking_workflow",
   .resumeWaitingWorkflowStep (Sample.alice 7) "p" "track" "run_annotation_tracking_workflow"]

theorem overlappingResume_targetsFixed :
    ∀ x ∈ stores.serve .initial overlappingResume, TargetsFixed x := by decide

/-- After the workflow is resumed, two running steps hold one target. -/
theorem overlappingResume_not_exclusive :
    Run Step .initial (stores.serve .initial overlappingResume)
        (stores.final .initial overlappingResume) ∧
      (∀ x ∈ stores.serve .initial overlappingResume, TargetsFixed x) ∧
      ¬ TargetExclusive (stores.final .initial overlappingResume) := by
  refine ⟨stores.serve_run _ _, by decide, fun hex => ?_⟩
  have hholders : ∃ s ∈ (stores.final .initial overlappingResume).steps,
      ∃ t ∈ (stores.final .initial overlappingResume).tasks,
      ∃ s' ∈ (stores.final .initial overlappingResume).steps,
      ∃ t' ∈ (stores.final .initial overlappingResume).tasks,
      HoldsTarget (stores.final .initial overlappingResume) s t ∧
      HoldsTarget (stores.final .initial overlappingResume) s' t' ∧ s ≠ s' ∧ t.Overlaps t' := by
    decide
  obtain ⟨s, _, t, _, s', _, t', _, h, h', hne, hover⟩ := hholders
  exact hex s t s' t' h h' hne hover

theorem navigation_target_exclusion_overlappingResume :
    (∀ x ∈ stores.serve .initial overlappingResume, TargetExclusive x.post) ↔
      ∀ x ∈ stores.serve .initial overlappingResume, ResumesFree x.pre x.label.1 :=
  navigation_target_exclusion_iff (stores.serve_run _ _) overlappingResume_targetsFixed

end DataJuicer.Navigation

import DataJuicer.Navigation.Consistency

/-! # Staged results that can be finished

A staged result freezes the statuses it expects of its step. `finalize_staged_step` needs the
plan to be active and the step to have one of them, but the operations that claim, park and
resume a step do not look at the outbox, and two operations give up a plan with its other
staged results.
-/

namespace DataJuicer.Navigation

open Table

/-- Every staged result is for a step of an active plan that has an expected status. -/
def OutboxLive (db : NavigationDb) : Prop :=
  ∀ o ∈ db.outbox, (∃ p ∈ db.plans, p.planId = o.planId ∧ p.status = .active) ∧
    ∃ s ∈ db.steps, s.Is o.planId o.stepId ∧ s.status ∈ o.expectedStatuses

def StagedExpects (db : NavigationDb) (planId stepId : String) (st : StepStatus) : Prop :=
  ∀ o ∈ db.outbox, o.planId = planId → o.stepId = stepId → st ∈ o.expectedStatuses

/-- The operation strands no staged result. -/
def StrandsNone (db : NavigationDb) : Op → Prop
  | .claimStep call planId stepId action => ∀ v, Claimable db call planId stepId action v →
      StagedExpects db planId stepId .running
  | .markWaitingUser call planId stepId action => ∀ s, Waitable db call planId stepId action s →
      StagedExpects db planId stepId .waitingUser
  | .resumeWaitingWorkflowStep call planId stepId action => ∀ v,
      Resumable db call planId stepId action v → StagedExpects db planId stepId .running
  | .markWorkflowStepWaitingUser call planId stepId action => ∀ v,
      WorkflowWaitable db call planId stepId action v →
      StagedExpects db planId stepId .waitingUser
  | .recoverRunningStepWithoutResult call planId stepId _ action => ∀ v,
      Recoverable db call planId stepId action v → ∀ o ∈ db.outbox, o.planId ≠ planId
  | .quarantineHumanDecisionHandoff now web planId stepId reason => ∀ h,
      Quarantinable db now web planId stepId reason h →
      ∀ o ∈ db.outbox, o.planId = planId → o.stepId = stepId
  | _ => True

variable {db db' : NavigationDb} {op : Op} {o : OutboxRow}

theorem StrandsNone.keepsStaged (h : StrandsNone db op) : KeepsStaged db op := by
  cases op with
  | recoverRunningStepWithoutResult => exact h
  | quarantineHumanDecisionHandoff => exact fun _ hq _ => h _ hq
  | _ => trivial

/-- No operation that strands nothing moves a step away from what its staged result expects. -/
theorem StepWrite.of_staged (hsafe : StrandsNone db op) {s : StepRow} {st : StepStatus}
    (h : StepWrite db op s st) (ho : o ∈ db.outbox) (hid : s.Is o.planId o.stepId)
    (htask : s.taskId = o.taskId) : st ∈ o.expectedStatuses ∨ Discards db op o := by
  cases h with
  | claimed h =>
    exact .inl (hsafe _ h o ho (hid.1.symm.trans h.joins.step_planId)
      (hid.2.symm.trans h.joins.step_stepId))
  | waited h =>
    exact .inl (hsafe _ h o ho (hid.1.symm.trans h.at_pending.1)
      (hid.2.symm.trans h.at_pending.2.1))
  | resumed h =>
    exact .inl (hsafe _ h o ho (hid.1.symm.trans h.joins.step_planId)
      (hid.2.symm.trans h.joins.step_stepId))
  | workflowWaited h =>
    exact .inl (hsafe _ h o ho (hid.1.symm.trans h.joins.step_planId)
      (hid.2.symm.trans h.joins.step_stepId))
  | finished h =>
    exact .inr ⟨hid.1.symm.trans h.joins.step_planId, hid.2.symm.trans h.joins.step_stepId⟩
  | recovered hid' _ h => exact absurd (hid.1.symm.trans hid') (hsafe _ h o ho)
  | replanned hid' _ h =>
    exact absurd (hid'.symm.trans hid.1 ▸ not_idle_of_staged ho) h.idle
  | terminalized hid' _ h =>
    exact absurd (hid'.symm.trans hid.1 ▸ not_idle_of_staged ho) h.idle
  | quarantined hid' _ h =>
    have hoid := hid.1.symm.trans hid'
    exact .inr ⟨hoid, hsafe _ h o ho hoid⟩
  | reset hid' =>
    rw [htask] at hid'
    exact .inr hid'

theorem OutboxLive.rows (hc : Consistent db) (hlive : OutboxLive db) (ho : o ∈ db.outbox) :
    ∃ p ∈ db.plans, ∃ s ∈ db.steps, p.planId = o.planId ∧ p.status = .active ∧
      s.Is o.planId o.stepId ∧ s.status ∈ o.expectedStatuses ∧ p.taskId = o.taskId ∧
      s.taskId = o.taskId := by
  obtain ⟨⟨p, hp, hpid, hactive⟩, s, hs, hid, hst⟩ := hlive o ho
  obtain ⟨s', hs', hid', htask⟩ := hc.outbox_step o ho
  obtain rfl := eq_of_key hs hs' (Prod.ext (hid.1.trans hid'.1.symm) (hid.2.trans hid'.2.symm))
  obtain ⟨q, hq, hqid, hqtask, _⟩ := hc.step_plan s hs
  obtain rfl := eq_of_key hp hq (hpid.trans (hid.1.symm.trans hqid.symm))
  exact ⟨p, hp, s, hs, hpid, hactive, hid, hst, hqtask.trans htask, htask⟩

theorem OutboxLive.commit (hc : Consistent db) (hlive : OutboxLive db) (h : Commits db op db')
    (hsafe : StrandsNone db op) : OutboxLive db' := by
  intro o' ho'
  have hrows := h.ledger.rowsMove
  rcases h.ledger.outbox_pre ho' with ⟨o, ho, hsame⟩ | hnew
  · obtain ⟨p, hp, s, hs, hpid, hactive, hid, hst, hptask, htask⟩ := hlive.rows hc ho
    rw [hsame.planId, hsame.stepId, hsame.expectedStatuses]
    rcases h.ledger.not_discards ho' with ⟨hplans, hsteps⟩ | hkeep
    · rw [NavigationDb.ledger_plans] at hplans
      rw [NavigationDb.ledger_steps] at hsteps
      exact ⟨⟨p, hplans ▸ hp, hpid, hactive⟩, s, hsteps ▸ hs, hid, hst⟩
    rw [hsame.discards_iff] at hkeep
    obtain ⟨s', hs', hssame, hmove⟩ := hrows.step_post hs
    refine ⟨?_, s', hs', ⟨hssame.planId.trans hid.1, hssame.stepId.trans hid.2⟩, ?_⟩
    · rcases hrows.plan_post hp with ⟨p', hp', hpsame, hpmove⟩ | hnone
      · refine ⟨p', hp', hpsame.planId.trans hpid, ?_⟩
        rcases hpmove with heq | hw
        · exact heq.trans hactive
        · have hopen : s.status ≠ .completed := hc.expected_open ho hst
          exact absurd (hw.discards hsafe.keepsStaged hp hactive ho hpid hs hid hopen hptask) hkeep
      · exact absurd (htask.trans hptask.symm) (hnone s hs)
    · rcases hmove with heq | hw
      · exact heq ▸ hst
      · exact (hw.of_staged hsafe ho hid htask).resolve_right hkeep
  · obtain ⟨v, hv, htask, hactive, hst⟩ := hnew.joins
    obtain ⟨s', hs', hssame, hmove⟩ := hrows.step_post hv.step_mem
    refine ⟨?_, s', hs', ⟨hssame.planId.trans hv.step_planId, hssame.stepId.trans
      hv.step_stepId⟩, ?_⟩
    · rcases hrows.plan_post hv.plan_mem with ⟨p', hp', hpsame, hpmove⟩ | hnone
      · refine ⟨p', hp', hpsame.planId.trans hv.plan_planId, ?_⟩
        rcases hpmove with heq | hw
        · exact heq.trans hactive
        · cases hnew <;> cases hw
      · obtain ⟨q, hq, hqid, hqtask, _⟩ := hc.step_plan _ hv.step_mem
        obtain rfl := eq_of_key hv.plan_mem hq (hv.plan_planId.trans
          (hv.step_planId.symm.trans hqid.symm))
        exact absurd hqtask.symm (hnone _ hv.step_mem)
    · rcases hmove with heq | hw
      · exact heq ▸ hst
      · cases hnew <;> cases hw

theorem StepAction.name_not_blank (a : StepAction) : isBlank a.name = false := by
  cases a <;> decide

theorem OutboxLive.finalizes (hc : Consistent db) (hlive : OutboxLive db) (ho : o ∈ db.outbox)
    {s : StepRow} (hs : s ∈ db.steps) (hid : s.Is o.planId o.stepId) {t : TaskRow}
    (ht : t ∈ db.tasks) (htid : t.taskId = o.taskId) {call : Call} (howns : call.Owns t) :
    ∃ db', finalizeStagedStep call o.planId o.stepId s.toolName.name db = .ok (true, db') := by
  obtain ⟨p, hp, s', hs', hpid, hactive, hid', hst, _, htask⟩ := hlive.rows hc ho
  obtain rfl := eq_of_key hs hs' (Prod.ext (hid.1.trans hid'.1.symm) (hid.2.trans hid'.2.symm))
  obtain ⟨hweb, hagentscope⟩ := hc.session t ht
  have hauth : authorizeClaimTerminalization db o.planId o.stepId s.toolName.name call =
      .ok ⟨s, p, t⟩ := by
    refine authorizeClaimTerminalization_eq_ok.2 ⟨⟨?_, ?_⟩, ?_, rfl, hactive, howns⟩
    · simp [StepAction.name_not_blank]
    · unfold Call.Identified
      rw [howns.1, howns.2]
      simp [hweb, hagentscope]
    · exact ⟨hs, hp, ht, hid.1, hid.2, hpid, htid.trans htask.symm⟩
  have hfind : db.outbox.find? (o.planId, o.stepId) = some o :=
    Table.find?_eq_some_iff.2 ⟨ho, rfl⟩
  have hcount : db.steps.rowcount (Finishes db o) = 1 :=
    (Table.rowcount_eq_one_iff (k := (o.planId, o.stepId)) fun r _ hr => Prod.ext hr.1 hr.2.1).2
      ⟨s, hs, hid.1, hid.2, hst, p, hp, hpid.trans hid.1.symm, hactive⟩
  refine ⟨db.finishStep p o call.now, ?_⟩
  unfold finalizeStagedStep
  simp only [hauth, hfind, hcount]
  rfl

/-- In a run whose steps strand no staged result, each one can be finished by its owner. -/
theorem staged_results_finish {l : List (Transition NavigationDb Event)}
    (h : Run Step .initial l db) (hsafe : ∀ x ∈ l, StrandsNone x.pre x.label.1) :
    OutboxLive db ∧ ∀ o ∈ db.outbox, ∀ s ∈ db.steps, s.Is o.planId o.stepId →
      ∀ t ∈ db.tasks, t.taskId = o.taskId → ∀ call : Call, call.Owns t →
      ∃ db', finalizeStagedStep call o.planId o.stepId s.toolName.name db = .ok (true, db') := by
  have hc := Consistent.of_run h
  have hstart : OutboxLive .initial := fun o ho => absurd ho (Table.not_mem_empty o)
  have hok : ∀ x ∈ l, Consistent x.pre ∧ StrandsNone x.pre x.label.1 :=
    fun x hx => ⟨(hc.2 x hx).1, hsafe x hx⟩
  have hstep : ∀ x : Transition NavigationDb Event, OutboxLive x.pre →
      Consistent x.pre ∧ StrandsNone x.pre x.label.1 → Step x.pre x.label x.post →
      OutboxLive x.post := by
    rintro x hlive ⟨hc, hsafe⟩ hx
    exact hx.of_commit hlive fun r hr => hlive.commit hc (perform_commits hr) hsafe
  have hlive := (h.invariant hstart hok hstep).1
  exact ⟨hlive, fun o ho s hs hid t ht htid call howns =>
    hlive.finalizes hc.1 ho hs hid ht htid howns⟩

instance : DecidablePred OutboxLive := fun db => by
  unfold OutboxLive StepRow.Is
  infer_instance

instance (db : NavigationDb) (planId stepId : String) (st : StepStatus) :
    Decidable (StagedExpects db planId stepId st) := by
  unfold StagedExpects
  infer_instance

def workflowResult : StepResult where
  targetStatus := .completed
  fullResult := "{}"
  resultSummary := "{}"
  expectedStatuses := [.waitingUser]

def stagedWorkflow : List Op := Sample.setup ++
  [.markWorkflowStepWaitingUser (Sample.alice 2) "p" "track" "run_annotation_tracking_workflow",
   .stageStepResult (Sample.alice 3) "p" "track" "run_annotation_tracking_workflow" workflowResult]

/-- The waiting step is resumed after its result was staged. -/
def strandedWorkflow : List Op := stagedWorkflow ++
  [.resumeWaitingWorkflowStep (Sample.alice 4) "p" "track" "run_annotation_tracking_workflow"]

/-- The owner cannot finish the staged result of the resumed step. -/
theorem strandedWorkflow_not_live :
    Run Step .initial (stores.serve .initial strandedWorkflow)
        (stores.final .initial strandedWorkflow) ∧
      ¬ OutboxLive (stores.final .initial strandedWorkflow) ∧
      (execute (.finalizeStagedStep (Sample.alice 5) "p" "track"
        "run_annotation_tracking_workflow") (stores.final .initial strandedWorkflow)).1 =
          .ok (.flag false) :=
  ⟨stores.serve_run _ _, by decide, rfl⟩

theorem stagedWorkflow_strandsNone :
    ∀ x ∈ stores.serve .initial stagedWorkflow, StrandsNone x.pre x.label.1 := by
  simp only [stagedWorkflow, Sample.setup, Service.serve, List.cons_append, List.nil_append,
    List.forall_mem_cons]
  refine ⟨trivial, trivial, fun _ _ => ?_, trivial, by simp⟩
  decide

theorem stagedWorkflow_finishes : OutboxLive (stores.final .initial stagedWorkflow) :=
  (staged_results_finish (stores.serve_run _ _) stagedWorkflow_strandsNone).1

end DataJuicer.Navigation

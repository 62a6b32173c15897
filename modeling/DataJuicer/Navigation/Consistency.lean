import DataJuicer.Navigation.RowMoves

/-! # What every reachable database satisfies

The ledger rows belong to the plans they were inserted for, plans to tasks, staged results and
handoffs to ledger rows, and a task has at most one active plan. No operation, in any order
and with any arguments, breaks this.
-/

namespace DataJuicer.Navigation

open Table Transaction

def StepRow.Of (s : StepRow) (p : PlanRow) : Prop :=
  p.planId = s.planId ∧ p.taskId = s.taskId ∧
    ∃ row, p.plan.steps[s.sequence]? = some row ∧ row.stepId = s.stepId ∧ row.action = s.toolName

/-- The statuses a staged result can expect of its step. -/
def StepStatus.Expectable (s : StepStatus) : Prop := s = running ∨ s = pending ∨ s = waitingUser

theorem Stages.expectable {db : NavigationDb} {op : Op} {o : OutboxRow} (h : Stages db op o) :
    ∀ st ∈ o.expectedStatuses, st.Expectable := by
  cases h with
  | result _ _ hallowed _ ho =>
    subst ho
    intro st hst
    rcases hallowed with hr | ⟨_, hall, _⟩
    · rw [stagedRow, hr] at hst
      exact .inl (List.mem_singleton.1 hst)
    · exact .inr (hall st hst)
  | decision _ _ _ ho =>
    subst ho
    intro st hst
    exact .inr (by simpa [stagedRow, HumanDecision.result] using hst)

structure Consistent (db : NavigationDb) : Prop where
  session : ∀ t ∈ db.tasks, isBlank t.createdByWebSessionId = false ∧
    isBlank t.agentscopeSessionId = false
  plan_task : ∀ p ∈ db.plans, ∃ t ∈ db.tasks, t.taskId = p.taskId
  plan_phase : ∀ p ∈ db.plans, p.plan.phase = p.phase
  active_unique : ∀ p ∈ db.plans, ∀ q ∈ db.plans, p.status = .active → q.status = .active →
    p.taskId = q.taskId → p = q
  step_plan : ∀ s ∈ db.steps, ∃ p ∈ db.plans, s.Of p
  plan_step : ∀ p ∈ db.plans, ∀ i row, p.plan.steps[i]? = some row →
    ∃ s ∈ db.steps, s.Is p.planId row.stepId ∧ s.sequence = i
  outbox_step : ∀ o ∈ db.outbox, ∃ s ∈ db.steps, s.Is o.planId o.stepId ∧ s.taskId = o.taskId
  outbox_expected : ∀ o ∈ db.outbox, ∀ st ∈ o.expectedStatuses, st.Expectable
  handoff_step : ∀ h ∈ db.handoffs, ∃ s ∈ db.steps, s.Is h.planId h.stepId ∧ s.taskId = h.taskId

variable {db db' : NavigationDb} {op : Op}

theorem PlanMove.active {p p' : PlanRow} (h : PlanMove db op p p') (hp : p'.status = .active) :
    p.status = .active := by
  rcases h.2 with hs | hw
  · exact hs ▸ hp
  · rw [hp] at hw
    cases hw

section RowsMove

variable {plans : Table PlanRow} {steps : Table StepRow}

theorem RowsMove.plan_pre (h : RowsMove db op plans steps) {p' : PlanRow} (hp' : p' ∈ plans) :
    (∃ p ∈ db.plans, PlanMove db op p p') ∨ Activates db op p' := by
  cases h with
  | changed h => exact .inl (h.exists_pre p' hp')
  | activated ha h _ hmem =>
    rcases (hmem p').1 hp' with hp' | rfl
    · exact .inl (h.exists_pre p' hp')
    · exact .inr ha
  | deleted _ hmem => exact .inl ⟨p', ((hmem p').1 hp').1, .refl p'⟩

theorem RowsMove.active_pre (h : RowsMove db op plans steps) {p' : PlanRow} (hp' : p' ∈ plans)
    (hactive : p'.status = .active) :
    (∃ p ∈ db.plans, p.Same p' ∧ p.status = .active) ∨ Activates db op p' := by
  rcases h.plan_pre hp' with ⟨p, hp, hmove⟩ | ha
  · exact .inl ⟨p, hp, hmove.1, hmove.active hactive⟩
  · exact .inr ha

theorem RowsMove.plan_post (h : RowsMove db op plans steps) {p : PlanRow} (hp : p ∈ db.plans) :
    (∃ p' ∈ plans, PlanMove db op p p') ∨ ∀ s ∈ db.steps, s.taskId ≠ p.taskId := by
  cases h with
  | changed h => exact .inl (h.exists_post p hp)
  | activated _ h _ hmem =>
    obtain ⟨p', hp', hmove⟩ := h.exists_post p hp
    exact .inl ⟨p', (hmem p').2 (.inl hp'), hmove⟩
  | @deleted _ taskId _ _ hmem _ hnone =>
    by_cases hid : p.taskId = taskId
    · exact .inr (hid ▸ hnone)
    · exact .inl ⟨p, (hmem p).2 ⟨hp, hid⟩, .refl p⟩

theorem RowsMove.step_pre (h : RowsMove db op plans steps) {s' : StepRow} (hs' : s' ∈ steps) :
    (∃ s ∈ db.steps, StepMove db op s s') ∨
      ∃ record ∈ plans, Activates db op record ∧ ∃ i row, record.plan.steps[i]? = some row ∧
        s' = ledgerRow record row i := by
  cases h with
  | changed _ h => exact .inl (h.exists_pre s' hs')
  | activated ha _ _ hplans hmem =>
    rcases (hmem s').1 hs' with hs' | hnew
    · exact .inl ⟨s', hs', .refl s'⟩
    · exact .inr ⟨_, (hplans _).2 (.inr rfl), ha, hnew⟩
  | deleted _ _ hsteps =>
    subst hsteps
    exact .inl ⟨s', hs', .refl s'⟩

theorem RowsMove.step_post (h : RowsMove db op plans steps) {s : StepRow} (hs : s ∈ db.steps) :
    ∃ s' ∈ steps, StepMove db op s s' := by
  cases h with
  | changed _ h => exact h.exists_post s hs
  | activated _ _ _ _ hmem => exact ⟨s, (hmem s).2 (.inl hs), .refl s⟩
  | deleted _ _ hsteps =>
    subst hsteps
    exact ⟨s, hs, .refl s⟩

/-- A plan that was there before comes from itself. -/
theorem RowsMove.plan_of_key (h : RowsMove db op plans steps) {p p' : PlanRow} (hp : p ∈ db.plans)
    (hp' : p' ∈ plans) (hid : p'.planId = p.planId) : PlanMove db op p p' := by
  rcases h.plan_pre hp' with ⟨p₀, hp₀, hmove⟩ | ha
  · obtain rfl := eq_of_key hp₀ hp (hmove.1.planId.symm.trans hid)
    exact hmove
  · cases ha with
    | intro _ _ _ _ hrecord hnew => exact absurd (by rw [← hid, hrecord]; rfl) (hnew p hp)

theorem RowsMove.step_of_key (h : RowsMove db op plans steps) {s s' : StepRow} (hs : s ∈ db.steps)
    (hs' : s' ∈ steps) (hid : s'.Is s.planId s.stepId) : StepMove db op s s' := by
  obtain ⟨s₁, hs₁, hmove⟩ := h.step_post hs
  obtain rfl := eq_of_key hs₁ hs' (Prod.ext (hmove.1.planId.trans hid.1.symm)
    (hmove.1.stepId.trans hid.2.symm))
  exact hmove

end RowsMove

theorem TaskMove.taskId {t t' : TaskRow} (h : TaskMove db op t t') : t'.taskId = t.taskId := by
  cases h with
  | triggered h => obtain ⟨n, rfl⟩ := h; rfl
  | written _ _ h | activated _ _ h | merged _ _ _ h | guided _ _ _ h => rw [h]; rfl

theorem TaskMove.session {t t' : TaskRow} (h : TaskMove db op t t') :
    t'.createdByWebSessionId = t.createdByWebSessionId ∧
      t'.agentscopeSessionId = t.agentscopeSessionId := by
  cases h with
  | triggered h => obtain ⟨n, rfl⟩ := h; exact ⟨rfl, rfl⟩
  | written _ _ h | activated _ _ h | merged _ _ _ h | guided _ _ _ h => rw [h]; exact ⟨rfl, rfl⟩

theorem TasksMove.exists_pre {tasks : Table TaskRow} (h : TasksMove db op tasks) {t' : TaskRow}
    (ht' : t' ∈ tasks) : (∃ t ∈ db.tasks, TaskMove db op t t') ∨
      (∀ t ∈ db.tasks, t.taskId ≠ t'.taskId) ∧ t'.status = .active ∧
        t'.acceptedPlanPhase = none ∧ isBlank t'.createdByWebSessionId = false ∧
        isBlank t'.agentscopeSessionId = false := by
  cases h with
  | changed h => exact .inl (h.exists_pre t' ht')
  | created hstatus hphase hweb hagentscope hnew hgrown h =>
    obtain ⟨t, ht, n, rfl⟩ := h.exists_pre t' ht'
    rcases (hgrown t).1 ht with ht | rfl
    · exact .inl ⟨t, ht, .triggered ⟨n, rfl⟩⟩
    · exact .inr ⟨hnew, hstatus, hphase, hweb, hagentscope⟩
  | deleted _ _ _ hrest h =>
    obtain ⟨t, ht, hb⟩ := h.exists_pre t' ht'
    exact .inl ⟨t, ((hrest t).1 ht).1, .triggered hb⟩

/-- A task stays unless it is deleted. -/
theorem TasksMove.exists_post {tasks : Table TaskRow} (h : TasksMove db op tasks) {t : TaskRow}
    (ht : t ∈ db.tasks) : (∃ t' ∈ tasks, TaskMove db op t t') ∨
      ∃ call rev, op = .deleteTaskIfCurrent call t.taskId rev := by
  cases h with
  | changed h => exact .inl (h.exists_post t ht)
  | created _ _ _ _ _ hgrown h =>
    obtain ⟨t', ht', hb⟩ := h.exists_post t ((hgrown t).2 (.inl ht))
    exact .inl ⟨t', ht', .triggered hb⟩
  | @deleted call taskId rev _ _ _ _ _ _ hrest h =>
    by_cases hid : t.taskId = taskId
    · exact .inr ⟨call, rev, by rw [hid]⟩
    · obtain ⟨t', ht', hb⟩ := h.exists_post t ((hrest t).2 ⟨ht, hid⟩)
      exact .inl ⟨t', ht', .triggered hb⟩

/-- A task of a committed database that was there before comes from itself. -/
theorem TasksMove.of_taskId {tasks : Table TaskRow} (h : TasksMove db op tasks) {t t' : TaskRow}
    (ht : t ∈ db.tasks) (ht' : t' ∈ tasks) (hid : t'.taskId = t.taskId) : TaskMove db op t t' := by
  rcases h.exists_pre ht' with ⟨t₀, ht₀, hmove⟩ | ⟨hnew, _⟩
  · obtain rfl := eq_of_key ht₀ ht (hmove.taskId.symm.trans hid)
    exact hmove
  · exact absurd hid.symm (hnew t ht)

theorem perform_keeps_task {r : Reply} (h : perform op db = .ok (r, db')) {p : PlanRow}
    (hp : p ∈ db'.plans) {t : TaskRow} (ht : t ∈ db.tasks) (hid : t.taskId = p.taskId) :
    ∃ t' ∈ db'.tasks, t'.taskId = p.taskId := by
  rcases (perform_commits h).tasks.exists_post ht with ⟨t', ht', hmove⟩ | ⟨call, rev, rfl⟩
  · exact ⟨t', ht', hmove.taskId.trans hid⟩
  · obtain ⟨b, h, _⟩ := answer_eq_ok.1 h
    unfold deleteTaskIfCurrent at h
    split at h
    · split_ifs at h
      cases h
      exact ⟨t, ht, hid⟩
    · split_ifs at h
      · obtain ⟨_, _, h⟩ := bind_eq_ok.1 h
        cases h
        exact absurd hid.symm (mem_delete.1 hp).2
      · cases h
        exact ⟨t, ht, hid⟩

namespace Consistent

variable {r : Reply}

theorem plan_task_step (hc : Consistent db) (h : perform op db = .ok (r, db')) :
    ∀ p ∈ db'.plans, ∃ t ∈ db'.tasks, t.taskId = p.taskId := by
  intro p' hp'
  rcases (perform_commits h).ledger.rowsMove.plan_pre hp' with ⟨p, hp, hmove⟩ | ha
  · obtain ⟨t, ht, hid⟩ := hc.plan_task p hp
    exact perform_keeps_task h hp' ht (hid.trans hmove.1.taskId.symm)
  · cases ha with
    | intro ht hid _ _ hrecord =>
      subst hrecord
      exact perform_keeps_task h hp' ht hid

theorem active_unique_step (hc : Consistent db) {plans : Table PlanRow} {steps : Table StepRow}
    (h : RowsMove db op plans steps) : ∀ p ∈ plans, ∀ q ∈ plans, p.status = .active →
      q.status = .active → p.taskId = q.taskId → p = q := by
  have hrows : ∀ kept : Table PlanRow, Rowwise (PlanMove db op) db.plans kept → ∀ p' ∈ kept,
      ∀ q' ∈ kept, p'.status = .active → q'.status = .active → p'.taskId = q'.taskId → p' = q' := by
    intro kept h p' hp' q' hq' hpa hqa hid
    obtain ⟨p, hp, hpm⟩ := h.exists_pre p' hp'
    obtain ⟨q, hq, hqm⟩ := h.exists_pre q' hq'
    obtain rfl := hc.active_unique p hp q hq (hpm.active hpa) (hqm.active hqa)
      (hpm.1.taskId.symm.trans (hid.trans hqm.1.taskId))
    exact eq_of_key hp' hq' (hpm.1.planId.trans hqm.1.planId.symm)
  cases h with
  | changed h => exact hrows plans h
  | activated _ h hidle hmem =>
    intro p' hp' q' hq' hpa hqa hid
    rcases (hmem p').1 hp' with hp' | rfl <;> rcases (hmem q').1 hq' with hq' | rfl
    · exact hrows _ h p' hp' q' hq' hpa hqa hid
    · exact absurd hpa (hidle p' hp' hid)
    · exact absurd hqa (hidle q' hq' hid.symm)
    · rfl
  | deleted _ hmem =>
    exact fun p hp q hq => hc.active_unique p ((hmem p).1 hp).1 q ((hmem q).1 hq).1

theorem step_plan_step (hc : Consistent db) {plans : Table PlanRow} {steps : Table StepRow}
    (h : RowsMove db op plans steps) : ∀ s ∈ steps, ∃ p ∈ plans, s.Of p := by
  intro s' hs'
  rcases h.step_pre hs' with ⟨s, hs, hmove, _⟩ | ⟨record, hrecord, _, i, row, hrow, rfl⟩
  · obtain ⟨p, hp, hid, htask, hof⟩ := hc.step_plan s hs
    rcases h.plan_post hp with ⟨p', hp', hsame, _⟩ | hnone
    · refine ⟨p', hp', ?_⟩
      unfold StepRow.Of
      rw [hsame.planId, hsame.taskId, hsame.plan, hmove.planId, hmove.taskId, hmove.sequence,
        hmove.stepId, hmove.toolName]
      exact ⟨hid, htask, hof⟩
    · exact absurd htask.symm (hnone s hs)
  · exact ⟨record, hrecord, rfl, rfl, row, hrow, rfl, rfl⟩

theorem plan_step_step (hc : Consistent db) {plans : Table PlanRow} {steps : Table StepRow}
    (h : RowsMove db op plans steps) : ∀ p ∈ plans, ∀ i row, p.plan.steps[i]? = some row →
      ∃ s ∈ steps, s.Is p.planId row.stepId ∧ s.sequence = i := by
  have hkept : ∀ p' p, p ∈ db.plans → p.Same p' → ∀ i row, p'.plan.steps[i]? = some row →
      ∃ s ∈ steps, s.Is p'.planId row.stepId ∧ s.sequence = i := by
    intro p' p hp hsame i row hrow
    rw [hsame.plan] at hrow
    obtain ⟨s, hs, ⟨hid, hstep⟩, hseq⟩ := hc.plan_step p hp i row hrow
    obtain ⟨s', hs', hmove, _⟩ := h.step_post hs
    exact ⟨s', hs', ⟨hmove.planId.trans (hid.trans hsame.planId.symm), hmove.stepId.trans hstep⟩,
      hmove.sequence.trans hseq⟩
  intro p' hp' i row hrow
  rcases h.plan_pre hp' with ⟨p, hp, hsame, _⟩ | ha
  · exact hkept p' p hp hsame i row hrow
  · cases h with
    | changed hplans =>
      obtain ⟨p, hp, hsame, _⟩ := hplans.exists_pre p' hp'
      exact hkept p' p hp hsame i row hrow
    | activated _ hplans _ hmem hsteps =>
      rcases (hmem p').1 hp' with hp' | rfl
      · obtain ⟨p, hp, hsame, _⟩ := hplans.exists_pre p' hp'
        exact hkept p' p hp hsame i row hrow
      · exact ⟨_, (hsteps _).2 (.inr ⟨i, row, hrow, rfl⟩), ⟨rfl, rfl⟩, rfl⟩
    | deleted _ hmem => exact hkept p' p' ((hmem p').1 hp').1 (.refl p') i row hrow

theorem perform (hc : Consistent db) (h : perform op db = .ok (r, db')) : Consistent db' := by
  have hcommit := perform_commits h
  have hrows := hcommit.ledger.rowsMove
  have hstep : ∀ {planId stepId taskId : String}, (∃ s ∈ db.steps, s.Is planId stepId ∧
      s.taskId = taskId) → ∃ s ∈ db'.steps, s.Is planId stepId ∧ s.taskId = taskId := by
    rintro _ _ _ ⟨s, hs, ⟨rfl, rfl⟩, rfl⟩
    obtain ⟨s', hs', hmove, _⟩ := hrows.step_post hs
    exact ⟨s', hs', ⟨hmove.planId, hmove.stepId⟩, hmove.taskId⟩
  constructor
  case session =>
    intro t' ht'
    rcases hcommit.tasks.exists_pre ht' with ⟨t, ht, hmove⟩ | ⟨_, _, _, hsession⟩
    · rw [hmove.session.1, hmove.session.2]
      exact hc.session t ht
    · exact hsession
  case plan_task => exact hc.plan_task_step h
  case plan_phase =>
    intro p' hp'
    rcases hrows.plan_pre hp' with ⟨p, hp, hmove⟩ | ha
    · rw [hmove.1.plan, hmove.1.phase]
      exact hc.plan_phase p hp
    · cases ha with
      | intro _ _ hphase _ hrecord => subst hrecord; exact hphase
  case active_unique => exact hc.active_unique_step hrows
  case step_plan => exact hc.step_plan_step hrows
  case plan_step => exact hc.plan_step_step hrows
  case outbox_step =>
    intro o' ho'
    rcases hcommit.ledger.outbox_pre ho' with ⟨o, ho, hsame⟩ | hnew
    · rw [hsame.planId, hsame.stepId, hsame.taskId]
      exact hstep (hc.outbox_step o ho)
    · obtain ⟨v, hv, htask, _⟩ := hnew.joins
      exact hstep ⟨v.step, hv.step_mem, ⟨hv.step_planId, hv.step_stepId⟩, htask⟩
  case outbox_expected =>
    intro o' ho'
    rcases hcommit.ledger.outbox_pre ho' with ⟨o, ho, hsame⟩ | hnew
    · rw [hsame.expectedStatuses]
      exact hc.outbox_expected o ho
    · exact hnew.expectable
  case handoff_step =>
    intro h' hh'
    rcases hcommit.ledger.handoff_pre hh' with ⟨h, hh, h₁, h₂, h₃⟩ | ⟨v, hv, htask, _⟩
    · rw [h₁, h₂, h₃]
      exact hstep (hc.handoff_step h hh)
    · exact hstep ⟨v.step, hv.step_mem, ⟨hv.step_planId, hv.step_stepId⟩, htask⟩

end Consistent

theorem Consistent.initial : Consistent .initial := by
  constructor <;> exact fun _ h => absurd h (Table.not_mem_empty _)

/-- Consistency is kept by every request, whether it commits or raises. -/
theorem Consistent.step {e : Event} (hc : Consistent db) (h : Step db e db') : Consistent db' :=
  h.of_commit hc fun _ hr => hc.perform hr

theorem Consistent.of_run {l : List (Transition NavigationDb Event)} (h : Run Step .initial l db) :
    Consistent db ∧ ∀ x ∈ l, Consistent x.pre ∧ Consistent x.post := by
  have hstep : ∀ x : Transition NavigationDb Event, Consistent x.pre → True →
      Step x.pre x.label x.post → Consistent x.post := fun _ hc _ hx => hc.step hx
  exact h.invariant Consistent.initial (fun _ _ => trivial) hstep

theorem Consistent.plan_task_of_joins (hc : Consistent db) {planId stepId : String} {v : StepView}
    (hv : v.Joins db planId stepId) : v.plan.taskId = v.step.taskId := by
  obtain ⟨p, hp, hpid, htask, _⟩ := hc.step_plan _ hv.step_mem
  obtain rfl := eq_of_key hv.plan_mem hp
    (hv.plan_planId.trans (hv.step_planId.symm.trans hpid.symm))
  exact htask

theorem Consistent.task_of_joins (hc : Consistent db) {planId stepId : String} {v : StepView}
    (hv : v.Joins db planId stepId) {t : TaskRow} (ht : t ∈ db.tasks)
    (hid : t.taskId = v.plan.taskId) : t = v.task :=
  eq_of_key ht hv.task_mem
    (hid.trans ((hc.plan_task_of_joins hv).trans hv.task_taskId.symm))

theorem Consistent.staged_task (hc : Consistent db) {call : Call} {planId stepId action : String}
    {v : StepView} {staged : OutboxRow} (h : Finalizable db call planId stepId action v staged) :
    staged.taskId = v.plan.taskId := by
  obtain ⟨s, hs, hid, htask⟩ := hc.outbox_step staged h.staged_mem
  obtain rfl := h.joins.eq_step hs ⟨hid.1.trans h.staged_id.1, hid.2.trans h.staged_id.2⟩
  exact htask.symm.trans (hc.plan_task_of_joins h.joins).symm

theorem not_idle_of_staged {o : OutboxRow} (ho : o ∈ db.outbox) :
    ActivePlanHasInFlightWork db o.planId :=
  .inr (.inl ⟨o, ho, rfl⟩)

theorem Consistent.expected_open (hc : Consistent db) {o : OutboxRow} (ho : o ∈ db.outbox)
    {st : StepStatus} (hst : st ∈ o.expectedStatuses) : st ≠ .completed := by
  rintro rfl
  rcases hc.outbox_expected o ho _ hst with h | h | h <;> cases h

/-- An operation that gives up an active plan with a step in flight leaves no other result. -/
def KeepsStaged (db : NavigationDb) : Op → Prop
  | .recoverRunningStepWithoutResult call planId stepId _ action => ∀ v,
      Recoverable db call planId stepId action v → ∀ o ∈ db.outbox, o.planId ≠ planId
  | .quarantineHumanDecisionHandoff now web planId stepId reason => ∀ h,
      Quarantinable db now web planId stepId reason h →
      (∃ p ∈ db.plans, p.planId = planId ∧ p.status = .active) →
      ∀ o ∈ db.outbox, o.planId = planId → o.stepId = stepId
  | _ => True

/-- The plan of a staged result leaves `active` only when the result is removed. -/
theorem PlanWrite.discards (hkeeps : KeepsStaged db op) {p : PlanRow} {st : PlanStatus}
    (h : PlanWrite db op p st) (hp : p ∈ db.plans) (hactive : p.status = .active) {o : OutboxRow}
    (ho : o ∈ db.outbox) (hpid : p.planId = o.planId) {s : StepRow} (hs : s ∈ db.steps)
    (hid : s.Is o.planId o.stepId) (hst : s.status ≠ .completed) (htask : p.taskId = o.taskId) :
    Discards db op o := by
  cases h with
  | superseded hid' _ hidle => exact absurd ⟨p, hp, hid', hpid ▸ not_idle_of_staged ho⟩ hidle
  | invalidated hid' h => exact absurd (hid'.symm.trans hpid ▸ not_idle_of_staged ho) h.idle
  | replanned hid' _ h => exact absurd (hid'.symm.trans hpid ▸ not_idle_of_staged ho) h.idle
  | terminalized hid' _ h => exact absurd (hid'.symm.trans hpid ▸ not_idle_of_staged ho) h.idle
  | completed hid' _ _ _ hlast =>
    have hoid := hpid.symm.trans hid'
    refine ⟨hoid, by_contra fun hne => hst (hlast s hs (hid.1.trans hoid) (hid.2 ▸ hne))⟩
  | recovered hid' _ h => exact absurd (hpid.symm.trans hid') (hkeeps _ h o ho)
  | quarantined hid' h =>
    have hoid := hpid.symm.trans hid'
    exact ⟨hoid, hkeeps _ h ⟨p, hp, hid', hactive⟩ o ho hoid⟩
  | reset hid' =>
    rw [htask] at hid'
    exact hid'

end DataJuicer.Navigation

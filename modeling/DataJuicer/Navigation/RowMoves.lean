import DataJuicer.Navigation.Commits

/-! # What a request does to a plan and to a step

The ledger moves, read row by row: which operation gives which status to a plan or to a step,
and with which checks. All other columns of these rows never change.
-/

namespace DataJuicer.Navigation

open Table

/-- The columns of a plan that are written once. -/
structure PlanRow.Same (p p' : PlanRow) : Prop where
  planId : p'.planId = p.planId
  taskId : p'.taskId = p.taskId
  phase : p'.phase = p.phase
  planRevision : p'.planRevision = p.planRevision
  observationRevision : p'.observationRevision = p.observationRevision
  plan : p'.plan = p.plan

/-- The columns of a ledger step that are written once. -/
structure StepRow.Same (s s' : StepRow) : Prop where
  planId : s'.planId = s.planId
  stepId : s'.stepId = s.stepId
  taskId : s'.taskId = s.taskId
  toolName : s'.toolName = s.toolName
  planRevision : s'.planRevision = s.planRevision
  sequence : s'.sequence = s.sequence

theorem PlanRow.Same.refl (p : PlanRow) : p.Same p := ⟨rfl, rfl, rfl, rfl, rfl, rfl⟩

theorem StepRow.Same.refl (s : StepRow) : s.Same s := ⟨rfl, rfl, rfl, rfl, rfl, rfl⟩

inductive Activates (db : NavigationDb) : Op → PlanRow → Prop
  | intro {call : Call} {a : Activation} {record : PlanRow} {t : TaskRow} (ht : t ∈ db.tasks)
      (hid : t.taskId = a.taskId) (hphase : a.plan.phase = a.phase)
      (hidle : ¬ TaskHasInFlightWork db a.taskId)
      (hrecord : record = a.record (latestPlanRevision db a.taskId a.phase + 1) call.now)
      (hnew : ∀ p ∈ db.plans, p.planId ≠ a.planId)
      (hsteps : ∀ s ∈ db.steps, ∀ r ∈ a.plan.steps, key s ≠ (a.planId, r.stepId)) :
      Activates db (.activate call a) record

inductive PlanWrite (db : NavigationDb) : Op → PlanRow → PlanStatus → Prop
  | superseded {call : Call} {a : Activation} {p : PlanRow} (hid : p.taskId = a.taskId)
      (hactive : p.status = .active) (hidle : ¬ TaskHasInFlightWork db a.taskId) :
      PlanWrite db (.activate call a) p .superseded
  | invalidated {call : Call} {planId reason : String} {p : PlanRow} (hid : p.planId = planId)
      (h : Invalidatable db call planId) :
      PlanWrite db (.invalidate call planId reason) p .invalidated
  | completed {call : Call} {planId stepId action : String} {v : StepView} {staged : OutboxRow}
      {p : PlanRow} (hid : p.planId = planId) (hactive : p.status = .active)
      (h : Finalizable db call planId stepId action v staged)
      (htarget : staged.targetStatus = .completed)
      (hlast : ∀ s ∈ db.steps, s.planId = planId → s.stepId ≠ stepId → s.status = .completed) :
      PlanWrite db (.finalizeStagedStep call planId stepId action) p .completed
  | recovered {call : Call} {planId stepId reason action : String} {v : StepView} {p : PlanRow}
      (hid : p.planId = planId) (hactive : p.status = .active)
      (h : Recoverable db call planId stepId action v) :
      PlanWrite db (.recoverRunningStepWithoutResult call planId stepId reason action) p
        .invalidated
  | replanned {call : Call} {planId reason : String} {p q : PlanRow} (hid : p.planId = planId)
      (hactive : p.status = .active) (h : Replannable db call planId q) :
      PlanWrite db (.markNeedsReplan call planId reason) p .invalidated
  | terminalized {call : Call} {planId stepId reason action : String} {v : StepView} {p : PlanRow}
      (hid : p.planId = planId) (hactive : p.status = .active)
      (h : Terminalizable db call planId stepId action v) :
      PlanWrite db (.markTerminalizedClaimNeedsReplan call planId stepId reason action) p
        .invalidated
  | quarantined {now : Timestamp} {web planId stepId reason : String} {h : HandoffRow}
      {p : PlanRow} (hid : p.planId = planId)
      (hq : Quarantinable db now web planId stepId reason h) :
      PlanWrite db (.quarantineHumanDecisionHandoff now web planId stepId reason) p .invalidated
  | reset {now : Timestamp} {date resetRef : String} {p : PlanRow}
      (hid : p.taskId ∈ nonterminalTaskIds db date) (hactive : p.status = .active) :
      PlanWrite db (.cancelNonterminalForDatasetReset now date resetRef) p .invalidated

inductive StepWrite (db : NavigationDb) : Op → StepRow → StepStatus → Prop
  | claimed {call : Call} {planId stepId action : String} {v : StepView}
      (h : Claimable db call planId stepId action v) :
      StepWrite db (.claimStep call planId stepId action) v.step .running
  | waited {call : Call} {planId stepId action : String} {s : StepRow}
      (h : Waitable db call planId stepId action s) :
      StepWrite db (.markWaitingUser call planId stepId action) s .waitingUser
  | resumed {call : Call} {planId stepId action : String} {v : StepView}
      (h : Resumable db call planId stepId action v) :
      StepWrite db (.resumeWaitingWorkflowStep call planId stepId action) v.step .running
  | workflowWaited {call : Call} {planId stepId action : String} {v : StepView}
      (h : WorkflowWaitable db call planId stepId action v) :
      StepWrite db (.markWorkflowStepWaitingUser call planId stepId action) v.step .waitingUser
  | finished {call : Call} {planId stepId action : String} {v : StepView} {staged : OutboxRow}
      (h : Finalizable db call planId stepId action v staged) :
      StepWrite db (.finalizeStagedStep call planId stepId action) v.step
        staged.targetStatus.toStep
  | recovered {call : Call} {planId stepId reason action : String} {v : StepView} {s : StepRow}
      (hid : s.planId = planId) (hs : s.status ≠ .completed)
      (h : Recoverable db call planId stepId action v) :
      StepWrite db (.recoverRunningStepWithoutResult call planId stepId reason action) s
        .needsReplan
  | replanned {call : Call} {planId reason : String} {s : StepRow} {q : PlanRow}
      (hid : s.planId = planId) (hs : s.status ≠ .completed) (h : Replannable db call planId q) :
      StepWrite db (.markNeedsReplan call planId reason) s .needsReplan
  | terminalized {call : Call} {planId stepId reason action : String} {s : StepRow}
      {v : StepView} (hid : s.planId = planId) (hs : s.status ≠ .completed)
      (h : Terminalizable db call planId stepId action v) :
      StepWrite db (.markTerminalizedClaimNeedsReplan call planId stepId reason action) s
        .needsReplan
  | quarantined {now : Timestamp} {web planId stepId reason : String} {h : HandoffRow}
      {s : StepRow} (hid : s.planId = planId) (hs : s.status ≠ .completed)
      (hq : Quarantinable db now web planId stepId reason h) :
      StepWrite db (.quarantineHumanDecisionHandoff now web planId stepId reason) s .needsReplan
  | reset {now : Timestamp} {date resetRef : String} {s : StepRow}
      (hid : s.taskId ∈ nonterminalTaskIds db date) (hs : s.status ≠ .completed) :
      StepWrite db (.cancelNonterminalForDatasetReset now date resetRef) s .failed

/-- The columns of a staged result that are written once. -/
structure OutboxRow.Same (o o' : OutboxRow) : Prop where
  planId : o'.planId = o.planId
  stepId : o'.stepId = o.stepId
  taskId : o'.taskId = o.taskId
  targetStatus : o'.targetStatus = o.targetStatus
  expectedStatuses : o'.expectedStatuses = o.expectedStatuses

theorem OutboxRow.Same.refl (o : OutboxRow) : o.Same o := ⟨rfl, rfl, rfl, rfl, rfl⟩

theorem StepView.Joins.self {db : NavigationDb} {planId stepId : String} {v : StepView}
    (hv : v.Joins db planId stepId) : v.Joins db v.step.planId v.step.stepId := by
  obtain rfl := hv.step_planId
  obtain rfl := hv.step_stepId
  exact hv

/-- A staged result that an operation inserts. -/
inductive Stages (db : NavigationDb) : Op → OutboxRow → Prop
  | result {call : Call} {planId stepId action ref : String} {result : StepResult} {v : StepView}
      {o : OutboxRow} (hv : v.Joins db planId stepId) (hactive : v.plan.status = .active)
      (hallowed : StagingAllowed action result.expectedStatuses)
      (hstatus : v.step.status ∈ result.expectedStatuses)
      (ho : o = stagedRow v result ref call.now) :
      Stages db (.stageStepResult call planId stepId action result) o
  | decision {call : Call} {planId stepId ref : String} {d : HumanDecision} {v : StepView}
      {o : OutboxRow} (hv : v.Joins db planId stepId) (hactive : v.plan.status = .active)
      (hstatus : v.step.status = .pending ∨ v.step.status = .waitingUser)
      (ho : o = stagedRow v d.result ref call.now) :
      Stages db (.stageHumanDecisionHandoff call planId stepId d) o

theorem Stages.joins {db : NavigationDb} {op : Op} {o : OutboxRow} (h : Stages db op o) :
    ∃ v : StepView, v.Joins db o.planId o.stepId ∧ v.step.taskId = o.taskId ∧
      v.plan.status = .active ∧ v.step.status ∈ o.expectedStatuses := by
  cases h with
  | result hv hactive _ hstatus ho =>
    subst ho
    exact ⟨_, hv.self, rfl, hactive, hstatus⟩
  | decision hv hactive hstatus ho =>
    subst ho
    exact ⟨_, hv.self, rfl, hactive,
      by simpa [stagedRow, HumanDecision.result] using hstatus⟩

/-- How a committed operation changes a plan. -/
def PlanMove (db : NavigationDb) (op : Op) (p p' : PlanRow) : Prop :=
  p.Same p' ∧ (p'.status = p.status ∨ PlanWrite db op p p'.status)

/-- How a committed operation changes a step. -/
def StepMove (db : NavigationDb) (op : Op) (s s' : StepRow) : Prop :=
  s.Same s' ∧ (s'.status = s.status ∨ StepWrite db op s s'.status)

theorem PlanMove.refl {db : NavigationDb} {op : Op} (p : PlanRow) : PlanMove db op p p :=
  ⟨.refl p, .inl rfl⟩

theorem StepMove.refl {db : NavigationDb} {op : Op} (s : StepRow) : StepMove db op s s :=
  ⟨.refl s, .inl rfl⟩

inductive RowsMove (db : NavigationDb) (op : Op) (plans : Table PlanRow) (steps : Table StepRow) :
    Prop
  | changed (hplans : Rowwise (PlanMove db op) db.plans plans)
      (hsteps : Rowwise (StepMove db op) db.steps steps)
  | activated {record : PlanRow} (ha : Activates db op record) {kept : Table PlanRow}
      (hkept : Rowwise (PlanMove db op) db.plans kept)
      (hidle : ∀ p ∈ kept, p.taskId = record.taskId → p.status ≠ .active)
      (hplans : ∀ p, p ∈ plans ↔ p ∈ kept ∨ p = record)
      (hsteps : ∀ s, s ∈ steps ↔ s ∈ db.steps ∨ ∃ i step, record.plan.steps[i]? = some step ∧
        s = ledgerRow record step i)
  | deleted {call : Call} {taskId : String} {rev : ℕ}
      (hop : op = .deleteTaskIfCurrent call taskId rev)
      (hplans : ∀ p, p ∈ plans ↔ p ∈ db.plans ∧ p.taskId ≠ taskId) (hsteps : steps = db.steps)
      (hnone : ∀ s ∈ db.steps, s.taskId ≠ taskId)

section Moves

variable {db : NavigationDb} {op : Op} {l : Ledger} {planId stepId : String}

theorem plansKept : Rowwise (PlanMove db op) db.plans db.plans := Rowwise.refl fun p _ => .refl p

theorem stepsKept : Rowwise (StepMove db op) db.steps db.steps := Rowwise.refl fun s _ => .refl s

theorem rowwise_stepMove {steps : Table StepRow} {q : StepRow → Prop} [DecidablePred q]
    {f : StepRow → StepRow} (h : steps.rows = db.steps.rows.map fun s => if q s then f s else s)
    (hw : ∀ s ∈ db.steps, q s → StepWrite db op s (f s).status)
    (hsame : ∀ s : StepRow, s.Same (f s) := by exact fun _ => ⟨rfl, rfl, rfl, rfl, rfl, rfl⟩) :
    Rowwise (StepMove db op) db.steps steps := by
  refine Rowwise.of_map h fun s hs => ?_
  split_ifs with hq
  · exact ⟨hsame s, .inr (hw s hs hq)⟩
  · exact .refl s

theorem rowwise_planMove {plans : Table PlanRow} {q : PlanRow → Prop} [DecidablePred q]
    {f : PlanRow → PlanRow} (h : plans.rows = db.plans.rows.map fun p => if q p then f p else p)
    (hw : ∀ p ∈ db.plans, q p → PlanWrite db op p (f p).status)
    (hsame : ∀ p : PlanRow, p.Same (f p) := by exact fun _ => ⟨rfl, rfl, rfl, rfl, rfl, rfl⟩) :
    Rowwise (PlanMove db op) db.plans plans := by
  refine Rowwise.of_map h fun p hp => ?_
  split_ifs with hq
  · exact ⟨hsame p, .inr (hw p hp hq)⟩
  · exact .refl p

theorem StepView.Joins.eq_step {v : StepView} (hv : v.Joins db planId stepId) {s : StepRow}
    (hs : s ∈ db.steps) (hid : s.Is planId stepId) : s = v.step :=
  eq_of_key hs hv.step_mem (Prod.ext (hid.1.trans hv.step_planId.symm)
    (hid.2.trans hv.step_stepId.symm))

section Activation

variable {taskId : String} {now : Timestamp} {record : PlanRow} {plans : Table PlanRow}

theorem mem_supersedePlans {p : PlanRow} (hp : p ∈ db.plans) :
    (if p.taskId = taskId ∧ p.status = .active then
      { p with status := .superseded, updatedAt := utcNow now } else p) ∈
      (db.supersedePlans taskId now).plans :=
  List.mem_map.2 ⟨p, hp, by simp⟩

theorem supersedePlans_fresh
    (h : (db.supersedePlans taskId now).plans.insert? record = some plans) :
    ∀ p ∈ db.plans, p.planId ≠ record.planId := by
  intro p hp
  have hfresh := insert?_fresh h _ (mem_supersedePlans hp)
  split_ifs at hfresh <;> exact hfresh

theorem supersedePlans_idle {p : PlanRow} (hp : p ∈ (db.supersedePlans taskId now).plans)
    (hid : p.taskId = taskId) : p.status ≠ .active := by
  obtain ⟨q, _, rfl⟩ := List.mem_map.1 hp
  split_ifs at hid ⊢ with h
  · simp
  · exact fun hactive => h ⟨hid, hactive⟩

end Activation

theorem LedgerMove.rowsMove (h : LedgerMove db op l) : RowsMove db op l.plans l.steps := by
  cases h with
  | same | staged | attached | handoffStaged | acknowledged | handoffUpdated | anchored =>
    exact .changed plansKept stepsKept
  | deleted hs => exact .deleted rfl (fun p => mem_delete) rfl hs
  | reset =>
    exact .changed (rowwise_planMove rfl fun p _ hq => .reset hq.1 hq.2)
      (rowwise_stepMove rfl fun s _ hq => .reset hq.1 hq.2.1)
  | activated ht hid hphase hidle hrecord hplans hsteps hnew =>
    subst hrecord
    exact .activated (.intro ht hid hphase hidle rfl (supersedePlans_fresh hplans) hnew)
      (rowwise_planMove rfl fun p _ hq => .superseded hq.1 hq.2 hidle)
      (fun p hp hid => supersedePlans_idle hp hid) (fun p => mem_insert? hplans) hsteps
  | invalidated h =>
    exact .changed (rowwise_planMove rfl fun p _ hq => .invalidated hq.1 h) stepsKept
  | claimed h =>
    refine .changed plansKept (rowwise_stepMove rfl fun s hs hq => ?_)
    obtain rfl := h.joins.eq_step hs hq
    exact .claimed h
  | waited h =>
    refine .changed plansKept (rowwise_stepMove rfl fun s hs hq => ?_)
    obtain ⟨hid, hstep, _⟩ := h.at_pending
    obtain rfl := eq_of_key hs h.step_mem (Prod.ext (hq.1.trans hid.symm) (hq.2.trans hstep.symm))
    exact .waited h
  | resumed h =>
    refine .changed plansKept (rowwise_stepMove rfl fun s hs hq => ?_)
    obtain rfl := h.joins.eq_step hs hq
    exact .resumed h
  | workflowWaited h =>
    refine .changed plansKept (rowwise_stepMove rfl fun s hs hq => ?_)
    obtain rfl := h.joins.eq_step hs hq
    exact .workflowWaited h
  | @finished call planId stepId action v staged hfor l hl =>
    have hid := hfor.staged_id
    have hrows : l.steps.rows = (db.ledger.finish staged call.now).steps.rows := by
      rcases hl with ⟨rfl, _⟩ | ⟨rfl, _⟩ <;> rfl
    have hsteps : Rowwise (StepMove db (.finalizeStagedStep call planId stepId action)) db.steps
        l.steps := by
      refine rowwise_stepMove hrows fun s hs hq => ?_
      obtain rfl := hfor.joins.eq_step hs ⟨hq.1.trans hid.1, hq.2.trans hid.2⟩
      exact .finished hfor
    refine .changed ?_ hsteps
    rcases hl with ⟨rfl, _⟩ | ⟨rfl, htarget, hdone⟩
    · exact plansKept
    · refine rowwise_planMove rfl fun p _ hq => .completed hq.1 hq.2 hfor htarget ?_
      intro s hs hsid hne
      refine hdone s (List.mem_map.2 ⟨s, hs, if_neg ?_⟩) hsid
      exact fun h => hne (h.2.trans hid.2)
  | recovered h =>
    exact .changed (rowwise_planMove rfl fun p _ hq => .recovered hq.1 hq.2 h)
      (rowwise_stepMove rfl fun s _ hq => .recovered hq.1 hq.2 h)
  | replanned h =>
    exact .changed (rowwise_planMove rfl fun p _ hq => .replanned hq.1 hq.2 h)
      (rowwise_stepMove rfl fun s _ hq => .replanned hq.1 hq.2 h)
  | terminalized h =>
    exact .changed (rowwise_planMove rfl fun p _ hq => .terminalized hq.1 hq.2 h)
      (rowwise_stepMove rfl fun s _ hq => .terminalized hq.1 hq.2 h)
  | quarantined h =>
    exact .changed (rowwise_planMove rfl fun p _ hq => .quarantined (hq.trans h.handoff_id.1) h)
      (rowwise_stepMove rfl fun s _ hq => .quarantined (hq.1.trans h.handoff_id.1) hq.2 h)

theorem LedgerMove.outbox_pre (h : LedgerMove db op l) {o' : OutboxRow} (ho' : o' ∈ l.outbox) :
    (∃ o ∈ db.outbox, o.Same o') ∨ Stages db op o' := by
  have hdelete : ∀ (p : OutboxRow → Prop) [DecidablePred p], o' ∈ db.outbox.delete p →
      ∃ o ∈ db.outbox, o.Same o' := fun p _ ho => ⟨o', (mem_delete.1 ho).1, .refl o'⟩
  cases h with
  | same | activated | invalidated | claimed | waited | resumed | workflowWaited | recovered
  | replanned | terminalized | acknowledged | handoffUpdated | anchored =>
    exact .inl ⟨o', ho', .refl o'⟩
  | deleted => exact .inl ⟨o', (mem_delete.1 ho').1, .refl o'⟩
  | reset => exact .inl (hdelete _ ho')
  | quarantined => exact .inl (hdelete _ ho')
  | finished _ l hl =>
    have hl : l.outbox = db.outbox := by rcases hl with ⟨rfl, _⟩ | ⟨rfl, _⟩ <;> rfl
    have ho' := (mem_delete.1 ho').1
    rw [hl] at ho'
    exact .inl ⟨o', ho', .refl o'⟩
  | staged hv haction hactive hallowed hstatus houtbox =>
    rcases (mem_insert? houtbox).1 ho' with ho' | rfl
    · exact .inl ⟨o', ho', .refl o'⟩
    · exact .inr (.result hv hactive hallowed hstatus rfl)
  | handoffStaged hv haction hactive hstatus hhandoffs houtbox =>
    rcases (mem_insert? houtbox).1 ho' with ho' | rfl
    · exact .inl ⟨o', ho', .refl o'⟩
    · exact .inr (.decision hv hactive hstatus rfl)
  | attached =>
    obtain ⟨o, ho, rfl⟩ := List.mem_map.1 ho'
    refine .inl ⟨o, ho, ?_⟩
    split_ifs <;> exact ⟨rfl, rfl, rfl, rfl, rfl⟩

/-- The staged results that an operation removes when it changes plans and steps. -/
def Discards (db : NavigationDb) : Op → OutboxRow → Prop
  | .finalizeStagedStep _ planId stepId _, o => o.planId = planId ∧ o.stepId = stepId
  | .quarantineHumanDecisionHandoff _ _ planId stepId _, o => o.planId = planId ∧ o.stepId = stepId
  | .cancelNonterminalForDatasetReset _ date _, o => o.taskId ∈ nonterminalTaskIds db date
  | _, _ => False

theorem OutboxRow.Same.discards_iff {o o' : OutboxRow} (h : o.Same o') :
    Discards db op o' ↔ Discards db op o := by
  cases op <;> simp only [Discards, h.planId, h.stepId, h.taskId]

theorem LedgerMove.not_discards (h : LedgerMove db op l) {o : OutboxRow} (ho : o ∈ l.outbox) :
    (l.plans = db.plans ∧ l.steps = db.steps) ∨ ¬ Discards db op o := by
  cases h with
  | same | handoffUpdated => exact .inl ⟨rfl, rfl⟩
  | finished h => exact .inr (mem_delete.1 ho).2
  | quarantined h =>
    refine .inr fun hd => (mem_delete.1 ho).2 ?_
    exact ⟨hd.1.trans h.handoff_id.1.symm, hd.2.trans h.handoff_id.2.symm⟩
  | reset => exact .inr (mem_delete.1 ho).2
  | _ => exact .inr fun h => h

theorem LedgerMove.handoff_pre (h : LedgerMove db op l) {h' : HandoffRow} (hh' : h' ∈ l.handoffs) :
    (∃ r ∈ db.handoffs, h'.planId = r.planId ∧ h'.stepId = r.stepId ∧ h'.taskId = r.taskId) ∨
      ∃ v : StepView, v.Joins db h'.planId h'.stepId ∧ v.step.taskId = h'.taskId ∧
        v.plan.status = .active := by
  have hsame : h' ∈ db.handoffs → ∃ r ∈ db.handoffs,
      h'.planId = r.planId ∧ h'.stepId = r.stepId ∧ h'.taskId = r.taskId :=
    fun hh => ⟨h', hh, rfl, rfl, rfl⟩
  cases h with
  | same | activated | invalidated | claimed | waited | resumed | workflowWaited | recovered
  | replanned | terminalized | staged | attached => exact .inl (hsame hh')
  | deleted => exact .inl (hsame (mem_delete.1 hh').1)
  | acknowledged => exact .inl (hsame (mem_delete.1 hh').1)
  | reset =>
    obtain ⟨r, hr, rfl⟩ := List.mem_map.1 hh'
    refine .inl ⟨r, hr, ?_⟩
    split_ifs <;> exact ⟨rfl, rfl, rfl⟩
  | quarantined =>
    obtain ⟨r, hr, rfl⟩ := List.mem_map.1 hh'
    refine .inl ⟨r, hr, ?_⟩
    split_ifs <;> exact ⟨rfl, rfl, rfl⟩
  | finished _ l hl =>
    have hl : l.handoffs = db.handoffs := by rcases hl with ⟨rfl, _⟩ | ⟨rfl, _⟩ <;> rfl
    change h' ∈ l.handoffs at hh'
    exact .inl (hsame (hl ▸ hh'))
  | handoffStaged hv _ hactive _ hhandoffs =>
    rcases (mem_insert? hhandoffs).1 hh' with hh' | rfl
    · exact .inl (hsame hh')
    · exact .inr ⟨_, hv.self, rfl, hactive⟩
  | anchored hv _ hactive _ hhandoffs =>
    rcases (mem_insert? hhandoffs).1 hh' with hh' | rfl
    · exact .inl (hsame hh')
    · exact .inr ⟨_, hv.self, rfl, hactive⟩
  | handoffUpdated _ p f hf htask =>
    obtain ⟨r, hr, rfl⟩ := List.mem_map.1 hh'
    refine .inl ⟨r, hr, ?_⟩
    split_ifs
    · obtain ⟨h₁, h₂⟩ := Prod.mk.inj (hf r)
      exact ⟨h₁, h₂, htask r⟩
    · exact ⟨rfl, rfl, rfl⟩

end Moves

end DataJuicer.Navigation

import DataJuicer.Navigation.Consistency

/-! # The authority of the status table

`NAVIGATION_TASK_STATUS_TRANSITIONS` is obeyed by `update_task_for_session`. The plan
repository writes statuses without consulting it, so a write follows an edge of the table only
from some of the statuses that the task may have reached meanwhile.
-/

namespace DataJuicer.Navigation

open Table

/-- A status is kept or follows an edge of the table. -/
def TaskStatus.MayBecome (s s' : TaskStatus) : Prop := s' = s ∨ s' ∈ s.transitions

instance (s s' : TaskStatus) : Decidable (s.MayBecome s') := instDecidableOr

theorem TaskStatus.IsTerminal.mayBecome {s s' : TaskStatus} (h : s.IsTerminal)
    (hs : s.MayBecome s') : s' = s := by
  rcases hs with rfl | hs
  · rfl
  · cases s <;> first | exact absurd h id | cases hs

def Op.ResetsDataset : Op → Prop
  | .cancelNonterminalForDatasetReset .. => True
  | _ => False

instance : DecidablePred Op.ResetsDataset := by
  rintro (_ | _) <;> unfold Op.ResetsDataset <;> infer_instance

/-- The status of every task that stays is kept or follows an edge; a dataset reset is exempt. -/
def FollowsEdges (x : Transition NavigationDb Event) : Prop :=
  x.label.1.ResetsDataset ∨
    ∀ t ∈ x.pre.tasks, ∀ t' ∈ x.post.tasks, t'.taskId = t.taskId →
      t.status.MayBecome t'.status

/-- A plan is given up while its task may still be replanned. -/
def TaskStatus.Replannable (s : TaskStatus) : Prop := s = active ∨ s = needsReplan

instance : DecidablePred TaskStatus.Replannable := fun _ => instDecidableOr

/-- The task whose plan the operation finishes or gives up may take what is written to it. -/
def WritesAllowed (db : NavigationDb) : Op → Prop
  | .finalizeStagedStep call planId stepId action => ∀ v staged,
      Finalizable db call planId stepId action v staged →
      (staged.targetStatus = .failed → v.task.status ∈
        [.active, .pausing, .cancelling, .needsReplan, .failed]) ∧
      (staged.targetStatus = .completed →
        (∀ s ∈ db.steps, s.planId = planId → s.stepId ≠ stepId → s.status = .completed) →
        (db.EndsValidated v.plan → v.task.status ∈ [.active, .waitingUser, .completed]) ∧
        (¬ db.EndsValidated v.plan →
          v.task.status ∈ [.active, .waitingUser, .paused, .needsReplan]))
  | .recoverRunningStepWithoutResult call planId stepId _ action => ∀ v,
      Recoverable db call planId stepId action v → v.task.status.Replannable
  | .markNeedsReplan call planId _ => ∀ p, Replannable db call planId p →
      ∀ t ∈ db.tasks, t.taskId = p.taskId → t.status.Replannable
  | .markTerminalizedClaimNeedsReplan call planId stepId _ action => ∀ v,
      Terminalizable db call planId stepId action v → v.task.status.Replannable
  | .quarantineHumanDecisionHandoff now web planId stepId reason => ∀ h,
      Quarantinable db now web planId stepId reason h →
      ∀ t ∈ db.tasks, t.taskId = h.taskId → t.status.Replannable
  | _ => True

variable {db db' mid : NavigationDb} {op : Op}

theorem TaskStatus.Replannable.mayBecome {s : TaskStatus} (h : s.Replannable) :
    s.MayBecome .needsReplan := by
  rcases h with rfl | rfl <;> decide

/-- An allowed write of the plan repository follows an edge. -/
theorem StatusWrite.mayBecome (hc : Consistent db) (hallowed : WritesAllowed db op) {t : TaskRow}
    {s : TaskStatus} (h : StatusWrite db op t s) (ht : t ∈ db.tasks) :
    op.ResetsDataset ∨ t.status.MayBecome s := by
  cases h with
  | reset => exact .inl trivial
  | resumed hst => rcases hst with hst | hst <;> rw [hst] <;> exact .inr (by decide)
  | workflowWaited hst => rcases hst with hst | hst <;> rw [hst] <;> exact .inr (by decide)
  | failed h htarget hid =>
    obtain rfl := hc.task_of_joins h.joins ht (hid.trans (hc.staged_task h))
    have hedge : ∀ r ∈ [TaskStatus.active, .pausing, .cancelling, .needsReplan, .failed],
        r.MayBecome .failed := by decide
    exact .inr (hedge _ ((hallowed _ _ h).1 htarget))
  | completed h htarget hlast hid hends =>
    obtain rfl := hc.task_of_joins h.joins ht hid
    have hedge : ∀ r ∈ [TaskStatus.active, .waitingUser, .completed], r.MayBecome .completed := by
      decide
    exact .inr (hedge _ (((hallowed _ _ h).2 htarget hlast).1 hends))
  | continued h htarget hlast hid hends =>
    obtain rfl := hc.task_of_joins h.joins ht hid
    have hedge : ∀ r ∈ [TaskStatus.active, .waitingUser, .paused, .needsReplan],
        r.MayBecome .active := by decide
    exact .inr (hedge _ (((hallowed _ _ h).2 htarget hlast).2 hends))
  | recovered h hid =>
    obtain rfl := hc.task_of_joins h.joins ht hid
    exact .inr (hallowed _ h).mayBecome
  | replanned h hid => exact .inr (hallowed _ h t ht hid).mayBecome
  | terminalized h hid =>
    obtain rfl := hc.task_of_joins h.joins ht hid
    exact .inr (hallowed _ h).mayBecome
  | quarantined hq hid => exact .inr (hallowed _ hq t ht hid).mayBecome

theorem TaskMove.mayBecome (hc : Consistent db) (hallowed : WritesAllowed db op) {t t' : TaskRow}
    (h : TaskMove db op t t') (ht : t ∈ db.tasks) :
    op.ResetsDataset ∨ t.status.MayBecome t'.status := by
  cases h with
  | triggered h => obtain ⟨n, rfl⟩ := h; exact .inr (.inl rfl)
  | written hs _ h => rw [h]; exact hs.mayBecome hc hallowed ht
  | activated _ _ h | guided _ _ _ h => rw [h]; exact .inr (.inl rfl)
  | merged _ _ hedge h => rw [h]; exact .inr (hedge.imp Eq.symm id)

theorem TaskMove.terminal (hc : Consistent db) (hallowed : WritesAllowed db op) {t t' : TaskRow}
    (h : TaskMove db op t t') (ht : t ∈ db.tasks) (hterm : t.status.IsTerminal) :
    t'.status = t.status := by
  rcases h.mayBecome hc hallowed ht with hreset | hedge
  · cases h with
    | triggered h => obtain ⟨n, rfl⟩ := h; rfl
    | written hs _ h =>
      cases hs with
      | reset hopen => exact absurd hterm hopen
      | _ => cases hreset
    | _ => cases hreset
  · exact hterm.mayBecome hedge

theorem followsEdges_of_step {x : Transition NavigationDb Event} (hc : Consistent x.pre)
    (hallowed : WritesAllowed x.pre x.label.1) (h : Step x.pre x.label x.post) :
    FollowsEdges x := by
  rcases step_iff.1 h with ⟨r, hr, _⟩ | ⟨_, _, _, hkeep⟩
  · refine or_iff_not_imp_left.2 fun hreset t ht t' ht' hid => ?_
    have hmove := (perform_commits hr).tasks.of_taskId ht ht' hid
    exact (hmove.mayBecome hc hallowed ht).resolve_left hreset
  · refine .inr fun t ht t' ht' hid => .inl ?_
    rw [hkeep] at ht'
    rw [eq_of_key ht' ht hid]

theorem terminal_of_step {x : Transition NavigationDb Event} (hc : Consistent x.pre)
    (hallowed : WritesAllowed x.pre x.label.1) (h : Step x.pre x.label x.post) {t t' : TaskRow}
    (ht : t ∈ x.pre.tasks) (hterm : t.status.IsTerminal) (ht' : t' ∈ x.post.tasks)
    (hid : t'.taskId = t.taskId) : t'.status = t.status := by
  rcases step_iff.1 h with ⟨r, hr, _⟩ | ⟨_, _, _, hkeep⟩
  · exact ((perform_commits hr).tasks.of_taskId ht ht' hid).terminal hc hallowed ht hterm
  · rw [hkeep] at ht'
    rw [eq_of_key ht' ht hid]

/--
When the plan repository writes only to tasks that may take the write, every change of a status
follows an edge, and a task keeps a terminal status for as long as it is not deleted.
-/
theorem task_status_authority {l m : List (Transition NavigationDb Event)}
    (h : Run Step .initial l mid) (h' : Run Step mid m db)
    (hallowed : ∀ x ∈ l ++ m, WritesAllowed x.pre x.label.1) :
    (∀ x ∈ l ++ m, FollowsEdges x) ∧
      ∀ t ∈ mid.tasks, t.status.IsTerminal →
        (∀ x ∈ m, ∃ t' ∈ x.post.tasks, t'.taskId = t.taskId) →
        ∃ t' ∈ db.tasks, t'.taskId = t.taskId ∧ t'.status = t.status := by
  have hrun := h.append h'
  have hc := (Consistent.of_run hrun).2
  constructor
  · exact fun x hx => followsEdges_of_step (hc x hx).1 (hallowed x hx) (hrun.step_of_mem hx)
  · intro t ht hterm hstay
    let kept := fun d : NavigationDb => ∃ t' ∈ d.tasks, t'.taskId = t.taskId ∧ t'.status = t.status
    let ok := fun x : Transition NavigationDb Event => Consistent x.pre ∧
      WritesAllowed x.pre x.label.1 ∧ ∃ t' ∈ x.post.tasks, t'.taskId = t.taskId
    have hok : ∀ x ∈ m, ok x := fun x hx =>
      have hmem := List.mem_append_right l hx
      ⟨(hc x hmem).1, hallowed x hmem, hstay x hx⟩
    have hstep : ∀ x, kept x.pre → ok x → Step x.pre x.label x.post → kept x.post := by
      rintro x ⟨t₁, ht₁, hid₁, hst₁⟩ ⟨hc, hallowed, t₂, ht₂, hid₂⟩ hx
      refine ⟨t₂, ht₂, hid₂, (terminal_of_step hc hallowed hx ht₁ ?_ ht₂ ?_).trans hst₁⟩
      · exact hst₁ ▸ hterm
      · exact hid₂.trans hid₁.symm
    exact (h'.invariant ⟨t, ht, rfl, rfl⟩ hok hstep).1

instance : DecidablePred FollowsEdges := fun x => by
  unfold FollowsEdges
  infer_instance

def failedResult : StepResult where
  targetStatus := .failed
  fullResult := "{}"
  resultSummary := "{}"

def claimedTrack : List Op := Sample.setup ++
  [.claimStep (Sample.alice 2) "p" "track" "run_annotation_tracking_workflow"]

def failedTrack : List Op :=
  [.stageStepResult (Sample.alice 5) "p" "track" "run_annotation_tracking_workflow" failedResult,
   .finalizeStagedStep (Sample.alice 6) "p" "track" "run_annotation_tracking_workflow"]

/-- The task is cancelled while its claimed step runs, and then the step fails. -/
def lateFailure : List Op := claimedTrack ++
  [.updateTaskForSession (Sample.alice 3) "a" none { status := some .cancelling },
   .updateTaskForSession (Sample.alice 4) "a" none { status := some .cancelled }] ++ failedTrack

/-- The cancelled task becomes failed. -/
theorem lateFailure_leaves_cancelled :
    Run Step .initial (stores.serve .initial lateFailure) (stores.final .initial lateFailure) ∧
      (∃ x ∈ stores.serve .initial lateFailure, ∃ t ∈ x.pre.tasks, ∃ t' ∈ x.post.tasks,
        t'.taskId = t.taskId ∧ t.status = .cancelled ∧ t'.status = .failed) ∧
      ∃ x ∈ stores.serve .initial lateFailure, ¬ FollowsEdges x :=
  ⟨stores.serve_run _ _, by decide, by decide⟩

theorem writesAllowed_of_active (h : ∀ t ∈ db.tasks, t.status = .active) : WritesAllowed db op := by
  have hview : ∀ {planId stepId : String} {v : StepView}, v.Joins db planId stepId →
      v.task.status = .active := fun hv => h _ hv.task_mem
  cases op with
  | finalizeStagedStep =>
    intro v staged hfor
    rw [hview hfor.joins]
    exact ⟨fun _ => by decide, fun _ _ => ⟨fun _ => by decide, fun _ => by decide⟩⟩
  | recoverRunningStepWithoutResult => exact fun v hfor => .inl (hview hfor.joins)
  | markTerminalizedClaimNeedsReplan => exact fun v hfor => .inl (hview hfor.joins)
  | markNeedsReplan => exact fun p _ t ht _ => .inl (h t ht)
  | quarantineHumanDecisionHandoff => exact fun _ _ t ht _ => .inl (h t ht)
  | _ => trivial

def failedTask : NavigationDb := stores.final .initial (claimedTrack ++ failedTrack)

/-- The user asks to go on with the failed task. -/
def retry : List Op := [.updateTaskForSession (Sample.alice 7) "a" none { status := some .active }]

theorem failedTask_authority :
    (∀ x ∈ stores.serve .initial (claimedTrack ++ failedTrack) ++ stores.serve failedTask retry,
      FollowsEdges x) ∧
      ∃ t ∈ (stores.final failedTask retry).tasks, t.taskId = "a" ∧ t.status = .failed := by
  have hactive : ∀ x ∈ stores.serve .initial (claimedTrack ++ failedTrack),
      ∀ t ∈ x.pre.tasks, t.status = .active := by decide
  have hallowed : ∀ x ∈ stores.serve .initial (claimedTrack ++ failedTrack) ++
      stores.serve failedTask retry, WritesAllowed x.pre x.label.1 :=
    List.forall_mem_append.2 ⟨fun x hx => writesAllowed_of_active (hactive x hx),
      List.forall_mem_singleton.2 trivial⟩
  obtain ⟨hedges, hkept⟩ :=
    task_status_authority (stores.serve_run _ _) (stores.serve_run _ _) hallowed
  have hfailed : ∃ t ∈ failedTask.tasks, t.taskId = "a" ∧ t.status = .failed := by decide
  obtain ⟨t, ht, hid, hst⟩ := hfailed
  have hstay : ∀ x ∈ stores.serve failedTask retry, ∃ t' ∈ x.post.tasks, t'.taskId = "a" := by
    decide
  obtain ⟨t', ht', hid', hst'⟩ := hkept t ht (hst ▸ trivial) (hid ▸ hstay)
  exact ⟨hedges, t', ht', hid'.trans hid, hst'.trans hst⟩

end DataJuicer.Navigation

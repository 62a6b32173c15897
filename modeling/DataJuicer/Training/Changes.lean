import DataJuicer.Training.Refinement
import DataJuicer.Training.WorkflowShape

/-! # Operations as changes of workflows

A committed operation makes a number of changes to the workflows of the runs it is about. The
changes that follow a worker's report are known to meet the condition under which the report
was taken.
-/

namespace DataJuicer.Training

open Transaction Workflow

variable {db db' : Database} {now : Timestamp} {run : RunRow} {r : String}

def reportOf (stage : Option StageRow) : UpdateBody → Option Report
  | .started => stage.map fun s => .started s.state
  | .reconciliation e =>
    if e.statusOr "unresolved" = "unresolved" then none
    else if e.statusOr "unresolved" = "running" then
      some (.foundRunning (stage.map StageRow.state))
    else stage.map fun s => .exited s.state (exitStatus (e.statusOr "failed"))
  | .exited e => stage.map fun s => .exited s.state (exitStatus (e.statusOr "failed"))
  | _ => none

variable (ok : Workflow → Report → Prop)

def UpdateMeets (db : Database) (runRef : String) (u : TrainingUpdate) : Prop :=
  ∀ run ∈ db.runs, run.runRef = runRef →
    ∀ rep ∈ (updateStage db run u).toOption.bind fun stage => reportOf stage u.body,
      ok (workflowOf db runRef) rep

def BatchMeets (now : Timestamp) (runRef : String) :
    List (TrainingUpdate × NewRefs) → Database → Prop
  | [], _ => True
  | u :: us, db => UpdateMeets ok db runRef u.1 ∧
      match applyUpdate now runRef u db with
      | .ok db' => BatchMeets now runRef us db'
      | .error _ => True

/-- A failed start that ends its run meets the condition, and so does the result of a stop. -/
def ResultMeets (q : ActionResult) (db : Database) : Prop :=
  ∀ a ∈ db.actions, a.actionRef = q.actionRef → a.status = .running →
    (a.kind = .startTrainingStage → q.succeeded = false → q.code ≠ unresolvedLaunch →
      ok (workflowOf db a.runRef) .startFailed) ∧
    (a.kind = .stopTrainingRun → ok (workflowOf db a.runRef) .stopAnswered)

def Op.ReportsMeet (op : Op) (db : Database) : Prop :=
  match op with
  | .applyTrainingRunUpdates now _ b => (∃ run ∈ db.runs, run.runRef = b.runRef ∧
      b.workerSeq = run.executionUpdateSeq + 1) → BatchMeets ok now b.runRef b.updates db
  | .finishTrainingAction _ _ q => ResultMeets ok q db
  | _ => True

def Op.Commits (op : Op) (db : Database) : Prop := (perform op db).toOption.isSome

/-- The request is refused, or the reports that it delivers meet the condition. -/
def Op.Meets (op : Op) (db : Database) : Prop := op.Commits db → op.ReportsMeet ok db

section Decidable

variable [∀ w rep, Decidable (ok w rep)]

instance (db : Database) (runRef : String) (u : TrainingUpdate) :
    Decidable (UpdateMeets ok db runRef u) := by
  unfold UpdateMeets
  infer_instance

instance decidableBatchMeets (now : Timestamp) (runRef : String) :
    ∀ us db, Decidable (BatchMeets ok now runRef us db)
  | [], _ => inferInstanceAs (Decidable True)
  | u :: us, db => by
    unfold BatchMeets
    cases applyUpdate now runRef u db with
    | ok db' => exact @instDecidableAnd _ _ _ (decidableBatchMeets now runRef us db')
    | error => infer_instance

instance (q : ActionResult) (db : Database) : Decidable (ResultMeets ok q db) := by
  unfold ResultMeets
  infer_instance

instance (op : Op) (db : Database) : Decidable (op.ReportsMeet ok db) := by
  cases op <;> unfold Op.ReportsMeet <;> infer_instance

instance (op : Op) (db : Database) : Decidable (op.Commits db) :=
  inferInstanceAs (Decidable ((perform op db).toOption.isSome = true))

instance (op : Op) (db : Database) : Decidable (op.Meets ok db) :=
  inferInstanceAs (Decidable (_ → _))

end Decidable

/-- Every workflow makes a number of changes. -/
def Moves (db db' : Database) : Prop := ∀ r, Changes ok (workflowOf db r) (workflowOf db' r)

variable {ok}

theorem workflowOf_keyed (db : Database) (r : String) : (workflowOf db r).Keyed := by
  constructor
  · show ((stageStates db.stages r).map (·.ref)).Nodup
    unfold stageStates
    rw [List.map_map]
    exact db.stages.nodup_keys.sublist (List.filter_sublist.map _)
  · show ((actionStates db.actions r).map (·.ref)).Nodup
    unfold actionStates
    rw [List.map_map]
    exact db.actions.nodup_keys.sublist (List.filter_sublist.map _)

namespace Moves

variable {db₁ : Database} {k : String} {F : Workflow → Workflow}

theorem refl (db : Database) : Moves ok db db := fun _ => .refl

theorem trans (h : Moves ok db db₁) (h' : Moves ok db₁ db') : Moves ok db db' := fun r =>
  (h r).trans (h' r)

theorem of_keeps (h : Keeps db db') : Moves ok db db' := fun r => h r ▸ .refl

theorem of_change (h : ∀ r, Change ok (workflowOf db r) (workflowOf db' r)) : Moves ok db db' :=
  fun r => .single ⟨h r, workflowOf_keyed db r, workflowOf_keyed db' r⟩

theorem of_acts (h : Acts k F db db')
    (hc : Change ok (workflowOf db k) (F (workflowOf db k))) : Moves ok db db' := by
  intro r
  by_cases hr : r = k
  · subst hr
    exact .single ⟨h.self ▸ hc, workflowOf_keyed db r, workflowOf_keyed db' r⟩
  · rw [h.other hr]

end Moves

theorem run_workflowOf (hrun : run ∈ db.runs) :
    (workflowOf db run.runRef).run = some run.state := by
  have hfind : db.runs.find? run.runRef = some run := Table.find?_eq_some_iff.2 ⟨hrun, rfl⟩
  simp [workflowOf, runState, hfind]

theorem stage_mem_workflowOf {stage : StageRow} (hstage : stage ∈ db.stages)
    (hr : stage.runRef = r) : stage.state ∈ (workflowOf db r).stages :=
  List.mem_map_of_mem (Table.mem_select.2 ⟨hstage, hr⟩)

theorem action_mem_workflowOf {a : ActionRow} (ha : a ∈ db.actions) :
    a.state ∈ (workflowOf db a.runRef).actions :=
  List.mem_map_of_mem (Table.mem_select.2 ⟨ha, rfl⟩)

theorem mem_of_updateStage {u : TrainingUpdate} {stage : Option StageRow}
    (h : updateStage db run u = .ok stage) : ∀ s ∈ stage, s ∈ db.stages ∧
      s.runRef = run.runRef := by
  intro s hs
  unfold updateStage at h
  cases hu : u.stageRef with
  | none =>
    rw [hu] at h
    cases h
    cases hs
  | some ref =>
    rw [hu] at h
    cases hf : (db.stages.find? ref).filter fun s => s.runRef = run.runRef with
    | none => simp [hf, orRaise, Except.map] at h
    | some t =>
      have ht : stage = some t := by simpa [hf, orRaise, Except.map] using h.symm
      obtain rfl : t = s := by simpa [ht] using hs
      obtain ⟨hfind, hrun⟩ := Option.filter_eq_some_iff.1 hf
      exact ⟨(Table.find?_eq_some_iff.1 hfind).1, by simpa using hrun⟩

theorem moves_applyExited {refs : NewRefs} {stage : StageRow} {e : Exit} (hrun : run ∈ db.runs)
    (hstage : stage ∈ db.stages) (hs : stage.runRef = run.runRef)
    (hok : ok (workflowOf db run.runRef) (.exited stage.state (exitStatus (e.statusOr "failed"))))
    (h : applyExited now refs run stage e db = .ok db') : Moves ok db db' :=
  .of_acts (acts_applyExited hstage hs h)
    (.exited (run_workflowOf hrun) (stage_mem_workflowOf hstage hs) hok)

theorem moves_applyReconciliation {refs : NewRefs} {stage : Option StageRow} {e : Exit}
    (hrun : run ∈ db.runs) (hstage : ∀ s ∈ stage, s ∈ db.stages ∧ s.runRef = run.runRef)
    (hok : ∀ rep ∈ reportOf stage (.reconciliation e), ok (workflowOf db run.runRef) rep)
    (h : applyReconciliation now refs run stage e db = .ok db') : Moves ok db db' := by
  unfold applyReconciliation at h
  unfold reportOf at hok
  by_cases hu : e.statusOr "unresolved" = "unresolved"
  · rw [if_pos hu] at h
    obtain rfl := Except.ok.inj h
    exact .of_keeps keeps_reconcileUnresolved
  · rw [if_neg hu] at h
    simp only [if_neg hu] at hok
    by_cases hrunning : e.statusOr "unresolved" = "running"
    · rw [if_pos hrunning] at h
      simp only [if_pos hrunning] at hok
      obtain rfl := Except.ok.inj h
      refine .of_acts (acts_reconcileRunning hstage) (.foundRunning ?_ (hok _ rfl))
      intro t ht
      obtain ⟨s, hs, rfl⟩ := Option.map_eq_some_iff.1 ht
      exact stage_mem_workflowOf (hstage s hs).1 (hstage s hs).2
    · rw [if_neg hrunning] at h
      simp only [if_neg hrunning] at hok
      cases stage with
      | none => cases h
      | some stage =>
        obtain ⟨hmem, hs⟩ := hstage stage rfl
        exact moves_applyExited hrun hmem hs (hok _ rfl) h

theorem moves_applyTrainingUpdateIn {refs : NewRefs} {u : TrainingUpdate} (hrun : run ∈ db.runs)
    (hok : UpdateMeets ok db run.runRef u)
    (h : applyTrainingUpdateIn now refs run u db = .ok db') : Moves ok db db' := by
  obtain ⟨stage, hstage, h⟩ := bind_eq_ok.1 h
  have hmem := mem_of_updateStage hstage
  have hok := hok run hrun rfl
  rw [hstage] at hok
  obtain ⟨ref, body⟩ := u
  simp only at hok h
  cases body with
  | accepted | heartbeat =>
    obtain rfl := Except.ok.inj h
    exact .refl db
  | started =>
    cases stage with
    | none => cases h
    | some stage =>
      obtain rfl := Except.ok.inj h
      obtain ⟨hstage, hs⟩ := hmem stage rfl
      exact .of_acts (acts_applyStarted hstage hs)
        (.started (stage_mem_workflowOf hstage hs) (hok _ rfl))
  | log level lines =>
    cases stage with
    | none => cases h
    | some stage =>
      obtain rfl := Except.ok.inj h
      exact .of_keeps keeps_applyLog
  | metric step total ms =>
    cases stage with
    | none => cases h
    | some stage =>
      exact .of_keeps (keeps_applyMetric h)
  | checkpoint path step =>
    cases stage with
    | none => cases h
    | some stage =>
      obtain ⟨_, -, h⟩ := bind_eq_ok.1 h
      obtain ⟨_, -, h⟩ := bind_eq_ok.1 h
      obtain ⟨_, -, h⟩ := bind_eq_ok.1 h
      obtain rfl := Except.ok.inj h
      exact .of_keeps fun _ => rfl
  | reconciliation found => exact moves_applyReconciliation hrun hmem hok h
  | exited exit =>
    cases stage with
    | none => cases h
    | some stage =>
      obtain ⟨hstage, hs⟩ := hmem stage rfl
      exact moves_applyExited hrun hstage hs (hok _ rfl) h

theorem moves_applyUpdate {u : TrainingUpdate × NewRefs} (hok : UpdateMeets ok db r u.1)
    (h : applyUpdate now r u db = .ok db') : Moves ok db db' := by
  obtain ⟨run, hrun, hupdate⟩ := bind_eq_ok.1 h
  obtain ⟨hmem, rfl⟩ := Table.find?_eq_some_iff.1 (orRaise_eq_ok.1 hrun)
  exact moves_applyTrainingUpdateIn hmem hok hupdate

theorem moves_applyUpdates {us : List (TrainingUpdate × NewRefs)} (hok : BatchMeets ok now r us db)
    (h : forEach (applyUpdate now r) us db = .ok db') : Moves ok db db' := by
  induction us generalizing db with
  | nil =>
    obtain rfl := Except.ok.inj h
    exact .refl db
  | cons u us ih =>
    obtain ⟨db₁, h₁, h⟩ := bind_eq_ok.1 h
    obtain ⟨hu, hus⟩ := hok
    rw [h₁] at hus
    exact (moves_applyUpdate hu h₁).trans (ih hus h)

theorem moves_applyTrainingRunUpdates {w : WorkerCredential} {b : UpdateBatch} {view : RunView}
    (hok : (∃ run ∈ db.runs, run.runRef = b.runRef ∧
      b.workerSeq = run.executionUpdateSeq + 1) → BatchMeets ok now b.runRef b.updates db)
    (h : applyTrainingRunUpdates now w b db = .ok (view, db')) : Moves ok db db' := by
  obtain ⟨_, -, h⟩ := bind_eq_ok.1 h
  obtain ⟨run, hrun, h⟩ := bind_eq_ok.1 h
  obtain ⟨hfind, -⟩ := Option.filter_eq_some_iff.1 (orRaise_eq_ok.1 hrun)
  obtain ⟨hmem, href⟩ := Table.find?_eq_some_iff.1 hfind
  obtain ⟨_, -, h⟩ := bind_eq_ok.1 h
  split at h
  · obtain ⟨_, -, h⟩ := bind_eq_ok.1 h
    cases h
    exact .refl db
  · obtain ⟨_, -, h⟩ := bind_eq_ok.1 h
    obtain ⟨_, hseq, h⟩ := bind_eq_ok.1 h
    obtain ⟨db₁, h₁, h⟩ := bind_eq_ok.1 h
    obtain ⟨_, -, h⟩ := bind_eq_ok.1 h
    cases h
    have hseq : b.workerSeq = run.executionUpdateSeq + 1 := by simpa using hseq
    exact (moves_applyUpdates (hok ⟨run, hmem, href, hseq⟩) h₁).trans
      (.of_keeps keeps_recordBatch)

/-- All workflows are well-formed. -/
def Wf (db : Database) : Prop := ∀ r, (workflowOf db r).Wf

theorem Wf.linked (h : Wf db) {a : ActionRow} (ha : a ∈ db.actions) :
    ∀ s ∈ db.stages, some s.stageRef = a.stageRef → s.runRef = a.runRef := by
  intro s hs he
  obtain ⟨t, ht, href⟩ := (h a.runRef).linked _ (action_mem_workflowOf ha) s.stageRef he.symm
  obtain ⟨row, hrow, rfl⟩ := List.mem_map.1 ht
  obtain ⟨hmem, hr⟩ := Table.mem_select.1 hrow
  rw [← Table.eq_of_key hmem hs href, hr]

def Claimable (db : Database) (a : ActionRow) : Prop :=
  a ∈ db.actions ∧ a.status = .queued ∧
    ∃ run ∈ db.runs, run.runRef = a.runRef ∧ a.kind.EligibleIn run.status

theorem moves_claimAction {w : WorkerCredential} {token : String} {row : ActionRow}
    (hwf : Wf db) (hrow : Claimable db row) : Moves ok db (claimAction now w token row db) := by
  obtain ⟨hmem, hqueued, run, hrun, href, helig⟩ := hrow
  refine .of_acts (acts_claimAction hmem hqueued (hwf.linked hmem)) ?_
  exact .claim (href ▸ run_workflowOf hrun) (action_mem_workflowOf hmem) hqueued helig

theorem Claimable.claimAction {w : WorkerCredential} {token : String} {row b : ActionRow}
    (hb : Claimable db b) (hne : b.actionRef ≠ row.actionRef) :
    Claimable (claimAction now w token row db) b := by
  obtain ⟨hmem, hqueued, run, hrun, href, helig⟩ := hb
  have hactions : b ∈ db.actions.update
      (fun a => a.actionRef = row.actionRef ∧ a.status = .queued) (claimRow now w token)
      fun _ => rfl :=
    Table.mem_update_of_not hmem fun h => hne h.1
  unfold Training.claimAction
  cases row.kind with
  | stopTrainingRun => exact ⟨hactions, hqueued, run, hrun, href, helig⟩
  | startTrainingStage =>
    refine ⟨hactions, hqueued, _, List.mem_map.2 ⟨run, hrun, rfl⟩, ?_⟩
    by_cases h : run.runRef = row.runRef ∧ run.status = .queued
    · rw [if_pos h]
      refine ⟨href, ?_⟩
      cases hk : b.kind with
      | startTrainingStage => exact .inr rfl
      | stopTrainingRun =>
        rw [hk] at helig
        exact absurd (h.2.symm.trans helig) (by decide)
    · rw [if_neg h]
      exact ⟨href, helig⟩

theorem moves_claims {w : WorkerCredential} {tokens : String → String} {rows : List ActionRow}
    (hwf : Wf db) (hrows : ∀ a ∈ rows, Claimable db a) (hnodup : (rows.map (·.actionRef)).Nodup) :
    Moves ok db (rows.foldl (fun db row => claimAction now w (tokens row.actionRef)
      row db) db) := by
  induction rows generalizing db with
  | nil => exact .refl db
  | cons row rows ih =>
    obtain ⟨hnot, hnodup⟩ := List.nodup_cons.1 hnodup
    have hstep : Moves ok db (claimAction now w (tokens row.actionRef) row db) :=
      moves_claimAction hwf (hrows row (List.mem_cons_self ..))
    refine hstep.trans (ih (fun r => (hstep r).wf (hwf r)) ?_ hnodup)
    intro a ha
    exact (hrows a (List.mem_cons_of_mem _ ha)).claimAction fun he =>
      hnot (List.mem_map.2 ⟨a, ha, he⟩)

theorem claimable_of_mem {nodeRef : String} {a : ActionRow}
    (ha : a ∈ eligibleActions db nodeRef) : Claimable db a := by
  have hmem : a ∈ db.actions.select (Eligible db nodeRef) := by
    rcases List.mem_append.1 ha with ha | ha <;> exact List.mem_of_mem_filter ha
  obtain ⟨hmem, -, hqueued, run, hrun, href, helig⟩ := Table.mem_select.1 hmem
  exact ⟨hmem, hqueued, run, hrun, href, helig⟩

theorem eligibleActions_nodup {nodeRef : String} :
    ((eligibleActions db nodeRef).map (·.actionRef)).Nodup := by
  have hperm : (eligibleActions db nodeRef).Perm (db.actions.select (Eligible db nodeRef)) := by
    have h := List.filter_append_perm (fun a : ActionRow => a.kind = .stopTrainingRun)
      (db.actions.select (Eligible db nodeRef))
    simpa [eligibleActions] using h
  refine (hperm.map _).nodup_iff.2 ?_
  exact db.actions.nodup_keys.sublist (List.filter_sublist.map _)

theorem moves_requeueExpired {nodeRef : String} : Moves ok db (requeueExpired now nodeRef db) := by
  refine .of_change fun r => ?_
  rw [workflowOf_requeueExpired]
  refine .requeue fun a ha href => ?_
  obtain ⟨row, hrow, rfl⟩ := List.mem_map.1 ha
  obtain ⟨b, hb, he⟩ := List.mem_map.1 href
  obtain ⟨hb, hexp⟩ := Table.mem_select.1 hb
  rw [← Table.eq_of_key hb (Table.mem_select.1 hrow).1 he]
  exact hexp.2.1

theorem moves_pollTrainingActions {w : WorkerCredential} {limit : ℕ} {tokens : String → String}
    {claimed : List ClaimedAction} (hwf : Wf db)
    (h : pollTrainingActions now w limit tokens db = .ok (claimed, db')) : Moves ok db db' := by
  obtain ⟨_, -, h⟩ := bind_eq_ok.1 h
  cases h
  have hrequeue : Moves ok db (requeueExpired now w.nodeRef db) := moves_requeueExpired
  refine hrequeue.trans (moves_claims (fun r => (hrequeue r).wf (hwf r)) ?_ ?_)
  · exact fun a ha => claimable_of_mem (List.mem_of_mem_take ha)
  · exact eligibleActions_nodup.sublist ((List.take_sublist _ _).map _)

theorem moves_finishTrainingAction {w : WorkerCredential} {q : ActionResult} {x : ActionStatus}
    (hok : ResultMeets ok q db) (h : finishTrainingAction now w q db = .ok (x, db')) :
    Moves ok db db' := by
  obtain ⟨_, -, h⟩ := bind_eq_ok.1 h
  obtain ⟨row, hrow, h⟩ := bind_eq_ok.1 h
  obtain ⟨hfind, -⟩ := Option.filter_eq_some_iff.1 (orRaise_eq_ok.1 hrow)
  obtain ⟨hmem, href⟩ := Table.find?_eq_some_iff.1 hfind
  obtain ⟨run, hrun, h⟩ := bind_eq_ok.1 h
  obtain ⟨hrun, hkey⟩ := Table.find?_eq_some_iff.1 (orRaise_eq_ok.1 hrun)
  split at h
  · cases h
    exact .refl db
  · obtain ⟨_, hclaim, h⟩ := bind_eq_ok.1 h
    cases h
    have hrunning : row.status = .running := by
      by_contra hne
      simp [hne] at hclaim
    obtain ⟨hstart, hstop⟩ := hok row hmem href hrunning
    have hresult : Moves ok db (storeResult now q db) := by
      refine .of_acts (acts_storeResult hmem href) ?_
      rw [← show row.actionRef = q.actionRef from href]
      refine .result (action_mem_workflowOf hmem) hrunning ?_ hstop
      cases q.succeeded <;> simp
    unfold settleAction
    cases hs : q.succeeded with
    | true => exact hresult
    | false =>
      cases hkind : row.kind with
      | stopTrainingRun => exact hresult.trans (.of_keeps (keeps_markUnresolved _ _))
      | startTrainingStage =>
        by_cases hcode : q.code = unresolvedLaunch
        · refine hresult.trans (.of_keeps ?_)
          simp only [failStart, if_pos hcode]
          exact keeps_markUnresolved _ _
        · have hrun' : run.runRef = row.runRef := hkey
          have hfail : Acts row.runRef
              (fun w => (w.result row.state.ref .failed).failStart run.state) db
              (Training.failStart now run q (storeResult now q db)) := by
            refine ((acts_storeResult hmem href).trans (hrun' ▸ acts_failStart hcode)).congr ?_
            rw [← show row.actionRef = q.actionRef from href, hs]
            rfl
          exact .of_acts hfail (.startFailed (hrun' ▸ run_workflowOf hrun)
            (action_mem_workflowOf hmem) hkind hrunning
            (hstart hkind hs hcode))

theorem stopping_iff : (∃ a ∈ db.actions, a.runRef = r ∧ a.kind = .stopTrainingRun ∧
    a.status.Open) ↔ (workflowOf db r).Stopping := by
  constructor
  · rintro ⟨a, ha, rfl, hkind, hopen⟩
    exact ⟨_, action_mem_workflowOf ha, hkind, hopen⟩
  · rintro ⟨b, hb, hkind, hopen⟩
    obtain ⟨a, ha, rfl⟩ := List.mem_map.1 hb
    obtain ⟨ha, hr⟩ := Table.mem_select.1 ha
    exact ⟨a, ha, hr, hkind, hopen⟩

theorem acts_markStopRequested :
    Acts run.runRef (Workflow.setStatus .stopRequested) db (markStopRequested now run db) := by
  intro r
  refine Workflow.eq_ite ?_ (ite_self _).symm (ite_self _).symm (ite_self _).symm
    (ite_self _).symm (ite_self _).symm
  refine runState_update (by exact fun _ => rfl) (fun x _ hx => hx) fun x _ hx => ?_
  rw [if_pos hx]
  rfl

theorem acts_cancelQueued :
    Acts run.runRef (fun w => { w with actions := w.actions.map ActionState.finish }) db
      (cancelQueued now run db) := by
  intro r
  refine Workflow.eq_ite (ite_self _).symm (ite_self _).symm ?_ (ite_self _).symm
    (ite_self _).symm (ite_self _).symm
  refine actionStates_update (by exact fun _ => ⟨rfl, rfl⟩) (fun a _ ha => ha.1) fun a _ ha => ?_
  by_cases h : a.status = .queued <;> simp [ha, h, ActionRow.state, ActionState.finish]

theorem ActionState.finish_finish (a : ActionState) : a.finish.finish = a.finish := by
  unfold ActionState.finish
  by_cases h : a.status = .queued <;> simp [h]

theorem acts_requestStop {ref : String} (h : requestStop now ref run db = .ok db') :
    Acts run.runRef (Workflow.stop ref run.state) db db' := by
  unfold requestStop at h
  by_cases hq : run.status = .queued
  · rw [if_pos hq] at h
    obtain rfl := Except.ok.inj h
    refine (acts_cancelQueued.trans (acts_finishIn _ _ _)).congr ?_
    have hstop : Workflow.stop ref run.state (workflowOf db run.runRef) =
        (workflowOf db run.runRef).finish .cancelled := if_pos hq
    have hmap : ActionState.finish ∘ ActionState.finish = ActionState.finish :=
      funext ActionState.finish_finish
    rw [hstop]
    simp [Workflow.finish, hmap]
  · rw [if_neg hq] at h
    have hmark : Acts run.runRef _ db (markStopRequested now run db) := acts_markStopRequested
    have hstopping : (∃ a ∈ (markStopRequested now run db).actions, a.runRef = run.runRef ∧
        a.kind = .stopTrainingRun ∧ a.status.Open) ↔ (workflowOf db run.runRef).Stopping :=
      stopping_iff
    unfold queueStop at h
    have hstop : ∀ w : Workflow, w.stop ref run.state =
        if run.executionMode = .real ∧ ¬ w.Stopping then
          (w.setStatus .stopRequested).addAction ⟨ref, none, .stopTrainingRun, .queued⟩
        else w.setStatus .stopRequested := fun w => if_neg hq
    by_cases hc : run.executionMode = .real ∧ ¬ (workflowOf db run.runRef).Stopping
    · rw [if_pos ⟨hc.1, fun h => hc.2 (hstopping.1 h)⟩] at h
      refine (hmark.trans (acts_queueTrainingActionIn h)).congr ?_
      rw [hstop, if_pos hc]
      rfl
    · rw [if_neg fun h => hc ⟨h.1, fun h' => h.2 (hstopping.2 h')⟩] at h
      obtain rfl := Except.ok.inj h
      refine hmark.congr ?_
      rw [hstop, if_neg hc]

theorem keeps_insertIdempotency {row : IdempotencyRow} (h : insertIdempotency row db = .ok db') :
    Keeps db db' := by
  obtain ⟨_, -, h⟩ := bind_eq_ok.1 h
  obtain rfl := Except.ok.inj h
  exact fun _ => rfl

theorem acts_stopRun {q : StopRequest} {view : RunView}
    (hnew : db.idempotency.find? (.stopRun, q.idempotencyKey) = none)
    (h : stopRun now q db = .ok (view, db')) :
    ∃ run ∈ db.runs, run.runRef = q.runRef ∧ ¬ run.status.Terminal ∧
      Acts run.runRef (Workflow.stop q.actionRef run.state) db db' := by
  unfold stopRun at h
  rw [hnew] at h
  obtain ⟨run, hrun, h⟩ := bind_eq_ok.1 h
  obtain ⟨hmem, href⟩ := Table.find?_eq_some_iff.1 (orRaise_eq_ok.1 hrun)
  obtain ⟨_, -, h⟩ := bind_eq_ok.1 h
  obtain ⟨_, hopen, h⟩ := bind_eq_ok.1 h
  obtain ⟨db₁, hstop, h⟩ := bind_eq_ok.1 h
  obtain ⟨_, -, h⟩ := bind_eq_ok.1 h
  obtain ⟨db₂, hins, h⟩ := bind_eq_ok.1 h
  cases h
  exact ⟨run, hmem, href, raiseIf_eq_ok.1 hopen,
    (acts_requestStop hstop).keep (keeps_insertIdempotency hins)⟩

theorem moves_stopRun {q : StopRequest} {view : RunView}
    (h : stopRun now q db = .ok (view, db')) : Moves ok db db' := by
  cases hnew : db.idempotency.find? (.stopRun, q.idempotencyKey) with
  | some idem =>
    unfold stopRun at h
    rw [hnew] at h
    obtain ⟨_, -, h⟩ := bind_eq_ok.1 h
    obtain ⟨_, -, h⟩ := bind_eq_ok.1 h
    cases h
    exact .refl db
  | none =>
    obtain ⟨run, hmem, -, hopen, hacts⟩ := acts_stopRun hnew h
    exact .of_acts hacts (.stop (run_workflowOf hmem) hopen)

section Creation

variable {c : RunCreation} {k : String}

theorem acts_insertRunRow {runs : Table RunRow} {versions : Table VersionRow}
    (h : db.runs.insert? run = some runs) :
    Acts run.runRef (fun w => { w with run := some run.state }) db { db with runs, versions } := by
  intro r
  refine Workflow.eq_ite ?_ (ite_self _).symm (ite_self _).symm (ite_self _).symm
    (ite_self _).symm (ite_self _).symm
  change (runs.find? r).map _ = _
  rw [Table.find?_insert? h]
  by_cases hr : r = run.runRef
  · rw [if_pos hr, if_pos (show r = key run from hr)]
    rfl
  · rw [if_neg hr, if_neg (show r ≠ key run from hr)]
    rfl

theorem keeps_insertSnapshot {m : VersionMeta} {spec : RunSpec}
    (h : insertSnapshot now c m spec db = .ok db') : Keeps db db' := by
  unfold insertSnapshot at h
  cases hm : m.snapshotRef with
  | none =>
    rw [hm] at h
    obtain rfl := Except.ok.inj h
    exact fun _ => rfl
  | some ref =>
    rw [hm] at h
    obtain ⟨_, -, h⟩ := bind_eq_ok.1 h
    obtain ⟨_, -, h⟩ := bind_eq_ok.1 h
    obtain rfl := Except.ok.inj h
    exact fun _ => rfl

theorem acts_insertStage {row : StageRow} (h : insertStage row db = .ok db') :
    Acts row.runRef (fun w => { w with stages := w.stages ++ [row.state] }) db db' := by
  obtain ⟨stages, hs, h⟩ := bind_eq_ok.1 h
  obtain rfl := Except.ok.inj h
  intro r
  refine Workflow.eq_ite (ite_self _).symm ?_ (ite_self _).symm (ite_self _).symm
    (ite_self _).symm (ite_self _).symm
  change (stages.select _).map _ = _
  rw [Table.select_insert? (orRaise_eq_ok.1 hs)]
  by_cases hr : r = row.runRef
  · simp [hr, workflowOf, stageStates]
  · simp [hr, Ne.symm hr, workflowOf, stageStates]

theorem acts_insertStages {rows : List StageRow} (hrows : ∀ s ∈ rows, s.runRef = k)
    (h : forEach insertStage rows db = .ok db') :
    Acts k (fun w => { w with stages := w.stages ++ rows.map StageRow.state }) db db' := by
  induction rows generalizing db with
  | nil =>
    obtain rfl := Except.ok.inj h
    exact (Acts.of_keeps fun _ => rfl).congr (by simp)
  | cons row rows ih =>
    obtain ⟨db₁, h₁, h⟩ := bind_eq_ok.1 h
    have hrow := acts_insertStage h₁
    rw [hrows row (List.mem_cons_self ..)] at hrow
    refine (hrow.trans (ih (fun s hs => hrows s (List.mem_cons_of_mem _ hs)) h)).congr ?_
    simp

theorem acts_insertGpuLease {gpu : String} (h : insertGpuLease now k gpu db = .ok db') :
    Acts k (fun w => { w with gpuLeases := w.gpuLeases ++ [gpu] }) db db' := by
  obtain ⟨leases, hl, h⟩ := bind_eq_ok.1 h
  obtain rfl := Except.ok.inj h
  intro r
  refine Workflow.eq_ite (ite_self _).symm (ite_self _).symm (ite_self _).symm
    (ite_self _).symm ?_ (ite_self _).symm
  change (leases.select _).map _ = _
  rw [Table.select_insert? (orRaise_eq_ok.1 hl)]
  by_cases hr : r = k
  · simp [hr, workflowOf, leasedGpus]
  · simp [hr, Ne.symm hr, workflowOf, leasedGpus]

theorem acts_insertGpuLeases {gpus : List String}
    (h : forEach (insertGpuLease now k) gpus db = .ok db') :
    Acts k (fun w => { w with gpuLeases := w.gpuLeases ++ gpus }) db db' := by
  induction gpus generalizing db with
  | nil =>
    obtain rfl := Except.ok.inj h
    exact (Acts.of_keeps fun _ => rfl).congr (by simp)
  | cons gpu gpus ih =>
    obtain ⟨db₁, h₁, h⟩ := bind_eq_ok.1 h
    exact ((acts_insertGpuLease h₁).trans (ih h)).congr (by simp)

theorem acts_insertPortLease {port : Option ℕ} (h : insertPortLease now c port db = .ok db') :
    Acts c.runRef (fun w => { w with
      portLeases := w.portLeases ++ (port.map fun p => (c.data.serverRef, p)).toList }) db db' := by
  cases port with
  | none =>
    obtain rfl := Except.ok.inj h
    exact (Acts.of_keeps fun _ => rfl).congr (by simp)
  | some port =>
    obtain ⟨leases, hl, h⟩ := bind_eq_ok.1 h
    obtain rfl := Except.ok.inj h
    intro r
    refine Workflow.eq_ite (ite_self _).symm (ite_self _).symm (ite_self _).symm
      (ite_self _).symm (ite_self _).symm ?_
    change (leases.select _).map _ = _
    rw [Table.select_insert? (orRaise_eq_ok.1 hl)]
    by_cases hr : r = c.runRef
    · simp [hr, workflowOf, leasedPorts]
    · simp [hr, Ne.symm hr, workflowOf, leasedPorts]

/-- The actions that a new run starts with. -/
def firstActions (mode : ExecutionMode) (ref : String) (stages : List StageState) :
    List ActionState :=
  match mode, stages with
  | .real, first :: _ => [⟨ref, some first.ref, .startTrainingStage, .queued⟩]
  | _, _ => []

theorem acts_queueFirstStage {stages : List StageRow}
    (h : queueFirstStage now c run stages db = .ok db') :
    Acts run.runRef (fun w => { w with
      actions := w.actions ++
        firstActions run.executionMode c.actionRef (stages.map StageRow.state) }) db db' := by
  unfold queueFirstStage at h
  unfold firstActions
  cases hm : run.executionMode with
  | simulation =>
    rw [hm] at h
    obtain rfl := Except.ok.inj h
    exact (Acts.of_keeps fun _ => rfl).congr (by simp)
  | real =>
    rw [hm] at h
    cases stages with
    | nil =>
      obtain rfl := Except.ok.inj h
      exact (Acts.of_keeps fun _ => rfl).congr (by simp)
    | cons first rest => exact acts_queueStageStart h

theorem acts_insertRun {model : ModelRow} {mode : ExecutionMode} {port : Option ℕ}
    {m : VersionMeta} {spec : RunSpec}
    (h : insertRun now c model mode port m spec db = .ok db')
    (hvacant : workflowOf db c.runRef = .vacant) :
    Acts c.runRef (fun _ => created (newRun now c mode model spec.stages).state
      ((spec.stages.mapIdx fun i s => newStage now c (i + 1) s).map StageRow.state)
      (firstActions mode c.actionRef
        ((spec.stages.mapIdx fun i s => newStage now c (i + 1) s).map StageRow.state))
      (port.map fun p => (c.data.serverRef, p)).toList) db db' := by
  obtain ⟨runs, hruns, h⟩ := bind_eq_ok.1 h
  obtain ⟨versions, -, h⟩ := bind_eq_ok.1 h
  obtain ⟨db₁, h₁, h⟩ := bind_eq_ok.1 h
  obtain ⟨db₂, h₂, h⟩ := bind_eq_ok.1 h
  obtain ⟨db₃, h₃, h⟩ := bind_eq_ok.1 h
  obtain ⟨db₄, h₄, h⟩ := bind_eq_ok.1 h
  obtain ⟨db₅, h₅, h⟩ := bind_eq_ok.1 h
  have hstages : ∀ s ∈ spec.stages.mapIdx (fun i s => newStage now c (i + 1) s),
      s.runRef = c.runRef := by
    intro s hs
    obtain ⟨i, hi, rfl⟩ := List.mem_mapIdx.1 hs
    rfl
  have hrow : Acts c.runRef _ db { db with runs, versions } :=
    acts_insertRunRow (orRaise_eq_ok.1 hruns)
  have hall := ((((hrow.keep (keeps_insertSnapshot h₁)).trans (acts_insertStages hstages h₂)).trans
    (acts_insertGpuLeases h₃)).trans (acts_insertPortLease h₄)).keep (keeps_insertIdempotency h₅)
  refine (hall.trans (acts_queueFirstStage h)).congr ?_
  rw [hvacant]
  simp [created, Workflow.vacant, newRun]

theorem newStages_numbers (stages : List StageInput) :
    ((stages.mapIdx fun i s => newStage now c (i + 1) s).map StageRow.state).map (·.number) =
      List.range' 1 stages.length := by
  refine List.ext_getElem (by simp) fun i _ _ => ?_
  simp [newStage, Nat.add_comm]

theorem moves_createNewRun {mode : ExecutionMode} {view : RunView} (hwf : Wf db)
    (h : createNewRun now c mode db = .ok (view, db')) : Moves ok db db' := by
  obtain ⟨_, -, h⟩ := bind_eq_ok.1 h
  obtain ⟨model, -, h⟩ := bind_eq_ok.1 h
  obtain ⟨_, -, h⟩ := bind_eq_ok.1 h
  obtain ⟨_, -, h⟩ := bind_eq_ok.1 h
  obtain ⟨port, -, h⟩ := bind_eq_ok.1 h
  obtain ⟨spec, -, h⟩ := bind_eq_ok.1 h
  obtain ⟨_, hlength, h⟩ := bind_eq_ok.1 h
  obtain ⟨db₁, hins, h⟩ := bind_eq_ok.1 h
  obtain ⟨_, -, h⟩ := bind_eq_ok.1 h
  cases h
  have hlength := not_not.1 (raiseIf_eq_ok.1 hlength)
  have hvacant : workflowOf db c.runRef = .vacant := by
    obtain ⟨runs, hruns, -⟩ := bind_eq_ok.1 hins
    have hfresh := Table.insert?_fresh (orRaise_eq_ok.1 hruns)
    refine (hwf c.runRef).vacant ?_
    simp only [workflowOf, runState, Option.map_eq_none_iff]
    exact Table.find?_eq_none_iff.2 hfresh
  have hacts := acts_insertRun hins hvacant
  refine Moves.trans (.of_acts hacts ?_) (.of_keeps fun _ => rfl)
  rw [hvacant]
  have hnodup := (workflowOf_keyed db₁ c.runRef).stages
  rw [hacts.self] at hnodup
  refine .create ⟨rfl, rfl⟩ ?_ hnodup ?_ ?_ ?_ ?_
  · intro s hs
    obtain ⟨row, hrow, rfl⟩ := List.mem_map.1 hs
    obtain ⟨i, hi, rfl⟩ := List.mem_mapIdx.1 hrow
    rfl
  · simpa using newStages_numbers spec.stages
  · simpa using hlength
  · cases mode with
    | simulation => rfl
    | real =>
      cases hs : spec.stages with
      | nil => simp [hs] at hlength
      | cons first rest =>
        refine ⟨(newStage now c 1 first).state, ?_, c.actionRef, rfl, ?_⟩
        · simp
        · simp [firstActions]
  · cases port <;> simp

theorem moves_createRun {view : RunView} (hwf : Wf db)
    (h : createRun now c db = .ok (view, db')) : Moves ok db db' := by
  obtain ⟨mode, -, h⟩ := bind_eq_ok.1 h
  split at h
  · obtain ⟨_, -, h⟩ := bind_eq_ok.1 h
    obtain ⟨_, -, h⟩ := bind_eq_ok.1 h
    cases h
    exact .refl db
  · exact moves_createNewRun hwf h

end Creation

theorem acts_markClaimed {workerId : String} {leaseMs : ℕ} :
    Acts run.runRef
      (Workflow.setRun fun r => { r with status := .preparing, owner := some workerId })
      db (markClaimed now workerId leaseMs run db) := by
  intro r
  refine Workflow.eq_ite ?_ (ite_self _).symm (ite_self _).symm (ite_self _).symm
    (ite_self _).symm (ite_self _).symm
  refine runState_update (by exact fun _ => rfl) (fun x _ hx => hx) fun x _ hx => ?_
  rw [if_pos hx]
  rfl

theorem acts_beginRun {workerId : String} {leaseMs : ℕ} :
    Acts run.runRef (Workflow.claimRun workerId) db
      (beginRun now run (markClaimed now workerId leaseMs run db)) := by
  have hclaim : Acts run.runRef _ db (markClaimed now workerId leaseMs run db) := acts_markClaimed
  have hnext : (nextPending? (markClaimed now workerId leaseMs run db) run.runRef).map _ = _ :=
    nextPending?_state
  rw [hclaim.self] at hnext
  unfold beginRun
  cases hn : nextPending? (markClaimed now workerId leaseMs run db) run.runRef with
  | none =>
    rw [hn] at hnext
    refine (hclaim.trans (acts_finishIn _ _ _)).congr ?_
    simp only [Workflow.claimRun, ← hnext, Option.map_none]
  | some next =>
    rw [hn] at hnext
    obtain ⟨hmem, hr⟩ := nextPending?_mem hn
    refine (hclaim.trans (acts_markPreparing hmem hr)).congr ?_
    simp only [Workflow.claimRun, ← hnext, Option.map_some]
    rfl

theorem moves_claimNextRun {workerId : String} {leaseMs : ℕ} {view : Option RunView}
    (h : claimNextRun now workerId leaseMs db = .ok (view, db')) : Moves ok db db' := by
  unfold claimNextRun at h
  split at h
  · cases h
    exact .refl db
  · rename_i run hfind
    obtain ⟨_, -, h⟩ := bind_eq_ok.1 h
    cases h
    have hmem : run ∈ db.runs := List.mem_of_find?_eq_some hfind
    have hp : run.executionMode = .simulation ∧ run.status = .queued := by
      simpa using List.find?_some hfind
    exact .of_acts acts_beginRun (.claimRun (run_workflowOf hmem) hp.1 hp.2)

theorem withView_eq {view : RunView} (h : withView r db = .ok (view, db')) : db' = db := by
  obtain ⟨_, -, h⟩ := bind_eq_ok.1 h
  cases h
  rfl

theorem of_ownedRun {workerId : String} (h : ownedRun db r workerId = .ok run) :
    run ∈ db.runs ∧ run.runRef = r ∧ run.state.owner ≠ none := by
  obtain ⟨hfind, howner⟩ := Option.filter_eq_some_iff.1 (orRaise_eq_ok.1 h)
  obtain ⟨hmem, href⟩ := Table.find?_eq_some_iff.1 hfind
  refine ⟨hmem, href, ?_⟩
  have howner : run.ownerId = some workerId := by simpa using howner
  simp [howner]

theorem moves_cancelStopped {view : RunView} (hrun : run ∈ db.runs)
    (howner : run.state.owner ≠ none) (hstop : run.status = .stopRequested)
    (h : cancelStopped now run db = .ok (view, db')) : Moves ok db db' := by
  obtain rfl := withView_eq h
  exact .of_acts (acts_finishIn _ _ _) (.cancelStopped (run_workflowOf hrun) howner hstop)

theorem acts_startStage {stage : StageRow} (hstage : stage ∈ db.stages)
    (hrun : stage.runRef = run.runRef) :
    Acts run.runRef (Workflow.startStage stage.state) db (startStage now run stage db) := by
  intro r
  refine Workflow.eq_ite ?_ ?_ (ite_self _).symm (ite_self _).symm (ite_self _).symm
    (ite_self _).symm
  · refine runState_update (by exact fun _ => rfl) (fun x _ hx => hx) fun x _ hx => ?_
    rw [if_pos hx]
    rfl
  · refine stageStates_set (by exact fun _ => ⟨rfl, rfl, rfl⟩) (fun s hs hp => ?_) fun s _ _ => ?_
    · exact runRef_of_ref hstage hrun s hs hp
    · exact Iff.rfl

theorem mem_of_firstStage? {p : StageStatus → Prop} [DecidablePred p] {stage : StageRow}
    (h : firstStage? ((stagesOf db r).filter fun s => p s.status) = some stage) :
    stage ∈ db.stages ∧ stage.runRef = r ∧ p stage.status := by
  obtain ⟨hmem, hp⟩ := List.mem_filter.1 (List.argmin_mem h)
  obtain ⟨hmem, hr⟩ := Table.mem_select.1 hmem
  exact ⟨hmem, hr, by simpa using hp⟩

theorem mem_of_activeStage? {ref : Option String} {p : StageStatus → Prop} [DecidablePred p]
    {stage : StageRow} (h : activeStage? db r ref p = some stage) :
    stage ∈ db.stages ∧ stage.runRef = r ∧ p stage.status := by
  unfold activeStage? at h
  cases ref with
  | none => exact mem_of_firstStage? h
  | some ref =>
    obtain ⟨hmem, hp⟩ := List.mem_filter.1 (List.mem_of_find?_eq_some h)
    obtain ⟨hmem, hr⟩ := Table.mem_select.1 hmem
    exact ⟨hmem, hr, by simpa using hp⟩

theorem moves_transitionRunning {workerId : String} {view : RunView}
    (h : transitionRunning now r workerId db = .ok (view, db')) : Moves ok db db' := by
  obtain ⟨run, hrun, h⟩ := bind_eq_ok.1 h
  obtain ⟨hmem, -, howner⟩ := of_ownedRun hrun
  split at h
  · exact moves_cancelStopped hmem howner ‹_› h
  · obtain ⟨_, hstatus, h⟩ := bind_eq_ok.1 h
    obtain ⟨stage, hstage, h⟩ := bind_eq_ok.1 h
    obtain ⟨hs, href, hpreparing⟩ := mem_of_firstStage? (p := (· = .preparing))
      (orRaise_eq_ok.1 hstage)
    obtain rfl := withView_eq h
    exact .of_acts (acts_startStage hs href) (.startStage (run_workflowOf hmem) howner
      (not_not.1 (raiseIf_eq_ok.1 hstatus)) (stage_mem_workflowOf hs href) hpreparing)

theorem moves_appendStep {workerId message : String} {m : StepMetric} {ref : Option String}
    {view : RunView} (h : appendStep now r workerId m message ref db = .ok (view, db')) :
    Moves ok db db' := by
  obtain ⟨run, hrun, h⟩ := bind_eq_ok.1 h
  obtain ⟨hmem, -, howner⟩ := of_ownedRun hrun
  split at h
  · exact moves_cancelStopped hmem howner ‹_› h
  · split at h
    · obtain rfl := withView_eq h
      exact .refl _
    · obtain ⟨stage, -, h⟩ := bind_eq_ok.1 h
      obtain rfl := withView_eq h
      exact .of_keeps fun _ => Workflow.ext (runState_keep (by exact fun _ => ⟨rfl, rfl⟩))
        (stageStates_keep (by exact fun _ => ⟨rfl, rfl, rfl⟩)) rfl rfl rfl rfl

theorem acts_failStage {stage : StageRow} {q : StageFinish} (hstage : stage ∈ db.stages)
    (hrun : stage.runRef = run.runRef) :
    Acts run.runRef (Workflow.failStage stage.state q.status) db
      (failStage now run stage q db) :=
  (acts_closeStage hstage hrun).trans (acts_finishIn _ _ _)

theorem keeps_renewRun {completed : ℕ} : Keeps db (renewRun now run completed db) := fun _ =>
  Workflow.ext (runState_keep (by exact fun _ => ⟨rfl, rfl⟩)) rfl rfl rfl rfl rfl

theorem acts_completeStage {stage : StageRow} {q : StageFinish} (hstage : stage ∈ db.stages)
    (hrun : stage.runRef = run.runRef) (h : completeStage now run stage q db = .ok db') :
    Acts run.runRef (Workflow.completeStage stage.state) db db' := by
  obtain ⟨db₁, hs, h⟩ := bind_eq_ok.1 h
  have hsucceed := acts_succeedStage hstage hrun hs
  have hnext : (nextPending? db₁ run.runRef).map _ = _ := nextPending?_state
  rw [hsucceed.self] at hnext
  have hlog : Keeps db₁ (db₁.log now run.runRef .info
      (stage.stageName ++ " simulation succeeded.") (some stage.stageRef)) := fun _ => rfl
  cases hn : nextPending? db₁ run.runRef with
  | some next =>
    simp only [hn] at h hnext
    cases h
    obtain ⟨hmem, href⟩ := nextPending?_mem hn
    refine ((hsucceed.keep hlog).trans
      ((acts_markPreparing (by exact hmem) href).keep keeps_renewRun)).congr ?_
    simp only [Workflow.completeStage, ← hnext, Option.map_some]
    rfl
  | none =>
    simp only [hn] at h hnext
    obtain ⟨db₂, ha, h⟩ := bind_eq_ok.1 h
    cases h
    refine ((hsucceed.keep hlog).trans
      ((acts_insertArtifact ha).trans (acts_finishIn _ _ _))).congr ?_
    simp only [Workflow.completeStage, ← hnext, Option.map_none]
    rfl

theorem moves_finishStage {workerId : String} {q : StageFinish} {view : RunView}
    (h : finishStage now r workerId q db = .ok (view, db')) : Moves ok db db' := by
  obtain ⟨run, hrun, hrest⟩ := bind_eq_ok.1 h
  obtain ⟨hmem, rfl, howner⟩ := of_ownedRun hrun
  split at hrest
  · exact moves_cancelStopped hmem howner ‹_› hrest
  · rename_i hstop
    obtain ⟨stage, hstage, hrest⟩ := bind_eq_ok.1 hrest
    obtain ⟨hs, href, hactive⟩ := mem_of_activeStage? (orRaise_eq_ok.1 hstage)
    split at hrest
    · rename_i hst
      obtain rfl := withView_eq hrest
      exact .of_acts (acts_failStage hs href) (.failStage (run_workflowOf hmem) howner hstop
        (stage_mem_workflowOf hs href) hactive hst)
    · obtain ⟨db₁, hc, hrest⟩ := bind_eq_ok.1 hrest
      obtain rfl := withView_eq hrest
      exact .of_acts (acts_completeStage hs href hc) (.completeStage (run_workflowOf hmem) howner
        hstop (stage_mem_workflowOf hs href) hactive)

theorem moves_giveUps {runs : List RunRow} {code message : Option String}
    (hruns : ∀ run ∈ runs, run ∈ db.runs ∧ run.executionMode = .simulation ∧
      ¬ run.status.Terminal) (hnodup : (runs.map (·.runRef)).Nodup) :
    Moves ok db (runs.foldl (fun db run => finishIn now run .lost code message db) db) := by
  induction runs generalizing db with
  | nil => exact .refl db
  | cons run runs ih =>
    obtain ⟨hnot, hnodup⟩ := List.nodup_cons.1 hnodup
    obtain ⟨hmem, hmode, hopen⟩ := hruns run (List.mem_cons_self ..)
    have hstep : Moves ok db (finishIn now run .lost code message db) :=
      .of_acts (acts_finishIn _ _ _) (.giveUp (run_workflowOf hmem) hmode hopen)
    refine hstep.trans (ih (fun x hx => ?_) hnodup)
    obtain ⟨hx', hrest⟩ := hruns x (List.mem_cons_of_mem _ hx)
    refine ⟨?_, hrest⟩
    have hne : ¬ x.runRef = run.runRef := fun he => hnot (List.mem_map.2 ⟨x, hx, he⟩)
    exact List.mem_map.2 ⟨x, hx', if_neg hne⟩

theorem moves_recoverStaleRuns : Moves ok db (recoverStaleRuns now db).2 := by
  refine moves_giveUps (fun run hrun => ?_) ?_
  · obtain ⟨hmem, hmode, hstatus, -⟩ := Table.mem_select.1 hrun
    refine ⟨hmem, hmode, RunStatus.not_terminal_iff.2 ?_⟩
    tauto
  · exact db.runs.nodup_keys.sublist (List.filter_sublist.map _)

theorem commits_of_ok {op : Op} {reply : Reply} (h : perform op db = .ok (reply, db')) :
    op.Commits db := by
  rw [Op.Commits, h]
  rfl

/-- A request makes changes only, and the reports it delivers meet the condition. -/
theorem Step.moves {e : Event} (h : Step db e db') (hwf : Wf db) (hok : e.1.Meets ok db) :
    Moves ok db db' := by
  rcases step_iff.1 h with ⟨reply, h, -⟩ | ⟨x, -, -, rfl⟩
  · have hok : e.1.ReportsMeet ok db := hok (commits_of_ok h)
    obtain ⟨op, answer⟩ := e
    cases op with
    | createRun now c =>
      obtain ⟨a, ha, -⟩ := answer_eq_ok.1 h
      exact moves_createRun hwf ha
    | stopRun now q =>
      obtain ⟨a, ha, -⟩ := answer_eq_ok.1 h
      exact moves_stopRun ha
    | pollTrainingActions now w limit tokens =>
      obtain ⟨a, ha, -⟩ := answer_eq_ok.1 h
      exact moves_pollTrainingActions hwf ha
    | finishTrainingAction now w q =>
      obtain ⟨a, ha, -⟩ := answer_eq_ok.1 h
      exact moves_finishTrainingAction hok ha
    | applyTrainingRunUpdates now w b =>
      obtain ⟨a, ha, -⟩ := answer_eq_ok.1 h
      exact moves_applyTrainingRunUpdates hok ha
    | claimNextRun now workerId leaseMs =>
      obtain ⟨a, ha, -⟩ := answer_eq_ok.1 h
      exact moves_claimNextRun ha
    | transitionRunning now runRef workerId =>
      obtain ⟨a, ha, -⟩ := answer_eq_ok.1 h
      exact moves_transitionRunning ha
    | appendStep now runRef workerId m message stageRef =>
      obtain ⟨a, ha, -⟩ := answer_eq_ok.1 h
      exact moves_appendStep ha
    | finishStage now runRef workerId q =>
      obtain ⟨a, ha, -⟩ := answer_eq_ok.1 h
      exact moves_finishStage ha
    | recoverStaleRuns now =>
      cases h
      exact moves_recoverStaleRuns
    | changeRegistry registry =>
      cases h
      exact .of_keeps fun _ => rfl
  · exact .refl _

def anyReport : Workflow → Report → Prop := fun _ _ => True

theorem batchMeets_anyReport (us : List (TrainingUpdate × NewRefs)) (db : Database) :
    BatchMeets anyReport now r us db := by
  induction us generalizing db with
  | nil => trivial
  | cons u us ih =>
    refine ⟨fun _ _ _ _ _ => trivial, ?_⟩
    cases applyUpdate now r u db with
    | ok db' => exact ih db'
    | error => trivial

theorem Op.meets_anyReport (op : Op) (db : Database) : op.Meets anyReport db := by
  intro _
  cases op with
  | applyTrainingRunUpdates now w b => exact fun _ => batchMeets_anyReport b.updates db
  | finishTrainingAction => exact fun _ _ _ _ => ⟨fun _ _ _ => trivial, fun _ => trivial⟩
  | _ => trivial

theorem Wf.moves (hwf : Wf db) (h : Moves ok db db') : Wf db' := fun r => (h r).wf (hwf r)

theorem wf_initial (registry : Registry) : Wf (.initial registry) := fun _ => wf_vacant

variable {l : List (Transition Database Event)}

theorem Wf.of_run (h : Run Step db l db') (hwf : Wf db) : Wf db' :=
  h.keeps hwf fun _ hx hwf => hwf.moves ((h.step_of_mem hx).moves hwf (Op.meets_anyReport _ _))

/-- A run whose reports meet the condition makes such changes only. -/
theorem moves_of_run (h : Run Step db l db') (hwf : Wf db)
    (hok : ∀ x ∈ l, x.label.1.Meets ok x.pre) : Moves ok db db' := by
  induction h with
  | nil => exact .refl _
  | snoc h hx ih =>
    have hpre := ih fun x hx => hok x (List.mem_append_left _ hx)
    exact hpre.trans (Step.moves hx (hwf.moves hpre) (hok _ List.mem_concat_self))

end DataJuicer.Training

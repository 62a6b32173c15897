import DataJuicer.Training.Workflow

/-! # The store refines the workflows

Each function of the store does to the workflow of its run what the function of the same
name says, and leaves the workflows of the other runs alone.
-/

namespace DataJuicer.Training

open Transaction

variable {db db' : Database} {now : Timestamp} {run : RunRow} {r : String}

section Statements

variable {k : String}

theorem runState_update {t : Table RunRow} {p : RunRow → Prop} [DecidablePred p]
    {f : RunRow → RunRow} {F : RunState → RunState} (hf : ∀ x, key (f x) = key x)
    (hp : ∀ x ∈ t, p x → x.runRef = k)
    (h : ∀ x ∈ t, x.runRef = k → (if p x then f x else x).state = F x.state) :
    runState (t.update p f hf) r =
      if r = k then (runState t r).map F else runState t r :=
  Table.map_find?_update_ref hp h r

theorem stageStates_update {t : Table StageRow} {p : StageRow → Prop} [DecidablePred p]
    {f : StageRow → StageRow} {F : StageState → StageState}
    (hf : ∀ x, key (f x) = key x ∧ (f x).runRef = x.runRef)
    (hp : ∀ x ∈ t, p x → x.runRef = k)
    (h : ∀ x ∈ t, x.runRef = k → (if p x then f x else x).state = F x.state) :
    stageStates (t.update p f fun x => (hf x).1) r =
      if r = k then (stageStates t r).map F else stageStates t r :=
  Table.map_select_update_ref (fun x => (hf x).2) hp h r

theorem actionStates_update {t : Table ActionRow} {p : ActionRow → Prop} [DecidablePred p]
    {f : ActionRow → ActionRow} {F : ActionState → ActionState}
    (hf : ∀ x, key (f x) = key x ∧ (f x).runRef = x.runRef)
    (hp : ∀ x ∈ t, p x → x.runRef = k)
    (h : ∀ x ∈ t, x.runRef = k → (if p x then f x else x).state = F x.state) :
    actionStates (t.update p f fun x => (hf x).1) r =
      if r = k then (actionStates t r).map F else actionStates t r :=
  Table.map_select_update_ref (fun x => (hf x).2) hp h r

/-- A statement that gives some stages of one run a status. -/
theorem stageStates_set {t : Table StageRow} {p : StageRow → Prop} [DecidablePred p]
    {f : StageRow → StageRow} {P : StageState → Prop} [DecidablePred P] {x : StageStatus}
    (hf : ∀ s, key (f s) = key s ∧ (f s).runRef = s.runRef ∧
      (f s).state = ⟨s.stageRef, s.stageNumber, s.outputDirectory, x⟩)
    (hp : ∀ s ∈ t, p s → s.runRef = k) (hP : ∀ s ∈ t, s.runRef = k → (p s ↔ P s.state)) :
    stageStates (t.update p f fun s => (hf s).1) r =
      if r = k then (stageStates t r).map fun s => if P s then { s with status := x } else s
      else stageStates t r := by
  refine stageStates_update (fun s => ⟨(hf s).1, (hf s).2.1⟩) hp fun s hst hk => ?_
  by_cases h : p s
  · simp [h, (hP s hst hk).1 h, (hf s).2.2]
  · have hP' : ¬ P s.state := fun hP' => h ((hP s hst hk).2 hP')
    simp [h, hP']

theorem actionStates_set {t : Table ActionRow} {p : ActionRow → Prop} [DecidablePred p]
    {f : ActionRow → ActionRow} {P : ActionState → Prop} [DecidablePred P] {x : ActionStatus}
    (hf : ∀ a, key (f a) = key a ∧ (f a).runRef = a.runRef ∧
      (f a).state = ⟨a.actionRef, a.stageRef, a.kind, x⟩)
    (hp : ∀ a ∈ t, p a → a.runRef = k) (hP : ∀ a ∈ t, a.runRef = k → (p a ↔ P a.state)) :
    actionStates (t.update p f fun a => (hf a).1) r =
      if r = k then (actionStates t r).map fun a => if P a then { a with status := x } else a
      else actionStates t r := by
  refine actionStates_update (fun a => ⟨(hf a).1, (hf a).2.1⟩) hp fun a hat hk => ?_
  by_cases h : p a
  · simp [h, (hP a hat hk).1 h, (hf a).2.2]
  · have hP' : ¬ P a.state := fun hP' => h ((hP a hat hk).2 hP')
    simp [h, hP']

/-- A statement that changes other columns of the runs. -/
theorem runState_keep {t : Table RunRow} {p : RunRow → Prop} [DecidablePred p]
    {f : RunRow → RunRow} (hf : ∀ x, key (f x) = key x ∧ (f x).state = x.state) :
    runState (t.update p f fun x => (hf x).1) r = runState t r := by
  have h : runState (t.update p f fun x => (hf x).1) r = (runState t r).map id := by
    refine Table.map_find?_update fun x _ _ => ?_
    by_cases hx : p x <;> simp [hx, (hf x).2]
  rwa [Option.map_id, id] at h

/-- A statement that changes other columns of the stages. -/
theorem stageStates_keep {t : Table StageRow} {p : StageRow → Prop} [DecidablePred p]
    {f : StageRow → StageRow}
    (hf : ∀ x, key (f x) = key x ∧ (f x).runRef = x.runRef ∧ (f x).state = x.state) :
    stageStates (t.update p f fun x => (hf x).1) r = stageStates t r :=
  Table.map_select_update_eq (fun x => by rw [(hf x).2.1]) fun x _ _ _ => (hf x).2.2

theorem leasedGpus_delete {t : Table GpuLeaseRow} :
    leasedGpus (t.delete fun l => l.runRef = k) r = if r = k then [] else leasedGpus t r :=
  Table.map_select_delete_ref k r

theorem leasedPorts_delete {t : Table PortLeaseRow} :
    leasedPorts (t.delete fun l => l.runRef = k) r = if r = k then [] else leasedPorts t r :=
  Table.map_select_delete_ref k r

end Statements

theorem Workflow.eq_ite {c : Prop} [Decidable c] {w a b : Workflow}
    (run : w.run = if c then a.run else b.run)
    (stages : w.stages = if c then a.stages else b.stages)
    (actions : w.actions = if c then a.actions else b.actions)
    (artifacts : w.artifacts = if c then a.artifacts else b.artifacts)
    (gpuLeases : w.gpuLeases = if c then a.gpuLeases else b.gpuLeases)
    (portLeases : w.portLeases = if c then a.portLeases else b.portLeases) :
    w = if c then a else b := by
  by_cases h : c <;> simp only [h, if_true, if_false] at * <;> apply Workflow.ext <;> assumption

/-- The step from `db` to `db'` does `F` to the workflow of one run and nothing to the others. -/
def Acts (k : String) (F : Workflow → Workflow) (db db' : Database) : Prop :=
  ∀ r, workflowOf db' r = if r = k then F (workflowOf db r) else workflowOf db r

/-- The step leaves all workflows alone. -/
def Keeps (db db' : Database) : Prop := ∀ r, workflowOf db' r = workflowOf db r

namespace Acts

variable {k : String} {F G : Workflow → Workflow} {db₁ db₂ : Database}

theorem self (h : Acts k F db db') : workflowOf db' k = F (workflowOf db k) :=
  (h k).trans (if_pos rfl)

theorem other (h : Acts k F db db') (hr : r ≠ k) : workflowOf db' r = workflowOf db r :=
  (h r).trans (if_neg hr)

theorem trans (h : Acts k F db db₁) (h' : Acts k G db₁ db₂) :
    Acts k (fun w => G (F w)) db db₂ := by
  intro r
  rw [h' r, h r]
  split_ifs <;> rfl

theorem keep (h : Acts k F db db₁) (h' : Keeps db₁ db₂) : Acts k F db db₂ := fun r =>
  (h' r).trans (h r)

theorem congr (h : Acts k F db db') (hF : F (workflowOf db k) = G (workflowOf db k)) :
    Acts k G db db' := by
  intro r
  rw [h r]
  split_ifs with hr
  · rw [hr, hF]
  · rfl

theorem of_keeps (h : Keeps db db₁) : Acts k id db db₁ := fun r => (h r).trans (ite_self _).symm

end Acts

theorem stageStates_giveUp {t : Table StageRow} {k : String} {x : StageStatus}
    {f g : StageRow → StageRow} (hx : x ≠ .pending)
    (hf : ∀ s, key (f s) = key s ∧ (f s).runRef = s.runRef ∧
      (f s).state = ⟨s.stageRef, s.stageNumber, s.outputDirectory, x⟩)
    (hg : ∀ s, key (g s) = key s ∧ (g s).runRef = s.runRef ∧
      (g s).state = ⟨s.stageRef, s.stageNumber, s.outputDirectory, .skipped⟩) :
    stageStates ((t.update (fun s => s.runRef = k ∧ s.status.Active) f fun s => (hf s).1).update
        (fun s => s.runRef = k ∧ s.status = .pending) g fun s => (hg s).1) r =
      if r = k then (stageStates t r).map fun s => { s with status :=
        if s.status.Active then x else if s.status = .pending then .skipped else s.status }
      else stageStates t r := by
  rw [stageStates_update (k := k) (F := fun s =>
      if s.status = .pending then { s with status := .skipped } else s)
    (fun s => ⟨(hg s).1, (hg s).2.1⟩) (fun s _ hs => hs.1) (fun s _ hs => ?_)]
  · rw [stageStates_update (k := k) (F := fun s =>
        if s.status.Active then { s with status := x } else s)
      (fun s => ⟨(hf s).1, (hf s).2.1⟩) (fun s _ hs => hs.1) (fun s _ hs => ?_)]
    · by_cases hr : r = k
      · simp only [hr, if_true, List.map_map]
        refine List.map_congr_left fun s _ => ?_
        by_cases ha : s.status.Active
        · simp [ha, hx]
        · by_cases hp : s.status = .pending
          · simp [hp, StageStatus.Active]
          · simp [ha, hp]
      · simp [hr]
    · by_cases h : s.status.Active <;> simp [hs, h, (hf s).2.2]
  · by_cases h : s.status = .pending <;> simp [hs, h, (hg s).2.2]

theorem stageStates_finish {t : Table StageRow} {k : String} (st : FinishStatus)
    (code message : Option String) :
    stageStates (finishStages now k st code message t) r =
      if r = k then (stageStates t r).map (StageState.finish st) else stageStates t r := by
  cases st with
  | succeeded =>
    have hid : StageState.finish .succeeded = id := rfl
    rw [hid, List.map_id, ite_self]
    rfl
  | cancelled =>
    simp only [finishStages]
    refine stageStates_update (by exact fun _ => ⟨rfl, rfl⟩) (fun s _ hs => hs.1) fun s _ hs => ?_
    by_cases h : s.status.Open
    · simp [hs, h, StageState.finish, StageStatus.finish]
      rfl
    · simp [h, StageState.finish, StageStatus.finish]
      rfl
  | failed =>
    exact stageStates_giveUp (x := .failed) (by decide) (by exact fun _ => ⟨rfl, rfl, rfl⟩)
      (by exact fun _ => ⟨rfl, rfl, rfl⟩)
  | lost =>
    exact stageStates_giveUp (x := .lost) (by decide) (by exact fun _ => ⟨rfl, rfl, rfl⟩)
      (by exact fun _ => ⟨rfl, rfl, rfl⟩)

theorem acts_finishIn (st : FinishStatus) (code message : Option String) :
    Acts run.runRef (Workflow.finish st) db (finishIn now run st code message db) := by
  intro r
  refine Workflow.eq_ite ?_ (stageStates_finish st code message) ?_ (ite_self _).symm
    leasedGpus_delete leasedPorts_delete
  · refine runState_update (by exact fun _ => rfl) (fun x _ hx => hx) fun x _ hx => ?_
    simp [hx, finishRunRow, RunRow.state, RunState.finish]
  · refine actionStates_update (by exact fun _ => ⟨rfl, rfl⟩) (fun a _ ha => ha.1) fun a _ ha => ?_
    by_cases h : a.status = .queued <;> simp [ha, h, ActionRow.state, ActionState.finish]

theorem acts_settleStops (k : String) :
    Acts k Workflow.settleStops db (settleStops now k db) := by
  intro r
  refine Workflow.eq_ite (ite_self _).symm (ite_self _).symm ?_ (ite_self _).symm
    (ite_self _).symm (ite_self _).symm
  exact actionStates_set (by exact fun _ => ⟨rfl, rfl, rfl⟩) (fun a _ ha => ha.1)
    fun a _ hk => by simp [hk]

theorem acts_settleStarts (stage : StageRow) :
    Acts run.runRef (Workflow.settleStarts stage.stageRef) db
      (settleStarts now run stage db) := by
  intro r
  refine Workflow.eq_ite (ite_self _).symm (ite_self _).symm ?_ (ite_self _).symm
    (ite_self _).symm (ite_self _).symm
  exact actionStates_set (by exact fun _ => ⟨rfl, rfl, rfl⟩) (fun a _ ha => ha.1)
    fun a _ hk => by simp [hk]

theorem acts_storeResult {q : ActionResult} {row : ActionRow} (hrow : row ∈ db.actions)
    (hq : row.actionRef = q.actionRef) :
    Acts row.runRef (Workflow.result q.actionRef (if q.succeeded then .succeeded else .failed)) db
      (storeResult now q db) := by
  intro r
  refine Workflow.eq_ite (ite_self _).symm (ite_self _).symm ?_ (ite_self _).symm
    (ite_self _).symm (ite_self _).symm
  refine actionStates_set (by exact fun _ => ⟨rfl, rfl, rfl⟩) (fun a ha he => ?_) fun a _ _ => ?_
  · rw [Table.eq_of_key ha hrow (he.trans hq.symm)]
  · exact Iff.rfl

theorem keeps_markUnresolved (k : String) (statuses : List RunStatus) :
    Keeps db (markUnresolved now k statuses db) := fun _ =>
  Workflow.ext (runState_keep (by exact fun _ => ⟨rfl, rfl⟩)) rfl rfl rfl rfl rfl

theorem acts_prepareStage {w : WorkerCredential} {a : ActionRow}
    (hstage : ∀ s ∈ db.stages, some s.stageRef = a.stageRef → s.runRef = a.runRef) :
    Acts a.runRef (Workflow.prepare a.state) db (prepareStage now w a db) := by
  intro r
  refine Workflow.eq_ite ?_ ?_ (ite_self _).symm (ite_self _).symm (ite_self _).symm
    (ite_self _).symm
  · refine runState_update (by exact fun _ => rfl) (fun x _ hx => hx.1) fun x _ hx => ?_
    by_cases h : x.status = .queued
    · simp [hx, h]
      rfl
    · simp [h]
  · refine stageStates_set (by exact fun _ => ⟨rfl, rfl, rfl⟩) (fun s hs hp => hstage s hs hp.1)
      fun s _ _ => ?_
    exact Iff.rfl

theorem acts_claimAction {w : WorkerCredential} {token : String} {row : ActionRow}
    (hrow : row ∈ db.actions) (hqueued : row.status = .queued)
    (hstage : ∀ s ∈ db.stages, some s.stageRef = row.stageRef → s.runRef = row.runRef) :
    Acts row.runRef (Workflow.claim row.state) db (claimAction now w token row db) := by
  have hset : Acts row.runRef (Workflow.setActions (fun b => b.ref = row.state.ref) .running) db
      { db with
        actions := db.actions.update
          (fun a => a.actionRef = row.actionRef ∧ a.status = .queued) (claimRow now w token)
          fun _ => rfl } := by
    intro r
    refine Workflow.eq_ite (ite_self _).symm (ite_self _).symm ?_ (ite_self _).symm
      (ite_self _).symm (ite_self _).symm
    refine actionStates_set (by exact fun _ => ⟨rfl, rfl, rfl⟩) (fun a ha he => ?_) fun a ha _ => ?_
    · rw [Table.eq_of_key ha hrow he.1]
    · refine ⟨fun he => he.1, fun he => ⟨he, ?_⟩⟩
      rw [Table.eq_of_key ha hrow he, hqueued]
  unfold claimAction Workflow.claim
  rw [ActionRow.state_kind]
  cases row.kind with
  | startTrainingStage => exact hset.trans (acts_prepareStage hstage)
  | stopTrainingRun => exact hset

theorem actionStates_update_all {t : Table ActionRow} {p : ActionRow → Prop} [DecidablePred p]
    {f : ActionRow → ActionRow} {F : ActionState → ActionState}
    (hf : ∀ x, key (f x) = key x ∧ (f x).runRef = x.runRef)
    (h : ∀ x ∈ t, x.runRef = r → (if p x then f x else x).state = F x.state) :
    actionStates (t.update p f fun x => (hf x).1) r = (actionStates t r).map F :=
  Table.map_select_update (fun x => by rw [(hf x).2]) h

theorem workflowOf_requeueExpired {nodeRef : String} :
    workflowOf (requeueExpired now nodeRef db) r = (workflowOf db r).requeue
      ((db.actions.select (ActionRow.Expired now nodeRef)).map (·.actionRef)) := by
  refine Workflow.ext rfl rfl ?_ rfl rfl rfl
  refine actionStates_update_all (by exact fun _ => ⟨rfl, rfl⟩) fun a ha _ => ?_
  have hiff : a.state.ref ∈ (db.actions.select (ActionRow.Expired now nodeRef)).map
      (·.actionRef) ↔ a.Expired now nodeRef := by
    simp only [List.mem_map, Table.mem_select]
    refine ⟨fun ⟨b, ⟨hb, hexp⟩, he⟩ => ?_, fun hexp => ⟨a, ⟨ha, hexp⟩, rfl⟩⟩
    rwa [← Table.eq_of_key hb ha he]
  by_cases h : a.Expired now nodeRef
  · rw [if_pos h]
    exact (if_pos (hiff.2 h)).symm
  · rw [if_neg h]
    exact (if_neg fun h' => h (hiff.1 h')).symm

theorem acts_failStart {q : ActionResult} (hq : q.code ≠ unresolvedLaunch) :
    Acts run.runRef (Workflow.failStart run.state) db (failStart now run q db) := by
  unfold failStart
  rw [if_neg hq]
  by_cases h : run.status = .stopRequested
  · rw [if_pos h]
    refine ((acts_settleStops _).trans (acts_finishIn _ _ _)).congr ?_
    exact (if_pos h).symm
  · rw [if_neg h]
    exact (acts_finishIn _ _ _).congr (if_neg h).symm

section Updates

variable {stage : StageRow}

/-- Another row with the reference of a stage of this run is that stage. -/
theorem runRef_of_ref (hstage : stage ∈ db.stages) (hrun : stage.runRef = run.runRef) :
    ∀ s ∈ db.stages, s.stageRef = stage.stageRef → s.runRef = run.runRef := by
  intro s hs he
  rw [Table.eq_of_key hs hstage he, hrun]

theorem acts_applyStarted (hstage : stage ∈ db.stages) (hrun : stage.runRef = run.runRef) :
    Acts run.runRef (Workflow.started stage.stageRef) db (applyStarted now run stage db) := by
  intro r
  refine Workflow.eq_ite ?_ ?_ ?_ (ite_self _).symm (ite_self _).symm (ite_self _).symm
  · refine runState_update (by exact fun _ => rfl) (fun x _ hx => hx.1) fun x _ hx => ?_
    by_cases h : x.status = .queued ∨ x.status = .preparing ∨ x.status = .running
    · simp [hx, h]
      rfl
    · simp [h]
  · refine stageStates_set (by exact fun _ => ⟨rfl, rfl, rfl⟩) (fun s hs hp => ?_) fun s _ _ => ?_
    · exact runRef_of_ref hstage hrun s hs hp.1
    · exact Iff.rfl
  · refine actionStates_set (by exact fun _ => ⟨rfl, rfl, rfl⟩) (fun a _ ha => ha.1)
      fun a _ hk => ?_
    simp [hk]

theorem keeps_applyLog {level : Option String} {lines : List LogLine} :
    Keeps db (applyLog now run stage level lines db) := by
  intro r
  unfold applyLog
  generalize lines.take 200 = taken
  induction taken generalizing db with
  | nil => rfl
  | cons line taken ih => exact ih

theorem keeps_applyMetric {step total : Option ℕ} {ms : List (String × String)}
    (h : applyMetric now run stage step total ms db = .ok db') : Keeps db db' := by
  obtain ⟨_, -, h⟩ := bind_eq_ok.1 h
  obtain ⟨_, -, h⟩ := bind_eq_ok.1 h
  obtain rfl := Except.ok.inj h
  exact fun _ => Workflow.ext (runState_keep (by exact fun _ => ⟨rfl, rfl⟩))
    (stageStates_keep (by exact fun _ => ⟨rfl, rfl, rfl⟩)) rfl rfl rfl rfl

theorem keeps_reconcileUnresolved : Keeps db (reconcileUnresolved now run db) := fun _ =>
  Workflow.ext (runState_keep (by exact fun _ => ⟨rfl, rfl⟩)) rfl rfl rfl rfl rfl

theorem keeps_recordBatch {w : WorkerCredential} {b : UpdateBatch} :
    Keeps db (recordBatch now w b db) := fun _ =>
  Workflow.ext (runState_keep (by exact fun _ => ⟨rfl, rfl⟩)) rfl rfl rfl rfl rfl

theorem acts_reconcileRunning {stage : Option StageRow}
    (hstage : ∀ s ∈ stage, s ∈ db.stages ∧ s.runRef = run.runRef) :
    Acts run.runRef (Workflow.foundRunning ((stage.map StageRow.state).map (·.ref))) db
      (reconcileRunning now run stage db) := by
  intro r
  refine Workflow.eq_ite ?_ ?_ (ite_self _).symm (ite_self _).symm (ite_self _).symm
    (ite_self _).symm
  · refine runState_update (by exact fun _ => rfl) (fun x _ hx => hx) fun x _ hx => ?_
    rw [if_pos hx]
    rfl
  · refine stageStates_set (by exact fun _ => ⟨rfl, rfl, rfl⟩) (fun s hs hp => ?_) fun s _ _ => ?_
    · obtain ⟨t, ht, he⟩ := Option.map_eq_some_iff.1 hp.symm
      obtain ⟨hmem, hrun⟩ := hstage t ht
      exact runRef_of_ref hmem hrun s hs he.symm
    · cases stage <;> exact Iff.rfl

theorem acts_cancelStage (hstage : stage ∈ db.stages) (hrun : stage.runRef = run.runRef) :
    Acts run.runRef
      (Workflow.setStages (fun s => s.ref = stage.stageRef ∧ s.status.Open) .cancelled) db
      (cancelStage now stage db) := by
  intro r
  refine Workflow.eq_ite (ite_self _).symm ?_ (ite_self _).symm (ite_self _).symm
    (ite_self _).symm (ite_self _).symm
  refine stageStates_set (by exact fun _ => ⟨rfl, rfl, rfl⟩) (fun s hs hp => ?_) fun s _ _ => ?_
  · exact runRef_of_ref hstage hrun s hs hp.1
  · exact Iff.rfl

theorem acts_setStage {f : StageRow → StageRow} {x : StageStatus} (hstage : stage ∈ db.stages)
    (hrun : stage.runRef = run.runRef) (hf : ∀ s, key (f s) = key s)
    (href : ∀ s, (f s).runRef = s.runRef)
    (hs : ∀ s, (f s).state = ⟨s.stageRef, s.stageNumber, s.outputDirectory, x⟩) :
    Acts run.runRef (Workflow.setStages (fun s => s.ref = stage.stageRef) x) db
      { db with stages := db.stages.update (fun s => s.stageRef = stage.stageRef) f hf } := by
  intro r
  refine Workflow.eq_ite (ite_self _).symm ?_ (ite_self _).symm (ite_self _).symm
    (ite_self _).symm (ite_self _).symm
  refine stageStates_set (fun s => ⟨hf s, href s, hs s⟩) (fun s hs hp => ?_) fun s _ _ => ?_
  · exact runRef_of_ref hstage hrun s hs hp
  · exact Iff.rfl

theorem acts_closeStage {st : FinishStatus} {code message : Option String}
    (hstage : stage ∈ db.stages) (hrun : stage.runRef = run.runRef) :
    Acts run.runRef (Workflow.setStages (fun s => s.ref = stage.stageRef) st.toStage) db
      (closeStage now stage st code message db) :=
  acts_setStage hstage hrun _ (by exact fun _ => rfl) (by exact fun _ => rfl)

theorem acts_markSucceeded (hstage : stage ∈ db.stages) (hrun : stage.runRef = run.runRef) :
    Acts run.runRef (Workflow.setStages (fun s => s.ref = stage.stageRef) .succeeded) db
      (markSucceeded now stage db) :=
  acts_setStage hstage hrun _ (by exact fun _ => rfl) (by exact fun _ => rfl)

theorem acts_markPreparing (hstage : stage ∈ db.stages) (hrun : stage.runRef = run.runRef) :
    Acts run.runRef (Workflow.setStages (fun s => s.ref = stage.stageRef) .preparing) db
      (markPreparing now stage db) :=
  acts_setStage hstage hrun _ (by exact fun _ => rfl) (by exact fun _ => rfl)

theorem acts_exitStopped (hstage : stage ∈ db.stages) (hrun : stage.runRef = run.runRef) :
    Acts run.runRef (Workflow.exitStopped stage.stageRef) db (exitStopped now run stage db) :=
  ((acts_settleStops _).trans (acts_cancelStage hstage hrun)).trans (acts_finishIn _ _ _)

theorem acts_exitUnsuccessful {terminal : FinishStatus} {e : Exit} (hstage : stage ∈ db.stages)
    (hrun : stage.runRef = run.runRef) :
    Acts run.runRef (Workflow.exitUnsuccessful stage.stageRef terminal) db
      (exitUnsuccessful now run stage terminal e db) := by
  have hclose : Acts run.runRef _ db (finishIn now run terminal e.failureCode e.failureMessage
      (closeStage now stage terminal e.failureCode e.failureMessage db)) :=
    (acts_closeStage hstage hrun).trans (acts_finishIn _ _ _)
  unfold exitUnsuccessful Workflow.exitUnsuccessful
  by_cases h : terminal = .cancelled
  · simp only [if_pos h]
    exact hclose.trans (acts_settleStops _)
  · simp only [if_neg h]
    exact hclose

theorem acts_insertArtifact {a : ArtifactRow} (h : insertArtifact a db = .ok db') :
    Acts a.runRef (Workflow.addArtifact a.state) db db' := by
  obtain ⟨artifacts, ha, hdb⟩ := bind_eq_ok.1 h
  obtain rfl := Except.ok.inj hdb
  intro r
  refine Workflow.eq_ite (ite_self _).symm (ite_self _).symm (ite_self _).symm ?_
    (ite_self _).symm (ite_self _).symm
  change (artifacts.select _).map _ = _
  rw [Table.select_insert? (orRaise_eq_ok.1 ha)]
  by_cases hr : r = a.runRef
  · simp [hr, Workflow.addArtifact, workflowOf, artifactStates]
  · simp [hr, Ne.symm hr, workflowOf, artifactStates]

theorem acts_succeedStage {ref : String} {simulated : Bool} (hstage : stage ∈ db.stages)
    (hrun : stage.runRef = run.runRef)
    (h : succeedStage now ref simulated run stage db = .ok db') :
    Acts run.runRef (Workflow.succeedStage stage.state) db db' := by
  obtain ⟨version, hv, h⟩ := bind_eq_ok.1 h
  obtain ⟨-, hkey⟩ := Table.find?_eq_some_iff.1 (orRaise_eq_ok.1 hv)
  have hinsert := acts_insertArtifact h
  rw [show version.runRef = run.runRef from hkey] at hinsert
  exact (acts_markSucceeded hstage hrun).trans hinsert

theorem acts_queueTrainingActionIn {a : ActionRow} (h : queueTrainingActionIn a db = .ok db') :
    Acts a.runRef (Workflow.addAction a.state) db db' := by
  obtain ⟨actions, ha, hdb⟩ := bind_eq_ok.1 h
  obtain rfl := Except.ok.inj hdb
  intro r
  refine Workflow.eq_ite (ite_self _).symm (ite_self _).symm ?_ (ite_self _).symm
    (ite_self _).symm (ite_self _).symm
  change (actions.select _).map _ = _
  rw [Table.select_insert? (orRaise_eq_ok.1 ha)]
  by_cases hr : r = a.runRef
  · simp [hr, Workflow.addAction, workflowOf, actionStates]
  · simp [hr, Ne.symm hr, workflowOf, actionStates]

theorem acts_queueStageStart {ref stageRef : String}
    (h : queueStageStart now ref run stageRef db = .ok db') :
    Acts run.runRef (Workflow.addAction ⟨ref, some stageRef, .startTrainingStage, .queued⟩) db
      db' := by
  obtain ⟨payload, -, h⟩ := bind_eq_ok.1 h
  exact acts_queueTrainingActionIn h

theorem argmin_map {α β : Type*} (f : β → ℕ) (g : α → β) (l : List α) :
    (l.map g).argmin f = (l.argmin fun a => f (g a)).map g := by
  induction l using List.reverseRecOn with
  | nil => rfl
  | append_singleton l a ih =>
    rw [List.map_append, List.map_singleton, List.argmin_concat, List.argmin_concat, ih]
    cases l.argmin fun a => f (g a) with
    | none => rfl
    | some b => by_cases h : f (g a) < f (g b) <;> simp [h]

theorem nextPending?_state : (nextPending? db r).map StageRow.state =
    (workflowOf db r).nextPending? := by
  unfold nextPending? Workflow.nextPending? firstStage?
  have hfilter : (workflowOf db r).stages.filter (fun s => s.status = .pending) =
      ((stagesOf db r).filter fun s => s.status = .pending).map StageRow.state :=
    List.filter_map
  rw [hfilter, argmin_map]
  rfl

theorem nextPending?_mem {next : StageRow} (h : nextPending? db r = some next) :
    next ∈ db.stages ∧ next.runRef = r := by
  have hmem := List.mem_of_mem_filter (List.argmin_mem h)
  exact Table.mem_select.1 hmem

theorem acts_advance {refs : NewRefs} {next : StageRow} (hnext : next ∈ db.stages)
    (hrun : next.runRef = run.runRef) (h : advance now refs run next db = .ok db') :
    Acts run.runRef (Workflow.advance refs.action next.state) db db' := by
  obtain ⟨db₁, hq, hdb⟩ := bind_eq_ok.1 h
  obtain rfl := Except.ok.inj hdb
  refine ((acts_markPreparing hnext hrun).trans (acts_queueStageStart hq)).trans fun r => ?_
  refine Workflow.eq_ite ?_ (ite_self _).symm (ite_self _).symm (ite_self _).symm
    (ite_self _).symm (ite_self _).symm
  refine runState_update (by exact fun _ => rfl) (fun x _ hx => hx) fun x _ hx => ?_
  rw [if_pos hx]
  rfl

theorem acts_complete {refs : NewRefs} (h : complete now refs run stage db = .ok db') :
    Acts run.runRef (Workflow.complete stage.state) db db' := by
  obtain ⟨db₁, ha, h⟩ := bind_eq_ok.1 h
  obtain ⟨refreshed, hr, hdb⟩ := bind_eq_ok.1 h
  obtain rfl := Except.ok.inj hdb
  obtain ⟨-, hkey⟩ := Table.find?_eq_some_iff.1 (orRaise_eq_ok.1 hr)
  have hfinish : Acts refreshed.runRef _ db₁ (finishIn now refreshed .succeeded none none db₁) :=
    acts_finishIn _ _ _
  rw [show refreshed.runRef = run.runRef from hkey] at hfinish
  exact (acts_insertArtifact ha).trans hfinish

theorem acts_exitSucceeded {refs : NewRefs} (hstage : stage ∈ db.stages)
    (hrun : stage.runRef = run.runRef) (h : exitSucceeded now refs run stage db = .ok db') :
    Acts run.runRef (Workflow.exitSucceeded refs.action stage.state) db db' := by
  obtain ⟨db₁, hs, h⟩ := bind_eq_ok.1 h
  have hsucceed := acts_succeedStage hstage hrun hs
  have hnext : (nextPending? db₁ run.runRef).map _ = _ := nextPending?_state
  rw [hsucceed.self] at hnext
  cases hn : nextPending? db₁ run.runRef with
  | some next =>
    rw [hn] at h hnext
    obtain ⟨hmem, href⟩ := nextPending?_mem hn
    refine (hsucceed.trans (acts_advance hmem href h)).congr ?_
    simp only [Workflow.exitSucceeded, ← hnext, Option.map_some]
  | none =>
    rw [hn] at h hnext
    refine (hsucceed.trans (acts_complete h)).congr ?_
    simp only [Workflow.exitSucceeded, ← hnext, Option.map_none]

theorem acts_applyExited {refs : NewRefs} {e : Exit} (hstage : stage ∈ db.stages)
    (hrun : stage.runRef = run.runRef) (h : applyExited now refs run stage e db = .ok db') :
    Acts run.runRef (Workflow.exited refs.action run.state stage.state
      (exitStatus (e.statusOr "failed"))) db db' := by
  have hsettle : Acts run.runRef _ db (settleStarts now run stage db) := acts_settleStarts stage
  unfold applyExited at h
  by_cases hstop : run.status = .stopRequested
  · simp only [if_pos hstop] at h
    obtain rfl := Except.ok.inj h
    refine (hsettle.trans (acts_exitStopped hstage hrun)).congr ?_
    exact (if_pos hstop).symm
  · simp only [if_neg hstop] at h
    cases ho : exitStatus (e.statusOr "failed") with
    | succeeded =>
      rw [ho] at h
      refine (hsettle.trans (acts_exitSucceeded hstage hrun h)).congr ?_
      exact (if_neg hstop).symm
    | failed | cancelled | lost =>
      rw [ho] at h
      obtain rfl := Except.ok.inj h
      refine (hsettle.trans (acts_exitUnsuccessful hstage hrun)).congr ?_
      exact (if_neg hstop).symm

end Updates

end DataJuicer.Training

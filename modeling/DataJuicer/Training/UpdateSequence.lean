import DataJuicer.Training.Operations
import DataJuicer.Training.UpdateTotality

/-! # The update sequence of a run

Only the updates of its worker advance the sequence number of a run, one batch at a time. Every
other operation of the centre leaves it as it is.
-/

namespace DataJuicer.Training

open Table Transaction

/-- `execution_update_seq`, zero before the run is created. -/
def updateSeq (db : Database) (runRef : String) : ℕ :=
  ((db.runs.find? runRef).map (·.executionUpdateSeq)).getD 0

/-- The step leaves all sequence numbers alone. -/
def SeqKept (db db' : Database) : Prop := ∀ runRef, updateSeq db' runRef = updateSeq db runRef

section

variable {db db' db₁ : Database} {now : Timestamp} {run : RunRow} {stage : StageRow}

theorem SeqKept.refl (db : Database) : SeqKept db db := fun _ => rfl

theorem SeqKept.trans (h : SeqKept db db₁) (h' : SeqKept db₁ db') : SeqKept db db' := fun r =>
  (h' r).trans (h r)

theorem SeqKept.of_runs (h : db'.runs = db.runs) : SeqKept db db' := by
  intro r
  rw [updateSeq, updateSeq, h]

/-- A statement that changes other columns of the runs. -/
theorem SeqKept.of_update {p : RunRow → Prop} [DecidablePred p] {f : RunRow → RunRow}
    (hf : ∀ r, key (f r) = key r ∧ (f r).executionUpdateSeq = r.executionUpdateSeq)
    (h : db'.runs = db.runs.update p f fun r => (hf r).1) : SeqKept db db' := by
  intro r
  have hkept : ((db.runs.update p f fun r => (hf r).1).find? r).map (·.executionUpdateSeq) =
      ((db.runs.find? r).map (·.executionUpdateSeq)).map id := by
    refine Table.map_find?_update fun row _ _ => ?_
    by_cases hp : p row
    · rw [if_pos hp, (hf row).2]
      rfl
    · rw [if_neg hp]
      rfl
  rw [updateSeq, updateSeq, h, hkept, Option.map_id, id]

/-- A statement that sets the sequence number of one run. -/
theorem seq_update {t : Table RunRow} {p : RunRow → Prop} [DecidablePred p] {f : RunRow → RunRow}
    {k : String} {n : ℕ} (hf : ∀ x, key (f x) = key x) (hp : ∀ x, p x → x.runRef = k)
    (h : ∀ x, x.runRef = k → (if p x then f x else x).executionUpdateSeq = n) (r : String) :
    ((t.update p f hf).find? r).map (·.executionUpdateSeq) =
      if r = k then ((t.find? r).map (·.executionUpdateSeq)).map fun _ => n
      else (t.find? r).map (·.executionUpdateSeq) :=
  Table.map_find?_update_ref (fun x _ => hp x) (fun x _ => h x) r

theorem SeqKept.forEach {α : Type} {f : α → Database → Except TrainingError Database}
    {as : List α} (h : Transaction.forEach f as db = .ok db')
    (hstep : ∀ a db db', f a db = .ok db' → SeqKept db db') : SeqKept db db' :=
  forEach_keeps (p := SeqKept db) h (.refl db) fun a _ d d' hd ha => hd.trans (hstep a d d' ha)

theorem SeqKept.foldl {α : Type} {f : Database → α → Database} (as : List α)
    (hstep : ∀ db a, SeqKept db (f db a)) : SeqKept db (as.foldl f db) := by
  induction as generalizing db with
  | nil => exact .refl db
  | cons a as ih => exact (hstep db a).trans ih

theorem seqKept_finishIn (st : FinishStatus) (code message : Option String) :
    SeqKept db (finishIn now run st code message db) :=
  .of_update (by exact fun _ => ⟨rfl, rfl⟩) rfl

theorem seqKept_applyLog {level : Option String} {lines : List LogLine} :
    SeqKept db (applyLog now run stage level lines db) :=
  .foldl _ fun _ _ => .of_runs rfl

theorem seqKept_applyMetric {step total : Option ℕ} {ms : List (String × String)}
    (h : applyMetric now run stage step total ms db = .ok db') : SeqKept db db' := by
  obtain ⟨_, -, h⟩ := bind_eq_ok.1 h
  obtain ⟨_, -, h⟩ := bind_eq_ok.1 h
  obtain rfl := Except.ok.inj h
  exact .of_update (by exact fun _ => ⟨rfl, rfl⟩) rfl

theorem seqKept_insertArtifact {a : ArtifactRow} (h : insertArtifact a db = .ok db') :
    SeqKept db db' := by
  obtain ⟨_, -, h⟩ := bind_eq_ok.1 h
  obtain rfl := Except.ok.inj h
  exact .of_runs rfl

theorem seqKept_succeedStage {ref : String} {simulated : Bool}
    (h : succeedStage now ref simulated run stage db = .ok db') : SeqKept db db' := by
  obtain ⟨_, -, h⟩ := bind_eq_ok.1 h
  have hmarked : SeqKept db (markSucceeded now stage db) := .of_runs rfl
  exact hmarked.trans (seqKept_insertArtifact h)

theorem seqKept_queueTrainingActionIn {a : ActionRow} (h : queueTrainingActionIn a db = .ok db') :
    SeqKept db db' := by
  obtain ⟨_, -, h⟩ := bind_eq_ok.1 h
  obtain rfl := Except.ok.inj h
  exact .of_runs rfl

theorem seqKept_queueStageStart {ref stageRef : String}
    (h : queueStageStart now ref run stageRef db = .ok db') : SeqKept db db' := by
  obtain ⟨_, -, h⟩ := bind_eq_ok.1 h
  exact seqKept_queueTrainingActionIn h

theorem seqKept_exitSucceeded {refs : NewRefs} (h : exitSucceeded now refs run stage db = .ok db') :
    SeqKept db db' := by
  obtain ⟨db₁, hsucceed, h⟩ := bind_eq_ok.1 h
  have hkept := seqKept_succeedStage hsucceed
  split at h
  · obtain ⟨db₂, hqueue, h⟩ := bind_eq_ok.1 h
    obtain rfl := Except.ok.inj h
    refine hkept.trans (SeqKept.trans (.of_runs rfl) ((seqKept_queueStageStart hqueue).trans ?_))
    exact .of_update (by exact fun _ => ⟨rfl, rfl⟩) rfl
  · obtain ⟨db₂, hinsert, h⟩ := bind_eq_ok.1 h
    obtain ⟨refreshed, -, h⟩ := bind_eq_ok.1 h
    obtain rfl := Except.ok.inj h
    exact hkept.trans ((seqKept_insertArtifact hinsert).trans (seqKept_finishIn _ _ _))

theorem seqKept_applyExited {refs : NewRefs} {e : Exit}
    (h : applyExited now refs run stage e db = .ok db') : SeqKept db db' := by
  have hsettle : SeqKept db (settleStarts now run stage db) := .of_runs rfl
  unfold applyExited at h
  dsimp only at h
  split at h
  · obtain rfl := Except.ok.inj h
    exact hsettle.trans (SeqKept.trans (.of_runs rfl) (seqKept_finishIn _ _ _))
  · split at h
    · exact hsettle.trans (seqKept_exitSucceeded h)
    · obtain rfl := Except.ok.inj h
      refine hsettle.trans ?_
      unfold exitUnsuccessful
      dsimp only
      split
      · exact SeqKept.trans (.of_runs rfl) ((seqKept_finishIn _ _ _).trans (.of_runs rfl))
      · exact SeqKept.trans (.of_runs rfl) (seqKept_finishIn _ _ _)

theorem seqKept_applyReconciliation {refs : NewRefs} {stage : Option StageRow} {e : Exit}
    (h : applyReconciliation now refs run stage e db = .ok db') : SeqKept db db' := by
  unfold applyReconciliation at h
  split at h
  · obtain rfl := Except.ok.inj h
    exact .of_update (by exact fun _ => ⟨rfl, rfl⟩) rfl
  · split at h
    · obtain rfl := Except.ok.inj h
      exact .of_update (by exact fun _ => ⟨rfl, rfl⟩) rfl
    · split at h
      · cases h
      · exact seqKept_applyExited h

theorem seqKept_applyTrainingUpdateIn {refs : NewRefs} {u : TrainingUpdate}
    (h : applyTrainingUpdateIn now refs run u db = .ok db') : SeqKept db db' := by
  obtain ⟨stage, -, h⟩ := bind_eq_ok.1 h
  obtain ⟨ref, body⟩ := u
  simp only at h
  cases body with
  | accepted | heartbeat =>
    obtain rfl := Except.ok.inj h
    exact .refl db
  | started =>
    cases stage with
    | none => cases h
    | some stage =>
      obtain rfl := Except.ok.inj h
      exact .of_update (by exact fun _ => ⟨rfl, rfl⟩) rfl
  | log level lines =>
    cases stage with
    | none => cases h
    | some stage =>
      obtain rfl := Except.ok.inj h
      exact seqKept_applyLog
  | metric step total ms =>
    cases stage with
    | none => cases h
    | some stage => exact seqKept_applyMetric h
  | checkpoint path step =>
    cases stage with
    | none => cases h
    | some stage =>
      obtain ⟨_, -, h⟩ := bind_eq_ok.1 h
      obtain ⟨_, -, h⟩ := bind_eq_ok.1 h
      obtain ⟨_, -, h⟩ := bind_eq_ok.1 h
      obtain rfl := Except.ok.inj h
      exact .of_runs rfl
  | reconciliation found => exact seqKept_applyReconciliation h
  | exited exit =>
    cases stage with
    | none => cases h
    | some stage => exact seqKept_applyExited h

theorem seqKept_applyUpdates {us : List (TrainingUpdate × NewRefs)} {runRef : String}
    (h : forEach (applyUpdate now runRef) us db = .ok db') : SeqKept db db' :=
  .forEach h fun _ _ _ hu => by
    obtain ⟨_, -, hu⟩ := bind_eq_ok.1 hu
    exact seqKept_applyTrainingUpdateIn hu

/-- A batch is already applied, or it is the next one of its run and is applied now. -/
theorem applyTrainingRunUpdates_seq {w : WorkerCredential} {b : UpdateBatch} {view : RunView}
    (h : applyTrainingRunUpdates now w b db = .ok (view, db')) :
    (b.workerSeq = updateSeq db b.runRef ∧ db' = db) ∨
      (b.workerSeq = updateSeq db b.runRef + 1 ∧
        ∀ r, updateSeq db' r = if r = b.runRef then b.workerSeq else updateSeq db r) := by
  obtain ⟨_, -, h⟩ := bind_eq_ok.1 h
  obtain ⟨run, hrun, h⟩ := bind_eq_ok.1 h
  obtain ⟨-, h⟩ := unit_bind_eq_ok.1 h
  have hfind : db.runs.find? b.runRef = some run :=
    (Option.filter_eq_some_iff.1 (orRaise_eq_ok.1 hrun)).1
  have hseq : updateSeq db b.runRef = run.executionUpdateSeq := by rw [updateSeq, hfind]; rfl
  rw [hseq]
  split at h
  · obtain ⟨_, -, h⟩ := bind_eq_ok.1 h
    cases h
    exact .inl ⟨‹_›, rfl⟩
  · obtain ⟨-, h⟩ := unit_bind_eq_ok.1 h
    obtain ⟨hnext, h⟩ := unit_bind_eq_ok.1 h
    obtain ⟨db₁, hloop, h⟩ := bind_eq_ok.1 h
    obtain ⟨_, -, h⟩ := bind_eq_ok.1 h
    cases h
    refine .inr ⟨not_not.1 (raiseIf_eq_ok.1 hnext), fun r => ?_⟩
    have hkeys : b.runRef ∈ db₁.runs.keys := by
      obtain ⟨hmem, hkey⟩ := Table.find?_eq_some_iff.1 hfind
      exact run_of_applyUpdates (hkey ▸ Table.key_mem_keys hmem) hloop
    obtain ⟨found, hfound⟩ := Table.exists_find? hkeys
    have hrecord : ((recordBatch now w b db₁).runs.find? r).map (·.executionUpdateSeq) =
        if r = b.runRef then ((db₁.runs.find? r).map (·.executionUpdateSeq)).map
          fun _ => b.workerSeq
        else (db₁.runs.find? r).map (·.executionUpdateSeq) := by
      refine seq_update (by exact fun _ => rfl) (fun x hx => hx) (fun x hx => ?_) r
      rw [if_pos hx]
    rw [updateSeq, hrecord]
    by_cases hr : r = b.runRef
    · rw [if_pos hr, if_pos hr, hr, hfound]
      rfl
    · rw [if_neg hr, if_neg hr]
      exact seqKept_applyUpdates hloop r

theorem seqKept_pollTrainingActions {w : WorkerCredential} {limit : ℕ} {tokens : String → String}
    {claimed : List ClaimedAction} (h : pollTrainingActions now w limit tokens db = .ok
      (claimed, db')) :
    SeqKept db db' := by
  obtain ⟨_, -, h⟩ := bind_eq_ok.1 h
  cases h
  refine SeqKept.trans (.of_runs rfl) (.foldl _ fun db row => ?_)
  unfold claimAction
  split
  · exact .of_update (by exact fun _ => ⟨rfl, rfl⟩) rfl
  · exact .of_runs rfl

theorem seqKept_failStart {q : ActionResult} : SeqKept db (failStart now run q db) := by
  unfold failStart
  split
  · exact .of_update (by exact fun _ => ⟨rfl, rfl⟩) rfl
  · split
    · exact SeqKept.trans (.of_runs rfl) (seqKept_finishIn _ _ _)
    · exact seqKept_finishIn _ _ _

theorem seqKept_finishTrainingAction {w : WorkerCredential} {q : ActionResult} {s : ActionStatus}
    (h : finishTrainingAction now w q db = .ok (s, db')) : SeqKept db db' := by
  obtain ⟨_, -, h⟩ := bind_eq_ok.1 h
  obtain ⟨row, -, h⟩ := bind_eq_ok.1 h
  obtain ⟨run, -, h⟩ := bind_eq_ok.1 h
  split at h
  · cases h
    exact .refl db
  · obtain ⟨-, h⟩ := unit_bind_eq_ok.1 h
    cases h
    refine SeqKept.trans (.of_runs rfl) ?_
    unfold settleAction
    split
    · exact seqKept_failStart
    · exact .of_update (by exact fun _ => ⟨rfl, rfl⟩) rfl
    · exact .refl _

theorem seqKept_requestStop {ref : String} (h : requestStop now ref run db = .ok db') :
    SeqKept db db' := by
  unfold requestStop at h
  split at h
  · obtain rfl := Except.ok.inj h
    exact SeqKept.trans (.of_runs rfl) (seqKept_finishIn _ _ _)
  · refine SeqKept.trans (.of_update (by exact fun _ => ⟨rfl, rfl⟩) rfl :
      SeqKept db (markStopRequested now run db)) ?_
    unfold queueStop at h
    split at h
    · exact seqKept_queueTrainingActionIn h
    · obtain rfl := Except.ok.inj h
      exact .refl _

theorem seqKept_insertIdempotency {r : IdempotencyRow} (h : insertIdempotency r db = .ok db') :
    SeqKept db db' := by
  obtain ⟨_, -, h⟩ := bind_eq_ok.1 h
  obtain rfl := Except.ok.inj h
  exact .of_runs rfl

theorem seqKept_stopRun {q : StopRequest} {view : RunView}
    (h : stopRun now q db = .ok (view, db')) : SeqKept db db' := by
  unfold stopRun at h
  split at h
  · obtain ⟨_, -, h⟩ := bind_eq_ok.1 h
    obtain ⟨_, -, h⟩ := bind_eq_ok.1 h
    cases h
    exact .refl db
  · obtain ⟨run, -, h⟩ := bind_eq_ok.1 h
    obtain ⟨_, -, h⟩ := bind_eq_ok.1 h
    obtain ⟨_, -, h⟩ := bind_eq_ok.1 h
    obtain ⟨db₁, hstop, h⟩ := bind_eq_ok.1 h
    obtain ⟨_, -, h⟩ := bind_eq_ok.1 h
    obtain ⟨db₂, hins, h⟩ := bind_eq_ok.1 h
    cases h
    exact (seqKept_requestStop hstop).trans (seqKept_insertIdempotency hins)

section

variable {c : RunCreation} {model : ModelRow} {mode : ExecutionMode} {port : Option ℕ}
  {m : VersionMeta} {spec : RunSpec}

/-- A new run starts with zero. -/
theorem seqKept_insertRunRow {runs : Table RunRow} {versions : Table VersionRow}
    (h : db.runs.insert? run = some runs) (hseq : run.executionUpdateSeq = 0) :
    SeqKept db { db with runs, versions } := by
  intro r
  change ((runs.find? r).map _).getD 0 = _
  rw [Table.find?_insert? h, updateSeq]
  split
  · next hr =>
    have hfresh : db.runs.find? r = none := by
      rw [hr]
      exact Table.find?_eq_none_iff.2 (Table.insert?_fresh h)
    rw [hfresh]
    exact hseq
  · rfl

theorem seqKept_insertRun (h : insertRun now c model mode port m spec db = .ok db') :
    SeqKept db db' := by
  obtain ⟨runs, hruns, h⟩ := bind_eq_ok.1 h
  obtain ⟨versions, -, h⟩ := bind_eq_ok.1 h
  obtain ⟨db₁, hsnapshot, h⟩ := bind_eq_ok.1 h
  obtain ⟨db₂, hstages, h⟩ := bind_eq_ok.1 h
  obtain ⟨db₃, hgpus, h⟩ := bind_eq_ok.1 h
  obtain ⟨db₄, hport, h⟩ := bind_eq_ok.1 h
  obtain ⟨db₅, hidempotency, h⟩ := bind_eq_ok.1 h
  have hrun : SeqKept db { db with runs, versions } :=
    seqKept_insertRunRow (orRaise_eq_ok.1 hruns) rfl
  have hsnapshot' : SeqKept { db with runs, versions } db₁ := by
    unfold insertSnapshot at hsnapshot
    split at hsnapshot
    · obtain rfl := Except.ok.inj hsnapshot
      exact .refl _
    · obtain ⟨_, -, hsnapshot⟩ := bind_eq_ok.1 hsnapshot
      obtain ⟨_, -, hsnapshot⟩ := bind_eq_ok.1 hsnapshot
      obtain rfl := Except.ok.inj hsnapshot
      exact .of_runs rfl
  have hstages' : SeqKept db₁ db₂ := .forEach hstages fun _ _ _ hs => by
    obtain ⟨_, -, hs⟩ := bind_eq_ok.1 hs
    obtain rfl := Except.ok.inj hs
    exact .of_runs rfl
  have hgpus' : SeqKept db₂ db₃ := .forEach hgpus fun _ _ _ hg => by
    obtain ⟨_, -, hg⟩ := bind_eq_ok.1 hg
    obtain rfl := Except.ok.inj hg
    exact .of_runs rfl
  have hport' : SeqKept db₃ db₄ := by
    unfold insertPortLease at hport
    split at hport
    · obtain rfl := Except.ok.inj hport
      exact .refl _
    · obtain ⟨_, -, hport⟩ := bind_eq_ok.1 hport
      obtain rfl := Except.ok.inj hport
      exact .of_runs rfl
  have hqueue : SeqKept db₅ db' := by
    unfold queueFirstStage at h
    split at h
    · exact seqKept_queueStageStart h
    · obtain rfl := Except.ok.inj h
      exact .refl _
  exact hrun.trans (hsnapshot'.trans (hstages'.trans (hgpus'.trans (hport'.trans
    ((seqKept_insertIdempotency hidempotency).trans hqueue)))))

theorem seqKept_createRun {view : RunView} (h : createRun now c db = .ok (view, db')) :
    SeqKept db db' := by
  obtain ⟨mode, -, h⟩ := bind_eq_ok.1 h
  split at h
  · obtain ⟨_, -, h⟩ := bind_eq_ok.1 h
    obtain ⟨_, -, h⟩ := bind_eq_ok.1 h
    cases h
    exact .refl db
  · obtain ⟨_, -, h⟩ := bind_eq_ok.1 h
    obtain ⟨model, -, h⟩ := bind_eq_ok.1 h
    obtain ⟨_, -, h⟩ := bind_eq_ok.1 h
    obtain ⟨_, -, h⟩ := bind_eq_ok.1 h
    obtain ⟨port, -, h⟩ := bind_eq_ok.1 h
    obtain ⟨spec, -, h⟩ := bind_eq_ok.1 h
    obtain ⟨_, -, h⟩ := bind_eq_ok.1 h
    obtain ⟨db₁, hins, h⟩ := bind_eq_ok.1 h
    obtain ⟨_, -, h⟩ := bind_eq_ok.1 h
    cases h
    exact (seqKept_insertRun hins).trans (.of_runs rfl)

end

theorem seqKept_claimNextRun {workerId : String} {leaseMs : ℕ} {view : Option RunView}
    (h : claimNextRun now workerId leaseMs db = .ok (view, db')) : SeqKept db db' := by
  unfold claimNextRun at h
  split at h
  · cases h
    exact .refl db
  · next run _ =>
    obtain ⟨_, -, h⟩ := bind_eq_ok.1 h
    cases h
    have hclaimed : SeqKept db (markClaimed now workerId leaseMs run db) :=
      .of_update (by exact fun _ => ⟨rfl, rfl⟩) rfl
    refine hclaimed.trans ?_
    unfold beginRun
    split
    · exact seqKept_finishIn _ _ _
    · exact .of_runs rfl

theorem seqKept_cancelStopped {view : RunView} (h : cancelStopped now run db = .ok (view, db')) :
    SeqKept db db' := by
  obtain rfl := withView_eq h
  exact seqKept_finishIn _ _ _

theorem seqKept_transitionRunning {runRef workerId : String} {view : RunView}
    (h : transitionRunning now runRef workerId db = .ok (view, db')) : SeqKept db db' := by
  obtain ⟨run, -, h⟩ := bind_eq_ok.1 h
  split at h
  · exact seqKept_cancelStopped h
  · obtain ⟨-, h⟩ := unit_bind_eq_ok.1 h
    obtain ⟨stage, -, h⟩ := bind_eq_ok.1 h
    obtain rfl := withView_eq h
    exact .of_update (by exact fun _ => ⟨rfl, rfl⟩) rfl

theorem seqKept_appendStep {runRef workerId message : String} {m : StepMetric}
    {ref : Option String} {view : RunView}
    (h : appendStep now runRef workerId m message ref db = .ok (view, db')) : SeqKept db db' := by
  obtain ⟨run, -, h⟩ := bind_eq_ok.1 h
  split at h
  · exact seqKept_cancelStopped h
  · split at h
    · obtain rfl := withView_eq h
      exact .refl _
    · obtain ⟨stage, -, h⟩ := bind_eq_ok.1 h
      obtain rfl := withView_eq h
      exact .of_update (by exact fun _ => ⟨rfl, rfl⟩) rfl

theorem seqKept_completeStage {q : StageFinish}
    (h : completeStage now run stage q db = .ok db') : SeqKept db db' := by
  obtain ⟨db₁, hsucceed, h⟩ := bind_eq_ok.1 h
  refine (seqKept_succeedStage hsucceed).trans ?_
  dsimp only at h
  split at h
  · cases h
    exact .of_update (by exact fun _ => ⟨rfl, rfl⟩) rfl
  · obtain ⟨db₂, hinsert, h⟩ := bind_eq_ok.1 h
    cases h
    exact SeqKept.trans (.of_runs rfl) ((seqKept_insertArtifact hinsert).trans
      (seqKept_finishIn _ _ _))

theorem seqKept_finishStage {runRef workerId : String} {q : StageFinish} {view : RunView}
    (h : finishStage now runRef workerId q db = .ok (view, db')) : SeqKept db db' := by
  obtain ⟨run, -, h⟩ := bind_eq_ok.1 h
  split at h
  · exact seqKept_cancelStopped h
  · obtain ⟨stage, -, h⟩ := bind_eq_ok.1 h
    split at h
    · obtain rfl := withView_eq h
      exact SeqKept.trans (.of_runs rfl) (seqKept_finishIn _ _ _)
    · obtain ⟨db₁, hcomplete, h⟩ := bind_eq_ok.1 h
      obtain rfl := withView_eq h
      exact seqKept_completeStage hcomplete

theorem seqKept_recoverStaleRuns : SeqKept db (recoverStaleRuns now db).2 :=
  .foldl _ fun _ _ => seqKept_finishIn _ _ _

/-- An operation that applies no updates leaves the sequence numbers alone. -/
theorem seqKept_perform {op : Op} {reply : Reply}
    (hop : ∀ now w b, op ≠ .applyTrainingRunUpdates now w b)
    (h : perform op db = .ok (reply, db')) : SeqKept db db' := by
  cases op with
  | applyTrainingRunUpdates now w b => exact absurd rfl (hop now w b)
  | recoverStaleRuns =>
    cases h
    exact seqKept_recoverStaleRuns
  | changeRegistry =>
    cases h
    exact .of_runs rfl
  | createRun =>
    obtain ⟨_, h, -⟩ := answer_eq_ok.1 h
    exact seqKept_createRun h
  | stopRun =>
    obtain ⟨_, h, -⟩ := answer_eq_ok.1 h
    exact seqKept_stopRun h
  | pollTrainingActions =>
    obtain ⟨_, h, -⟩ := answer_eq_ok.1 h
    exact seqKept_pollTrainingActions h
  | finishTrainingAction =>
    obtain ⟨_, h, -⟩ := answer_eq_ok.1 h
    exact seqKept_finishTrainingAction h
  | claimNextRun =>
    obtain ⟨_, h, -⟩ := answer_eq_ok.1 h
    exact seqKept_claimNextRun h
  | transitionRunning =>
    obtain ⟨_, h, -⟩ := answer_eq_ok.1 h
    exact seqKept_transitionRunning h
  | appendStep =>
    obtain ⟨_, h, -⟩ := answer_eq_ok.1 h
    exact seqKept_appendStep h
  | finishStage =>
    obtain ⟨_, h, -⟩ := answer_eq_ok.1 h
    exact seqKept_finishStage h

end

end DataJuicer.Training

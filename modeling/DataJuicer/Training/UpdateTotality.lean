import DataJuicer.Training.UpdateRequest
import DataJuicer.Training.Changes

/-! # Updates that do not raise

When the run, the stage and the version of an update exist and the references that the centre
draws are new, only a metric or a checkpoint can raise, and exactly for the values that the
database does not take.
-/

namespace DataJuicer.Training

open Transaction

structure Prepared (db : Database) (run : RunRow) (stage : StageRow) (refs : NewRefs) :
    Prop where
  run_mem : run ∈ db.runs
  stage_mem : stage ∈ db.stages
  stage_run : stage.runRef = run.runRef
  version : run.runRef ∈ db.versions.keys
  artifact : refs.artifact ∉ db.artifacts.keys
  versionArtifact : refs.versionArtifact ∉ refs.artifact :: db.artifacts.keys
  action : refs.action ∉ db.actions.keys

variable {now : Timestamp} {db : Database} {run : RunRow} {stage : StageRow} {refs : NewRefs}

theorem succeeds_insertArtifact_bind {a : ArtifactRow} {β : Type}
    {f : Database → Except TrainingError β} (ha : a.artifactRef ∉ db.artifacts.keys)
    (hf : ∀ artifacts, artifacts.keys = db.artifacts.keys ++ [a.artifactRef] →
      Succeeds (f { db with artifacts })) : Succeeds (insertArtifact a db >>= f) := by
  obtain ⟨artifacts, hins, hkeys⟩ := Table.exists_insert? (t := db.artifacts) (r := a) ha
  have h : insertArtifact a db = .ok { db with artifacts } := by
    simp [insertArtifact, hins, orRaise, bind, Except.bind, pure, Except.pure]
  rw [h]
  exact hf artifacts hkeys

theorem succeeds_queueTrainingActionIn {a : ActionRow} (ha : a.actionRef ∉ db.actions.keys) :
    Succeeds (queueTrainingActionIn a db) := by
  obtain ⟨actions, hins, -⟩ := Table.exists_insert? (t := db.actions) (r := a) ha
  exact succeeds_orRaise_bind.2 ⟨actions, hins, succeeds_ok _⟩

theorem succeeds_startActionPayload {r s : String} (hrun : r ∈ db.runs.keys)
    (hversion : r ∈ db.versions.keys) (hstage : s ∈ db.stages.keys) :
    Succeeds (startActionPayload db r s) := by
  obtain ⟨run, hrun⟩ := Table.exists_find? hrun
  obtain ⟨version, hversion⟩ := Table.exists_find? hversion
  obtain ⟨stage, hstage⟩ := Table.exists_find? hstage
  exact succeeds_orRaise_bind.2 ⟨run, hrun, succeeds_orRaise_bind.2 ⟨version, hversion,
    succeeds_orRaise_bind.2 ⟨stage, hstage, succeeds_ok _⟩⟩⟩

theorem succeeds_advance {next : StageRow} (hrun : run.runRef ∈ db.runs.keys)
    (hversion : run.runRef ∈ db.versions.keys) (hnext : next ∈ db.stages)
    (haction : refs.action ∉ db.actions.keys) : Succeeds (advance now refs run next db) := by
  have hstage : next.stageRef ∈ (markPreparing now next db).stages.keys := by
    have hkeys : (markPreparing now next db).stages.keys = db.stages.keys := by
      simp [markPreparing]
    exact hkeys ▸ Table.key_mem_keys hnext
  have hprepared : run.runRef ∈ (markPreparing now next db).runs.keys := hrun
  obtain ⟨payload, hpayload⟩ := succeeds_startActionPayload hprepared hversion hstage
  have hfresh : refs.action ∉ (markPreparing now next db).actions.keys := haction
  obtain ⟨db', hqueue⟩ := succeeds_queueTrainingActionIn
    (a := queuedAction now refs.action run.runRef (some next.stageRef) run.serverRef
      .startTrainingStage (.start payload)) hfresh
  exact succeeds_bind.2 ⟨db', bind_eq_ok.2 ⟨payload, hpayload, hqueue⟩, succeeds_ok _⟩

theorem succeeds_complete (hrun : run.runRef ∈ db.runs.keys)
    (hartifact : refs.versionArtifact ∉ db.artifacts.keys) :
    Succeeds (complete now refs run stage db) := by
  refine succeeds_insertArtifact_bind hartifact fun artifacts _ => ?_
  obtain ⟨refreshed, hfind⟩ := Table.exists_find? hrun
  exact succeeds_orRaise_bind.2 ⟨refreshed, hfind, succeeds_ok _⟩

theorem succeeds_exitSucceeded (h : Prepared db run stage refs) :
    Succeeds (exitSucceeded now refs run stage db) := by
  obtain ⟨version, hversion⟩ := Table.exists_find? h.version
  obtain ⟨-, hkey⟩ := Table.find?_eq_some_iff.1 hversion
  have hversion' : (markSucceeded now stage db).versions.find? run.runRef = some version :=
    hversion
  unfold exitSucceeded succeedStage
  rw [bind_assoc]
  refine succeeds_orRaise_bind.2 ⟨version, hversion, ?_⟩
  refine succeeds_insertArtifact_bind h.artifact fun artifacts hkeys => ?_
  split
  · rename_i next hnext
    exact succeeds_advance (Table.key_mem_keys h.run_mem) h.version (nextPending?_mem hnext).1
      h.action
  · refine succeeds_complete (Table.key_mem_keys h.run_mem) ?_
    have hfresh := h.versionArtifact
    simp only [List.mem_cons, not_or] at hfresh
    change refs.versionArtifact ∉ artifacts.keys
    rw [hkeys, List.mem_append, List.mem_singleton]
    rintro (hmem | heq)
    · exact hfresh.2 hmem
    · exact hfresh.1 heq

/-- Settling the start actions of a stage changes no key. -/
theorem Prepared.settleStarts (h : Prepared db run stage refs) :
    Prepared (settleStarts now run stage db) run stage refs where
  run_mem := h.run_mem
  stage_mem := h.stage_mem
  stage_run := h.stage_run
  version := h.version
  artifact := h.artifact
  versionArtifact := h.versionArtifact
  action := by
    have hkeys : (DataJuicer.Training.settleStarts now run stage db).actions.keys =
        db.actions.keys := by
      simp [Training.settleStarts]
    exact hkeys ▸ h.action

theorem succeeds_applyExited (e : Exit) (h : Prepared db run stage refs) :
    Succeeds (applyExited now refs run stage e db) := by
  unfold applyExited
  split
  · exact succeeds_ok _
  · split
    · exact succeeds_exitSucceeded h.settleStarts
    · exact succeeds_ok _

theorem succeeds_applyReconciliation (e : Exit) (h : Prepared db run stage refs) :
    Succeeds (applyReconciliation now refs run (some stage) e db) := by
  unfold applyReconciliation
  split
  · exact succeeds_ok _
  · split
    · exact succeeds_ok _
    · exact succeeds_applyExited e h

def MetricFits (now : Timestamp) (db : Database) (run : RunRow) (stage : StageRow)
    (step totalSteps : Option ℕ) : Prop :=
  Storable (step.getD 0 : ℕ) ∧ Storable ((totalSteps.filter (· ≠ 0)).getD stage.totalSteps : ℕ) ∧
    Storable (measuredSteps (progress now stage (step.getD 0) db.stages) run.runRef : ℕ)

theorem succeeds_applyMetric_iff {step totalSteps : Option ℕ} {ms : List (String × String)} :
    Succeeds (applyMetric now run stage step totalSteps ms db) ↔
      MetricFits now db run stage step totalSteps := by
  unfold applyMetric MetricFits
  simp only [succeeds_raiseIf_bind, not_or, not_not, and_assoc]
  exact and_congr_right fun _ => and_congr_right fun _ => and_iff_left (succeeds_ok _)

theorem succeeds_applyCheckpoint_iff {path : String} {step : Option ℤ}
    (h : Prepared db run stage refs) :
    Succeeds (applyCheckpoint now refs run stage path step db) ↔
      SafeCheckpointPath path ∧ ∀ n ∈ step, Storable n := by
  obtain ⟨version, hversion⟩ := Table.exists_find? h.version
  unfold applyCheckpoint
  rw [hversion]
  constructor
  · intro hs
    obtain ⟨hpath, hs⟩ := succeeds_raiseIf_bind.1 hs
    obtain ⟨_, -, hs⟩ := succeeds_orRaise_bind.1 hs
    obtain ⟨hstep, -⟩ := succeeds_raiseIf_bind.1 hs
    exact ⟨not_not.1 hpath, fun n hn => not_not.1 fun hlarge => hstep ⟨n, hn, hlarge⟩⟩
  · rintro ⟨hpath, hstep⟩
    refine succeeds_raiseIf_bind.2 ⟨not_not.2 hpath, ?_⟩
    refine succeeds_orRaise_bind.2 ⟨version, rfl, ?_⟩
    refine succeeds_raiseIf_bind.2 ⟨?_, succeeds_ok _⟩
    rintro ⟨n, hn, hlarge⟩
    exact hlarge (hstep n hn)

def BodyFits (now : Timestamp) (db : Database) (run : RunRow) (stage : StageRow) :
    UpdateBody → Prop
  | .metric step totalSteps _ => MetricFits now db run stage step totalSteps
  | .checkpoint path step => SafeCheckpointPath path ∧ ∀ n ∈ step, Storable n
  | _ => True

/-- An update of a stage is applied exactly when the database takes its values. -/
theorem succeeds_applyTrainingUpdateIn_iff {body : UpdateBody} (h : Prepared db run stage refs) :
    Succeeds (applyTrainingUpdateIn now refs run ⟨some stage.stageRef, body⟩ db) ↔
      BodyFits now db run stage body := by
  have hstage : updateStage db run ⟨some stage.stageRef, body⟩ = .ok (some stage) := by
    have hfind : db.stages.find? stage.stageRef = some stage :=
      Table.find?_eq_some_iff.2 ⟨h.stage_mem, rfl⟩
    have hfilter : (some stage).filter (fun s => decide (s.runRef = run.runRef)) = some stage :=
      Option.filter_eq_some_iff.2 ⟨rfl, by simpa using h.stage_run⟩
    simp only [updateStage, hfind, hfilter]
    rfl
  simp only [applyTrainingUpdateIn, hstage, bind, Except.bind]
  cases body with
  | metric step totalSteps ms => simpa only [BodyFits] using succeeds_applyMetric_iff
  | checkpoint path step => exact succeeds_applyCheckpoint_iff h
  | reconciliation found =>
    have hs : Succeeds (applyReconciliation now refs run (some stage) found db) :=
      succeeds_applyReconciliation found h
    exact iff_of_true hs trivial
  | exited exit => exact iff_of_true (succeeds_applyExited exit h) trivial
  | _ => exact iff_of_true (succeeds_ok _) trivial

structure Owned (db : Database) (w : WorkerCredential) (run : RunRow) : Prop where
  authentic : authenticateWorker db.registry w = .ok ⟨⟩
  node : run.serverRef = w.nodeRef
  real : run.executionMode = .real
  epoch : 1 ≤ run.executionOwnerEpoch

def nextRequest (run : RunRow) (update : Dict) : UpdateRequest :=
  ⟨run.runRef, run.executionOwnerEpoch, run.executionUpdateSeq + 1, [update]⟩

theorem run_of_applyTrainingUpdateIn {u : TrainingUpdate} {db' : Database} (hrun : run ∈ db.runs)
    (h : applyTrainingUpdateIn now refs run u db = .ok db') : run.runRef ∈ db'.runs.keys := by
  have hany : UpdateMeets anyReport db run.runRef u := fun _ _ _ _ _ => trivial
  have hmoves := moves_applyTrainingUpdateIn hrun hany h run.runRef
  have hne := (hmoves.extends (by simp [run_workflowOf hrun])).run_ne_none
    (by simp [run_workflowOf hrun])
  obtain ⟨s, hs⟩ := Option.ne_none_iff_exists'.1 hne
  obtain ⟨r, hr, -⟩ := Option.map_eq_some_iff.1 hs
  obtain ⟨hmem, hkey⟩ := Table.find?_eq_some_iff.1 hr
  exact hkey ▸ Table.key_mem_keys hmem

/-- The run that the request is about is found for its worker. -/
theorem find_owned {w : WorkerCredential} (hrun : run ∈ db.runs) (howned : Owned db w run) :
    ((db.runs.find? run.runRef).filter fun r => r.serverRef = w.nodeRef ∧
      r.executionMode = .real) = some run :=
  Option.filter_eq_some_iff.2
    ⟨Table.find?_eq_some_iff.2 ⟨hrun, rfl⟩, by simp [howned.node, howned.real]⟩

theorem run_of_applyUpdates {us : List (TrainingUpdate × NewRefs)} {db' : Database} {r : String}
    (hrun : r ∈ db.runs.keys) (h : forEach (applyUpdate now r) us db = .ok db') :
    r ∈ db'.runs.keys := by
  refine forEach_keeps (p := fun d => r ∈ d.runs.keys) h hrun fun u _ d d' _ hu => ?_
  obtain ⟨found, hfound, happly⟩ := bind_eq_ok.1 hu
  obtain ⟨hmem, hkey⟩ := Table.find?_eq_some_iff.1 (orRaise_eq_ok.1 hfound)
  exact hkey ▸ run_of_applyTrainingUpdateIn hmem happly

/-- The batch with the next number is answered exactly when its updates are applied. -/
theorem succeeds_applyTrainingRunUpdates_iff {w : WorkerCredential} {b : UpdateBatch}
    (hrun : run ∈ db.runs) (howned : Owned db w run) (href : b.runRef = run.runRef)
    (hepoch : b.ownerEpoch = run.executionOwnerEpoch)
    (hseq : b.workerSeq = run.executionUpdateSeq + 1) :
    Succeeds (applyTrainingRunUpdates now w b db) ↔
      Succeeds (forEach (applyUpdate now b.runRef) b.updates db) := by
  have hfind := find_owned hrun howned
  have hnew : ¬ b.workerSeq = run.executionUpdateSeq := by omega
  unfold applyTrainingRunUpdates
  rw [howned.authentic, href, hfind]
  constructor
  · intro h
    obtain ⟨_, -, h⟩ := succeeds_bind.1 h
    obtain ⟨r, hr, h⟩ := succeeds_bind.1 h
    obtain rfl := Option.some.inj (orRaise_eq_ok.1 hr)
    obtain ⟨-, h⟩ := succeeds_raiseIf_bind.1 h
    rw [if_neg hnew] at h
    obtain ⟨-, h⟩ := succeeds_raiseIf_bind.1 h
    obtain ⟨-, h⟩ := succeeds_raiseIf_bind.1 h
    obtain ⟨db', h, -⟩ := succeeds_bind.1 h
    exact ⟨db', h⟩
  · rintro ⟨db', h⟩
    refine succeeds_bind.2 ⟨⟨⟩, rfl, succeeds_bind.2 ⟨run, rfl, ?_⟩⟩
    refine succeeds_raiseIf_bind.2 ⟨not_not.2 hepoch.symm, ?_⟩
    rw [if_neg hnew]
    refine succeeds_raiseIf_bind.2 ⟨by omega, succeeds_raiseIf_bind.2 ⟨not_not.2 hseq, ?_⟩⟩
    refine succeeds_bind.2 ⟨db', h, ?_⟩
    have hkey : run.runRef ∈ db'.runs.keys := run_of_applyUpdates (Table.key_mem_keys hrun) h
    have hkey' : run.runRef ∈ (recordBatch now w b db').runs.keys := by
      simpa [recordBatch] using hkey
    obtain ⟨found, hfound⟩ := Table.exists_find? hkey'
    have hview : Succeeds (getRunIn (recordBatch now w b db') run.runRef) := by
      simp [getRunIn, hfound]
    obtain ⟨view, hview⟩ := hview
    exact succeeds_bind.2 ⟨view, hview, succeeds_ok _⟩

theorem succeeds_applyUpdates_single_iff {u : TrainingUpdate} (hrun : run ∈ db.runs) :
    Succeeds (forEach (applyUpdate now run.runRef) [(u, refs)] db) ↔
      Succeeds (applyTrainingUpdateIn now refs run u db) := by
  have hfind : db.runs.find? run.runRef = some run := Table.find?_eq_some_iff.2 ⟨hrun, rfl⟩
  have happly : applyUpdate now run.runRef (u, refs) db =
      applyTrainingUpdateIn now refs run u db := by
    simp only [applyUpdate, hfind]
    rfl
  rw [forEach, happly, succeeds_bind]
  constructor
  · rintro ⟨db', h, -⟩
    exact ⟨db', h⟩
  · rintro ⟨db', h⟩
    exact ⟨db', h, succeeds_ok _⟩

/-- The next request is answered exactly when it is valid and its update is applied. -/
theorem succeeds_updateTrainingRun_iff {w : WorkerCredential} {drawn : ℕ → NewRefs}
    {update : Dict} (hrun : run ∈ db.runs) (howned : Owned db w run) :
    Succeeds (updateTrainingRun now w drawn (nextRequest run update) db) ↔
      Succeeds (validateUpdates [update]) ∧
        Succeeds (applyTrainingUpdateIn now (drawn 0) run (readUpdate update) db) := by
  have hvalid : validateRequest (nextRequest run update) = validateUpdates [update] := by
    have hlt : ¬ run.executionOwnerEpoch < 1 := Nat.not_lt.2 howned.epoch
    simp [validateRequest, nextRequest, raiseIf, hlt, bind, Except.bind]
  have hmap : ∀ x : Except String Unit, Succeeds (x.mapError invalidRequest) ↔ Succeeds x := by
    intro x
    cases x <;> simp [Except.mapError]
  have hnext : Succeeds (applyTrainingRunUpdates now w ((nextRequest run update).batch drawn) db) ↔
      Succeeds (forEach (applyUpdate now run.runRef) [(readUpdate update, drawn 0)] db) :=
    succeeds_applyTrainingRunUpdates_iff hrun howned rfl rfl rfl
  unfold updateTrainingRun
  rw [succeeds_bind, hvalid, ← succeeds_applyUpdates_single_iff hrun, ← hnext]
  constructor
  · rintro ⟨x, hx, h⟩
    exact ⟨(hmap _).1 ⟨x, hx⟩, h⟩
  · rintro ⟨hx, h⟩
    obtain ⟨x, hx⟩ := (hmap _).2 hx
    exact ⟨x, hx, h⟩

end DataJuicer.Training

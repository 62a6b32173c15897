import DataJuicer.Training.Operations

/-! # The leases of claimed actions

An action is claimed by a poll only, which gives it a lease. Whatever else happens to a claimed
action, a later poll finds the lease over or the action no longer claimed.
-/

namespace DataJuicer.Training

open Transaction

variable {db db' : Database} {now : Timestamp} {run : RunRow} {stage : StageRow}

def ClaimsLeased (db : Database) : Prop :=
  ∀ a ∈ db.actions, a.status = .running → a.leaseExpiresAt.isSome

namespace ClaimsLeased

theorem congr (h : ClaimsLeased db) (hdb : db'.actions = db.actions) : ClaimsLeased db' := by
  unfold ClaimsLeased
  rwa [hdb]

theorem update (h : ClaimsLeased db) {p : ActionRow → Prop} [DecidablePred p]
    {f : ActionRow → ActionRow} (hf : ∀ a, key (f a) = key a)
    (hdb : db'.actions = db.actions.update p f hf)
    (hrow : ∀ a, (f a).status = .running → (f a).leaseExpiresAt.isSome) : ClaimsLeased db' := by
  intro a' ha'
  rw [hdb] at ha'
  obtain ⟨a, ha, rfl⟩ := List.mem_map.1 ha'
  split_ifs
  · exact hrow a
  · exact h a ha

theorem queueTrainingActionIn (h : ClaimsLeased db) {a : ActionRow} (ha : a.status = .queued)
    (hdb : queueTrainingActionIn a db = .ok db') : ClaimsLeased db' := by
  obtain ⟨actions, hinsert, hdb⟩ := bind_eq_ok.1 hdb
  cases hdb
  intro b hb hrunning
  rcases (Table.mem_insert? (orRaise_eq_ok.1 hinsert)).1 hb with hb | rfl
  · exact h b hb hrunning
  · rw [ha] at hrunning
    cases hrunning

theorem queueStageStart (h : ClaimsLeased db) {ref stageRef : String}
    (hdb : queueStageStart now ref run stageRef db = .ok db') : ClaimsLeased db' := by
  obtain ⟨payload, -, hdb⟩ := bind_eq_ok.1 hdb
  exact h.queueTrainingActionIn rfl hdb

theorem finishIn (h : ClaimsLeased db) (st : FinishStatus) (code message : Option String) :
    ClaimsLeased (finishIn now run st code message db) :=
  h.update (by exact fun _ => rfl) rfl fun _ hrunning => by cases hrunning

theorem settleStops (h : ClaimsLeased db) (runRef : String) :
    ClaimsLeased (settleStops now runRef db) :=
  h.update (by exact fun _ => rfl) rfl fun _ hrunning => by cases hrunning

theorem settleStarts (h : ClaimsLeased db) : ClaimsLeased (settleStarts now run stage db) :=
  h.update (by exact fun _ => rfl) rfl fun _ hrunning => by cases hrunning

theorem storeResult (h : ClaimsLeased db) (q : ActionResult) :
    ClaimsLeased (storeResult now q db) := by
  refine h.update (by exact fun _ => rfl) rfl fun a hrunning => ?_
  cases hq : q.succeeded <;> simp [hq] at hrunning

theorem failStart (h : ClaimsLeased db) (q : ActionResult) :
    ClaimsLeased (failStart now run q db) := by
  unfold Training.failStart
  split_ifs
  · exact h.congr rfl
  · exact (h.settleStops _).finishIn _ _ _
  · exact h.finishIn _ _ _

theorem claimAction (h : ClaimsLeased db) (w : WorkerCredential) (token : String)
    (row : ActionRow) : ClaimsLeased (claimAction now w token row db) := by
  unfold Training.claimAction
  cases row.kind with
  | startTrainingStage => exact h.update (by exact fun _ => rfl) rfl fun _ _ => rfl
  | stopTrainingRun => exact h.update (by exact fun _ => rfl) rfl fun _ _ => rfl

theorem pollTrainingActions (h : ClaimsLeased db) {w : WorkerCredential} {limit : ℕ}
    {tokens : String → String} {claimed : List ClaimedAction}
    (hdb : pollTrainingActions now w limit tokens db = .ok (claimed, db')) : ClaimsLeased db' := by
  obtain ⟨_, -, hdb⟩ := bind_eq_ok.1 hdb
  cases hdb
  have hrequeue : ClaimsLeased (requeueExpired now w.nodeRef db) :=
    h.update (by exact fun _ => rfl) rfl fun _ hrunning => by cases hrunning
  revert hrequeue
  generalize (eligibleActions _ _).take _ = rows
  generalize requeueExpired now w.nodeRef db = d
  intro hd
  induction rows generalizing d with
  | nil => exact hd
  | cons row rows ih => exact ih _ (hd.claimAction w _ row)

theorem finishTrainingAction (h : ClaimsLeased db) {w : WorkerCredential} {q : ActionResult}
    {x : ActionStatus} (hdb : finishTrainingAction now w q db = .ok (x, db')) :
    ClaimsLeased db' := by
  obtain ⟨_, -, hdb⟩ := bind_eq_ok.1 hdb
  obtain ⟨row, -, hdb⟩ := bind_eq_ok.1 hdb
  obtain ⟨run, -, hdb⟩ := bind_eq_ok.1 hdb
  split at hdb
  · cases hdb
    exact h
  · obtain ⟨_, -, hdb⟩ := bind_eq_ok.1 hdb
    cases hdb
    unfold settleAction
    split
    · exact (h.storeResult q).failStart q
    · exact (h.storeResult q).congr rfl
    · exact h.storeResult q

theorem applyLog (h : ClaimsLeased db) (level : Option String) (lines : List LogLine) :
    ClaimsLeased (applyLog now run stage level lines db) := by
  unfold Training.applyLog
  generalize lines.take 200 = ls
  induction ls generalizing db with
  | nil => exact h
  | cons l ls ih => exact ih (h.congr rfl)

theorem succeedStage (h : ClaimsLeased db) {ref : String} {simulated : Bool}
    (hdb : succeedStage now ref simulated run stage db = .ok db') : ClaimsLeased db' := by
  obtain ⟨version, -, hdb⟩ := bind_eq_ok.1 hdb
  obtain ⟨_, -, hdb⟩ := bind_eq_ok.1 hdb
  cases hdb
  exact h.congr rfl

theorem exitSucceeded (h : ClaimsLeased db) {refs : NewRefs}
    (hdb : exitSucceeded now refs run stage db = .ok db') : ClaimsLeased db' := by
  obtain ⟨db₁, hs, hdb⟩ := bind_eq_ok.1 hdb
  have h₁ := h.succeedStage hs
  split at hdb
  · next next _ =>
    obtain ⟨db₂, hq, hdb⟩ := bind_eq_ok.1 hdb
    cases hdb
    have hprepared : ClaimsLeased (markPreparing now next db₁) := h₁.congr rfl
    exact (hprepared.queueStageStart hq).congr rfl
  · obtain ⟨db₂, ha, hdb⟩ := bind_eq_ok.1 hdb
    obtain ⟨refreshed, -, hdb⟩ := bind_eq_ok.1 hdb
    obtain ⟨_, -, ha⟩ := bind_eq_ok.1 ha
    cases ha
    obtain rfl := Except.ok.inj hdb
    exact ClaimsLeased.finishIn (h₁.congr rfl) .succeeded none none

theorem exitUnsuccessful (h : ClaimsLeased db) (st : FinishStatus) (e : Exit) :
    ClaimsLeased (exitUnsuccessful now run stage st e db) := by
  have hclosed : ClaimsLeased (closeStage now stage st e.failureCode e.failureMessage db) :=
    h.congr rfl
  have hfinish : ClaimsLeased (Training.finishIn now run st e.failureCode e.failureMessage
      (closeStage now stage st e.failureCode e.failureMessage db)) := hclosed.finishIn _ _ _
  unfold Training.exitUnsuccessful
  dsimp only
  split_ifs
  · exact hfinish.settleStops _
  · exact hfinish

theorem exitStopped (h : ClaimsLeased db) : ClaimsLeased (exitStopped now run stage db) := by
  have hstage : ClaimsLeased (cancelStage now stage (Training.settleStops now run.runRef db)) :=
    (h.settleStops run.runRef).congr rfl
  exact hstage.finishIn _ _ _

theorem applyExited (h : ClaimsLeased db) {refs : NewRefs} {e : Exit}
    (hdb : applyExited now refs run stage e db = .ok db') : ClaimsLeased db' := by
  have h₁ : ClaimsLeased (Training.settleStarts now run stage db) := h.settleStarts
  unfold Training.applyExited at hdb
  dsimp only at hdb
  split_ifs at hdb
  · obtain rfl := Except.ok.inj hdb
    exact h₁.exitStopped
  · split at hdb
    · exact h₁.exitSucceeded hdb
    · obtain rfl := Except.ok.inj hdb
      exact h₁.exitUnsuccessful _ e

theorem applyReconciliation (h : ClaimsLeased db) {refs : NewRefs} {s : Option StageRow}
    {e : Exit} (hdb : applyReconciliation now refs run s e db = .ok db') : ClaimsLeased db' := by
  unfold Training.applyReconciliation at hdb
  split_ifs at hdb
  · obtain rfl := Except.ok.inj hdb
    exact h.congr rfl
  · obtain rfl := Except.ok.inj hdb
    exact h.congr rfl
  · cases s with
    | none => cases hdb
    | some stage => exact h.applyExited hdb

theorem applyStarted (h : ClaimsLeased db) : ClaimsLeased (applyStarted now run stage db) :=
  h.update (by exact fun _ => rfl) rfl fun _ hrunning => by cases hrunning

theorem applyMetric (h : ClaimsLeased db) {step total : Option ℕ}
    {measurements : List (String × String)}
    (hdb : applyMetric now run stage step total measurements db = .ok db') : ClaimsLeased db' := by
  obtain ⟨_, -, hdb⟩ := bind_eq_ok.1 hdb
  obtain ⟨_, -, hdb⟩ := bind_eq_ok.1 hdb
  obtain rfl := Except.ok.inj hdb
  exact h.congr rfl

theorem applyCheckpoint (h : ClaimsLeased db) {refs : NewRefs} {path : String} {step : Option ℤ}
    (hdb : applyCheckpoint now refs run stage path step db = .ok db') : ClaimsLeased db' := by
  obtain ⟨_, -, hdb⟩ := bind_eq_ok.1 hdb
  obtain ⟨_, -, hdb⟩ := bind_eq_ok.1 hdb
  obtain ⟨_, -, hdb⟩ := bind_eq_ok.1 hdb
  obtain rfl := Except.ok.inj hdb
  exact h.congr rfl

theorem applyTrainingUpdateIn (h : ClaimsLeased db) {refs : NewRefs} {u : TrainingUpdate}
    (hdb : applyTrainingUpdateIn now refs run u db = .ok db') : ClaimsLeased db' := by
  obtain ⟨stage, -, hdb⟩ := bind_eq_ok.1 hdb
  obtain ⟨ref, body⟩ := u
  simp only at hdb
  cases body with
  | accepted | heartbeat =>
    obtain rfl := Except.ok.inj hdb
    exact h
  | started =>
    cases stage with
    | none => cases hdb
    | some stage =>
      obtain rfl := Except.ok.inj hdb
      exact h.applyStarted
  | log level lines =>
    cases stage with
    | none => cases hdb
    | some stage =>
      obtain rfl := Except.ok.inj hdb
      exact h.applyLog level lines
  | metric step total measurements =>
    cases stage with
    | none => cases hdb
    | some stage => exact h.applyMetric hdb
  | checkpoint path step =>
    cases stage with
    | none => cases hdb
    | some stage => exact h.applyCheckpoint hdb
  | reconciliation e => exact h.applyReconciliation hdb
  | exited e =>
    cases stage with
    | none => cases hdb
    | some stage => exact h.applyExited hdb

theorem applyUpdates (h : ClaimsLeased db) {us : List (TrainingUpdate × NewRefs)}
    {runRef : String} (hdb : forEach (applyUpdate now runRef) us db = .ok db') :
    ClaimsLeased db' := by
  refine forEach_keeps hdb h fun u _ d d' hd hu => ?_
  obtain ⟨run, -, hu⟩ := bind_eq_ok.1 hu
  exact hd.applyTrainingUpdateIn hu

theorem applyTrainingRunUpdates (h : ClaimsLeased db) {w : WorkerCredential} {b : UpdateBatch}
    {view : RunView} (hdb : applyTrainingRunUpdates now w b db = .ok (view, db')) :
    ClaimsLeased db' := by
  obtain ⟨_, -, hdb⟩ := bind_eq_ok.1 hdb
  obtain ⟨run, -, hdb⟩ := bind_eq_ok.1 hdb
  obtain ⟨_, -, hdb⟩ := bind_eq_ok.1 hdb
  split at hdb
  · obtain ⟨_, -, hdb⟩ := bind_eq_ok.1 hdb
    cases hdb
    exact h
  · obtain ⟨_, -, hdb⟩ := bind_eq_ok.1 hdb
    obtain ⟨_, -, hdb⟩ := bind_eq_ok.1 hdb
    obtain ⟨db₁, h₁, hdb⟩ := bind_eq_ok.1 hdb
    obtain ⟨_, -, hdb⟩ := bind_eq_ok.1 hdb
    cases hdb
    exact (h.applyUpdates h₁).congr rfl

theorem requestStop (h : ClaimsLeased db) {ref : String}
    (hdb : requestStop now ref run db = .ok db') : ClaimsLeased db' := by
  have hcancel : ClaimsLeased (cancelQueued now run db) :=
    h.update (by exact fun _ => rfl) rfl fun _ hrunning => by cases hrunning
  have hmark : ClaimsLeased (markStopRequested now run db) := h.congr rfl
  unfold Training.requestStop at hdb
  split_ifs at hdb
  · obtain rfl := Except.ok.inj hdb
    exact hcancel.finishIn _ _ _
  · unfold queueStop at hdb
    split_ifs at hdb
    · exact hmark.queueTrainingActionIn rfl hdb
    · obtain rfl := Except.ok.inj hdb
      exact hmark

theorem stopRun (h : ClaimsLeased db) {q : StopRequest} {view : RunView}
    (hdb : stopRun now q db = .ok (view, db')) : ClaimsLeased db' := by
  unfold Training.stopRun at hdb
  split at hdb
  · obtain ⟨_, -, hdb⟩ := bind_eq_ok.1 hdb
    obtain ⟨_, -, hdb⟩ := bind_eq_ok.1 hdb
    cases hdb
    exact h
  · obtain ⟨run, -, hdb⟩ := bind_eq_ok.1 hdb
    obtain ⟨_, -, hdb⟩ := bind_eq_ok.1 hdb
    obtain ⟨_, -, hdb⟩ := bind_eq_ok.1 hdb
    obtain ⟨db₁, hstop, hdb⟩ := bind_eq_ok.1 hdb
    obtain ⟨_, -, hdb⟩ := bind_eq_ok.1 hdb
    obtain ⟨db₂, hinsert, hdb⟩ := bind_eq_ok.1 hdb
    obtain ⟨_, -, hinsert⟩ := bind_eq_ok.1 hinsert
    cases hinsert
    cases hdb
    exact (h.requestStop hstop).congr rfl

theorem insertRun (h : ClaimsLeased db) {c : RunCreation} {model : ModelRow}
    {mode : ExecutionMode} {port : Option ℕ} {m : VersionMeta} {spec : RunSpec}
    (hdb : insertRun now c model mode port m spec db = .ok db') : ClaimsLeased db' := by
  obtain ⟨runs, -, hdb⟩ := bind_eq_ok.1 hdb
  obtain ⟨versions, -, hdb⟩ := bind_eq_ok.1 hdb
  obtain ⟨db₁, hsnapshot, hdb⟩ := bind_eq_ok.1 hdb
  obtain ⟨db₂, hstages, hdb⟩ := bind_eq_ok.1 hdb
  obtain ⟨db₃, hgpus, hdb⟩ := bind_eq_ok.1 hdb
  obtain ⟨db₄, hport, hdb⟩ := bind_eq_ok.1 hdb
  obtain ⟨db₅, hidempotency, hdb⟩ := bind_eq_ok.1 hdb
  have h₁ : ClaimsLeased db₁ := by
    unfold insertSnapshot at hsnapshot
    split at hsnapshot
    · obtain rfl := Except.ok.inj hsnapshot
      exact h.congr rfl
    · obtain ⟨_, -, hsnapshot⟩ := bind_eq_ok.1 hsnapshot
      obtain ⟨_, -, hsnapshot⟩ := bind_eq_ok.1 hsnapshot
      obtain rfl := Except.ok.inj hsnapshot
      exact h.congr rfl
  have h₂ : ClaimsLeased db₂ := forEach_keeps hstages h₁ fun s _ d d' hd hs => by
    obtain ⟨_, -, hs⟩ := bind_eq_ok.1 hs
    obtain rfl := Except.ok.inj hs
    exact hd.congr rfl
  have h₃ : ClaimsLeased db₃ := forEach_keeps hgpus h₂ fun g _ d d' hd hg => by
    obtain ⟨_, -, hg⟩ := bind_eq_ok.1 hg
    obtain rfl := Except.ok.inj hg
    exact hd.congr rfl
  have h₄ : ClaimsLeased db₄ := by
    unfold insertPortLease at hport
    split at hport
    · obtain rfl := Except.ok.inj hport
      exact h₃
    · obtain ⟨_, -, hport⟩ := bind_eq_ok.1 hport
      obtain rfl := Except.ok.inj hport
      exact h₃.congr rfl
  have h₅ : ClaimsLeased db₅ := by
    obtain ⟨_, -, hidempotency⟩ := bind_eq_ok.1 hidempotency
    obtain rfl := Except.ok.inj hidempotency
    exact h₄.congr rfl
  unfold queueFirstStage at hdb
  split at hdb
  · exact h₅.queueStageStart hdb
  · obtain rfl := Except.ok.inj hdb
    exact h₅

theorem createRun (h : ClaimsLeased db) {c : RunCreation} {view : RunView}
    (hdb : createRun now c db = .ok (view, db')) : ClaimsLeased db' := by
  obtain ⟨mode, -, hdb⟩ := bind_eq_ok.1 hdb
  split at hdb
  · obtain ⟨_, -, hdb⟩ := bind_eq_ok.1 hdb
    obtain ⟨_, -, hdb⟩ := bind_eq_ok.1 hdb
    cases hdb
    exact h
  · obtain ⟨_, -, hdb⟩ := bind_eq_ok.1 hdb
    obtain ⟨model, -, hdb⟩ := bind_eq_ok.1 hdb
    obtain ⟨_, -, hdb⟩ := bind_eq_ok.1 hdb
    obtain ⟨_, -, hdb⟩ := bind_eq_ok.1 hdb
    obtain ⟨port, -, hdb⟩ := bind_eq_ok.1 hdb
    obtain ⟨spec, -, hdb⟩ := bind_eq_ok.1 hdb
    obtain ⟨_, -, hdb⟩ := bind_eq_ok.1 hdb
    obtain ⟨db₁, hinsert, hdb⟩ := bind_eq_ok.1 hdb
    obtain ⟨_, -, hdb⟩ := bind_eq_ok.1 hdb
    cases hdb
    exact (h.insertRun hinsert).congr rfl

theorem withView {runRef : String} (h : ClaimsLeased db) {view : RunView}
    (hdb : withView runRef db = .ok (view, db')) : ClaimsLeased db' := by
  obtain ⟨_, -, hdb⟩ := bind_eq_ok.1 hdb
  cases hdb
  exact h

theorem claimNextRun (h : ClaimsLeased db) {workerId : String} {leaseMs : ℕ}
    {view : Option RunView} (hdb : claimNextRun now workerId leaseMs db = .ok (view, db')) :
    ClaimsLeased db' := by
  unfold Training.claimNextRun at hdb
  split at hdb
  · cases hdb
    exact h
  · next run _ =>
    obtain ⟨_, -, hdb⟩ := bind_eq_ok.1 hdb
    cases hdb
    have hclaimed : ClaimsLeased (markClaimed now workerId leaseMs run db) := h.congr rfl
    unfold beginRun
    split
    · exact hclaimed.finishIn _ _ _
    · exact hclaimed.congr rfl

theorem transitionRunning (h : ClaimsLeased db) {runRef workerId : String} {view : RunView}
    (hdb : transitionRunning now runRef workerId db = .ok (view, db')) : ClaimsLeased db' := by
  obtain ⟨run, -, hdb⟩ := bind_eq_ok.1 hdb
  split at hdb
  · exact (h.finishIn _ _ _).withView hdb
  · obtain ⟨_, -, hdb⟩ := bind_eq_ok.1 hdb
    obtain ⟨stage, -, hdb⟩ := bind_eq_ok.1 hdb
    have hstart : ClaimsLeased (startStage now run stage db) := h.congr rfl
    exact hstart.withView hdb

theorem appendStep (h : ClaimsLeased db) {runRef workerId message : String} {m : StepMetric}
    {stageRef : Option String} {view : RunView}
    (hdb : appendStep now runRef workerId m message stageRef db = .ok (view, db')) :
    ClaimsLeased db' := by
  obtain ⟨run, -, hdb⟩ := bind_eq_ok.1 hdb
  split at hdb
  · exact (h.finishIn _ _ _).withView hdb
  · split at hdb
    · exact h.withView hdb
    · obtain ⟨stage, -, hdb⟩ := bind_eq_ok.1 hdb
      have hrecord : ClaimsLeased (recordStep now run stage m message db) := h.congr rfl
      exact hrecord.withView hdb

theorem completeStage (h : ClaimsLeased db) {q : StageFinish}
    (hdb : completeStage now run stage q db = .ok db') : ClaimsLeased db' := by
  obtain ⟨db₁, hs, hdb⟩ := bind_eq_ok.1 hdb
  have h₁ := h.succeedStage hs
  dsimp only at hdb
  split at hdb
  · obtain rfl := Except.ok.inj hdb
    exact h₁.congr rfl
  · obtain ⟨db₂, ha, hdb⟩ := bind_eq_ok.1 hdb
    obtain ⟨_, -, ha⟩ := bind_eq_ok.1 ha
    obtain rfl := Except.ok.inj ha
    obtain rfl := Except.ok.inj hdb
    exact ClaimsLeased.finishIn (h₁.congr rfl) .succeeded none none

theorem finishStage (h : ClaimsLeased db) {runRef workerId : String} {q : StageFinish}
    {view : RunView} (hdb : finishStage now runRef workerId q db = .ok (view, db')) :
    ClaimsLeased db' := by
  obtain ⟨run, -, hdb⟩ := bind_eq_ok.1 hdb
  split at hdb
  · exact (h.finishIn _ _ _).withView hdb
  · obtain ⟨stage, -, hdb⟩ := bind_eq_ok.1 hdb
    split at hdb
    · have hclose : ClaimsLeased
          (closeStage now stage q.status q.failureCode q.failureMessage db) := h.congr rfl
      exact (hclose.finishIn _ _ _).withView hdb
    · obtain ⟨db₁, hc, hdb⟩ := bind_eq_ok.1 hdb
      exact (h.completeStage hc).withView hdb

theorem recoverStaleRuns (h : ClaimsLeased db) : ClaimsLeased (recoverStaleRuns now db).2 := by
  unfold Training.recoverStaleRuns
  dsimp only
  generalize db.runs.select (RunRow.Stale now) = runs
  induction runs generalizing db with
  | nil => exact h
  | cons run runs ih => exact ih (h.finishIn _ _ _)

end ClaimsLeased

/-- Whatever is asked of the store, every claimed action has a lease. -/
theorem ClaimsLeased.step {e : Event} (h : Step db e db') (hl : ClaimsLeased db) :
    ClaimsLeased db' := by
  rcases step_iff.1 h with ⟨reply, h, -⟩ | ⟨x, -, -, rfl⟩
  · obtain ⟨op, reply'⟩ := e
    cases op with
    | createRun now c =>
      obtain ⟨a, ha, -⟩ := answer_eq_ok.1 h
      exact hl.createRun ha
    | stopRun now q =>
      obtain ⟨a, ha, -⟩ := answer_eq_ok.1 h
      exact hl.stopRun ha
    | pollTrainingActions now w limit tokens =>
      obtain ⟨a, ha, -⟩ := answer_eq_ok.1 h
      exact hl.pollTrainingActions ha
    | finishTrainingAction now w q =>
      obtain ⟨a, ha, -⟩ := answer_eq_ok.1 h
      exact hl.finishTrainingAction ha
    | applyTrainingRunUpdates now w b =>
      obtain ⟨a, ha, -⟩ := answer_eq_ok.1 h
      exact hl.applyTrainingRunUpdates ha
    | claimNextRun now workerId leaseMs =>
      obtain ⟨a, ha, -⟩ := answer_eq_ok.1 h
      exact hl.claimNextRun ha
    | transitionRunning now runRef workerId =>
      obtain ⟨a, ha, -⟩ := answer_eq_ok.1 h
      exact hl.transitionRunning ha
    | appendStep now runRef workerId m message stageRef =>
      obtain ⟨a, ha, -⟩ := answer_eq_ok.1 h
      exact hl.appendStep ha
    | finishStage now runRef workerId q =>
      obtain ⟨a, ha, -⟩ := answer_eq_ok.1 h
      exact hl.finishStage ha
    | recoverStaleRuns now =>
      cases h
      exact hl.recoverStaleRuns
    | changeRegistry registry =>
      cases h
      exact hl.congr rfl
  · exact hl

theorem claimsLeased_initial (registry : Registry) : ClaimsLeased (.initial registry) :=
  fun _ ha => absurd ha List.not_mem_nil

theorem claimsLeased_of_run {l : List (Transition Database Event)} {registry : Registry}
    (h : Run Step (.initial registry) l db) : ClaimsLeased db :=
  h.keeps (claimsLeased_initial registry) fun _ hx hl => hl.step (h.step_of_mem hx)

end DataJuicer.Training

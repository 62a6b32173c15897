import DataJuicer.Training.Changes

/-! # Terminal runs

A run that has ended keeps its status and makes no progress as long as no late report of its
worker is taken at face value: the centre applies a reconciliation, an exit or a failed start
without looking at the status of the run.
-/

namespace DataJuicer.Training

/-- The statuses of a stage that makes progress. -/
def StageStatus.Advanced (x : StageStatus) : Prop := x.Active ∨ x = .succeeded

instance : DecidablePred StageStatus.Advanced := fun _ => inferInstanceAs (Decidable (_ ∨ _))

theorem StageStatus.finish_of_advanced {st : FinishStatus} {x : StageStatus}
    (h : (x.finish st).Advanced) : x.finish st = x := by
  cases st <;> cases x <;> first | rfl | exact absurd h (by decide)

theorem FinishStatus.toStage_not_advanced {st : FinishStatus} (h : st ≠ .succeeded) :
    ¬ st.toStage.Advanced := by
  cases st with
  | succeeded => exact absurd rfl h
  | failed | cancelled | lost => decide

namespace Workflow

variable {ok : Workflow → Report → Prop} {w w' w'' : Workflow}

def Ended (w : Workflow) : Prop := ∃ r ∈ w.run, r.status.Terminal

/-- A report about a run that has ended says nothing new. -/
def RespectsEnd (w : Workflow) : Report → Prop
  | .startFailed => ∀ r ∈ w.run, r.status.Terminal → r.status = .failed
  | .stopAnswered => True
  | .started s => w.Ended → s.status ≠ .pending ∧ s.status ≠ .preparing
  | .foundRunning _ => ¬ w.Ended
  | .exited s outcome => ∀ r ∈ w.run, r.status.Terminal →
      r.status = outcome.toRun ∧ (outcome = .succeeded → s.status = .succeeded)

def Closed (w : Workflow) : Prop := w.Ended → ∀ s ∈ w.stages, s.status ≠ .pending

theorem Extends.pending (h : Extends w w') {s' : StageState} (hs' : s' ∈ w'.stages)
    (hp : s'.status = .pending) : ∃ s ∈ w.stages, s.ref = s'.ref ∧ s.status = .pending := by
  obtain ⟨x, hx, hpending⟩ := h.stages
  obtain ⟨s, hs, rfl⟩ := List.mem_map.1 (hx ▸ hs')
  exact ⟨s, hs, rfl, hpending s hp⟩

theorem Closed.of_extends (hw : Closed w) (h : Extends w w') (hrun : w'.Ended → w.Ended) :
    Closed w' := by
  intro hend s' hs' hp
  obtain ⟨s, hs, -, hp⟩ := h.pending hs' hp
  exact hw (hrun hend) s hs hp

theorem not_ended_setStatus {x : RunStatus} (hx : ¬ x.Terminal) :
    ¬ (w.setStatus x).Ended := by
  rintro ⟨r', hr', hterm⟩
  obtain ⟨r, -, rfl⟩ := Option.map_eq_some_iff.1 hr'
  exact hx hterm

theorem closed_of_not_ended (h : ¬ w.Ended) : Closed w := fun hend => absurd hend h

theorem closed_finish {st : FinishStatus} (h : st ≠ .succeeded) : Closed (w.finish st) := by
  rintro - s' hs' hp
  obtain ⟨s, -, rfl⟩ := List.mem_map.1 hs'
  have hp : s.status.finish st = .pending := hp
  revert hp
  cases st with
  | succeeded => exact absurd rfl h
  | failed | cancelled | lost => cases s.status <;> decide

theorem closed_complete {s : StageState} (h : w.nextPending? = none) : Closed (w.complete s) := by
  rintro - s' hs' hp
  obtain ⟨t, ht, -, hp⟩ := (extends_complete s).pending hs' hp
  have hnone := List.argmin_eq_none.1 h
  exact List.not_mem_nil (hnone ▸ List.mem_filter.2 ⟨ht, by simpa using hp⟩)

theorem closed_exitSucceeded {ref : String} {s : StageState} : Closed (w.exitSucceeded ref s) := by
  cases h : (w.succeedStage s).nextPending? with
  | none =>
    rw [exitSucceeded_of_last h]
    exact closed_complete h
  | some next =>
    rw [exitSucceeded_of_next h]
    exact closed_of_not_ended (not_ended_setStatus (by decide))

theorem closed_exitUnsuccessful {ref : String} {st : FinishStatus} (h : st ≠ .succeeded) :
    Closed (w.exitUnsuccessful ref st) := by
  unfold exitUnsuccessful
  split
  · exact closed_finish h
  · exact closed_finish h

theorem closed_exited {ref : String} {r : RunState} {s : StageState} {outcome : FinishStatus} :
    Closed (w.exited ref r s outcome) := by
  unfold exited
  split
  · exact closed_finish (by decide)
  · cases outcome with
    | succeeded => exact closed_exitSucceeded
    | failed | cancelled | lost => exact closed_exitUnsuccessful (by decide)

theorem closed_stop {ref : String} {r : RunState} : Closed (w.stop ref r) := by
  unfold stop
  split
  · exact closed_finish (by decide)
  · split <;> exact closed_of_not_ended (not_ended_setStatus (x := .stopRequested) (by decide))

theorem closed_claimRun {workerId : String} : Closed (w.claimRun workerId) := by
  cases h : w.nextPending? with
  | none =>
    rw [claimRun_of_none h]
    exact closed_finish (by decide)
  | some next =>
    rw [claimRun_of_next h]
    rintro ⟨r', hr', hterm⟩
    obtain ⟨r, -, rfl⟩ := Option.map_eq_some_iff.1 hr'
    exact absurd hterm preparing_open

theorem closed_completeStage {s : StageState} (hw : Closed w) : Closed (w.completeStage s) := by
  cases h : (w.succeedStage s).nextPending? with
  | none =>
    rw [completeStage_of_last h]
    exact closed_complete h
  | some next =>
    refine hw.of_extends (extends_completeStage s) fun hend => ?_
    rw [completeStage_of_next h] at hend
    exact hend

theorem closed_failStart {r : RunState} : Closed (w.failStart r) := by
  unfold failStart
  split <;> exact closed_finish (by decide)

theorem ended_setRun {f : RunState → RunState}
    (hf : ∀ r, (f r).status.Terminal ↔ r.status.Terminal) : (w.setRun f).Ended ↔ w.Ended := by
  simp [Ended, hf]

theorem ended_prepare {a : ActionState} : (w.prepare a).Ended ↔ w.Ended := by
  refine ended_setRun fun r => ?_
  split
  · rename_i h
    simp [h, RunStatus.Terminal]
  · rfl

theorem ended_claim {a : ActionState} : (w.claim a).Ended ↔ w.Ended := by
  cases hk : a.kind with
  | startTrainingStage =>
    rw [claim_of_start hk]
    exact ended_prepare
  | stopTrainingRun =>
    rw [claim_of_stop hk]
    rfl

theorem ended_started {ref : String} : (w.started ref).Ended ↔ w.Ended := by
  refine ended_setRun fun r => ?_
  split
  · rename_i h
    rcases h with h | h | h <;> simp [h, RunStatus.Terminal]
  · rfl

theorem Change.closed (h : Change ok w w') (hw : Closed w) : Closed w' := by
  cases h with
  | create hr =>
    refine closed_of_not_ended fun ⟨_, he, hterm⟩ => ?_
    obtain rfl := Option.some.inj he
    rw [hr.1] at hterm
    exact absurd hterm (by decide)
  | stop => exact closed_stop
  | requeue | result => exact hw
  | claim => exact hw.of_extends (extends_claim _) ended_claim.1
  | startFailed => exact closed_failStart
  | started => exact hw.of_extends (extends_started _) ended_started.1
  | foundRunning => exact closed_of_not_ended (not_ended_setStatus (by decide))
  | exited => exact closed_exited
  | claimRun => exact closed_claimRun
  | cancelStopped => exact closed_finish (by decide)
  | startStage => exact closed_of_not_ended (not_ended_setStatus (by decide))
  | failStage _ _ _ _ _ hst => exact closed_finish hst
  | completeStage => exact closed_completeStage hw
  | giveUp => exact closed_finish (by decide)

/-- The run has its status still, and neither its stages nor its starts have made progress. -/
structure Frozen (w w' : Workflow) : Prop where
  status : w'.run.map (·.status) = w.run.map (·.status)
  stages : ∀ s' ∈ w'.stages, s'.status.Advanced →
    ∃ s ∈ w.stages, s.ref = s'.ref ∧ s.status = s'.status
  starts : ∀ a' ∈ w'.actions, a'.kind = .startTrainingStage →
    ∃ a ∈ w.actions, a.ref = a'.ref ∧ a.kind = .startTrainingStage ∧
      (a'.status = .running → a.status = .running)

namespace Frozen

theorem refl (w : Workflow) : Frozen w w where
  status := rfl
  stages s hs _ := ⟨s, hs, rfl, rfl⟩
  starts a ha hk := ⟨a, ha, rfl, hk, id⟩

theorem trans (h : Frozen w w') (h' : Frozen w' w'') : Frozen w w'' where
  status := h'.status.trans h.status
  stages s'' hs'' hadv := by
    obtain ⟨s', hs', href', hst'⟩ := h'.stages s'' hs'' hadv
    obtain ⟨s, hs, href, hst⟩ := h.stages s' hs' (hst' ▸ hadv)
    exact ⟨s, hs, href.trans href', hst.trans hst'⟩
  starts a'' ha'' hk := by
    obtain ⟨a', ha', href', hk', hrun'⟩ := h'.starts a'' ha'' hk
    obtain ⟨a, ha, href, hk, hrun⟩ := h.starts a' ha' hk'
    exact ⟨a, ha, href.trans href', hk, fun h => hrun (hrun' h)⟩

theorem ended (h : Frozen w w') : w'.Ended ↔ w.Ended := by
  have hmap : ∀ w : Workflow, w.Ended ↔ ∃ x ∈ w.run.map (·.status), x.Terminal := by
    intro w
    simp [Ended]
  rw [hmap, hmap, h.status]

theorem setRun {f : RunState → RunState} (hf : ∀ r ∈ w.run, (f r).status = r.status) :
    Frozen w (w.setRun f) where
  status := by
    rw [setRun_run, Option.map_map]
    exact Option.map_congr hf
  stages s hs _ := ⟨s, hs, rfl, rfl⟩
  starts a ha hk := ⟨a, ha, rfl, hk, id⟩

theorem setStages {p : StageState → Prop} [DecidablePred p] {x : StageStatus}
    (h : ∀ s ∈ w.stages, p s → x.Advanced → s.status = x) : Frozen w (w.setStages p x) where
  status := rfl
  stages s' hs' hadv := by
    obtain ⟨s, hs, rfl⟩ := List.mem_map.1 hs'
    by_cases hp : p s
    · simp only [if_pos hp] at hadv ⊢
      exact ⟨s, hs, rfl, h s hs hp hadv⟩
    · simp only [if_neg hp]
      exact ⟨s, hs, rfl, rfl⟩
  starts a ha hk := ⟨a, ha, rfl, hk, id⟩

theorem setActions {p : ActionState → Prop} [DecidablePred p] {x : ActionStatus}
    (h : ∀ a ∈ w.actions, p a → a.kind = .startTrainingStage → x ≠ .running) :
    Frozen w (w.setActions p x) where
  status := rfl
  stages s hs _ := ⟨s, hs, rfl, rfl⟩
  starts a' ha' hk := by
    obtain ⟨a, ha, rfl⟩ := List.mem_map.1 ha'
    by_cases hp : p a
    · simp only [if_pos hp] at hk ⊢
      exact ⟨a, ha, rfl, hk, fun hx => absurd hx (h a ha hp hk)⟩
    · simp only [if_neg hp] at hk ⊢
      exact ⟨a, ha, rfl, hk, id⟩

theorem addArtifact (a : ArtifactState) : Frozen w (w.addArtifact a) where
  status := rfl
  stages s hs _ := ⟨s, hs, rfl, rfl⟩
  starts a ha hk := ⟨a, ha, rfl, hk, id⟩

theorem finish {st : FinishStatus} (h : ∀ r ∈ w.run, r.status = st.toRun) :
    Frozen w (w.finish st) where
  status := by
    rw [finish_run, Option.map_map]
    exact Option.map_congr fun r hr => (h r hr).symm
  stages s' hs' hadv := by
    obtain ⟨s, hs, rfl⟩ := List.mem_map.1 hs'
    exact ⟨s, hs, rfl, (StageStatus.finish_of_advanced hadv).symm⟩
  starts a' ha' hk := by
    obtain ⟨a, ha, rfl⟩ := List.mem_map.1 ha'
    unfold ActionState.finish at hk ⊢
    by_cases hq : a.status = .queued
    · simp only [if_pos hq] at hk ⊢
      exact ⟨a, ha, rfl, hk, by simp⟩
    · simp only [if_neg hq] at hk ⊢
      exact ⟨a, ha, rfl, hk, id⟩

end Frozen

theorem Ended.terminal (h : w.Ended) {r : RunState} (hr : w.run = some r) : r.status.Terminal := by
  obtain ⟨_, hr', hterm⟩ := h
  obtain rfl := Option.some.inj (hr.symm.trans hr')
  exact hterm

theorem Closed.nextPending? (hw : Closed w) (hend : w.Ended) : w.nextPending? = none := by
  unfold Workflow.nextPending?
  rw [List.argmin_eq_none, List.filter_eq_nil_iff]
  exact fun s hs hp => hw hend s hs (by simpa using hp)

theorem frozen_started {s : StageState} (hs : s ∈ w.stages) (hkeyed : w.Keyed) (hend : w.Ended)
    (hok : s.status ≠ .pending ∧ s.status ≠ .preparing) : Frozen w (w.started s.ref) := by
  have hstage : Frozen w (w.setStages (fun t => t.ref = s.ref ∧ t.status.Open) .running) := by
    refine .setStages fun t ht ⟨href, hopen⟩ _ => ?_
    obtain rfl := hkeyed.stage_eq ht hs href
    exact (hopen.resolve_left hok.1).resolve_left hok.2
  refine hstage.trans (.trans (.setRun fun r hr => ?_) (.setActions fun _ _ _ _ => by decide))
  have hterm := hend.terminal hr
  rw [if_neg]
  rintro (h | h | h) <;> exact absurd (h ▸ hterm) (by decide)

theorem frozen_exitSucceeded {ref : String} {s : StageState} (hend : w.Ended)
    (hclosed : Closed w) (hst : ∀ t ∈ w.stages, t.ref = s.ref → t.status = .succeeded)
    (hrun : ∀ r ∈ w.run, r.status = .succeeded) : Frozen w (w.exitSucceeded ref s) := by
  have hsucceed : Frozen w (w.succeedStage s) :=
    .trans (.setStages fun t ht href _ => hst t ht href) (.addArtifact _)
  have hlast : (w.succeedStage s).nextPending? = none :=
    (hclosed.of_extends (extends_succeedStage s) fun _ => hend).nextPending? (hsucceed.ended.2 hend)
  rw [exitSucceeded_of_last hlast]
  exact hsucceed.trans (.trans (.addArtifact _) (.finish hrun))

theorem frozen_exitUnsuccessful {ref : String} {st : FinishStatus} (hst : st ≠ .succeeded)
    (hrun : ∀ r ∈ w.run, r.status = st.toRun) : Frozen w (w.exitUnsuccessful ref st) := by
  have hclose : Frozen w ((w.setStages (fun s => s.ref = ref) st.toStage).finish st) :=
    .trans (.setStages fun _ _ _ h => absurd h (FinishStatus.toStage_not_advanced hst))
      (.finish hrun)
  unfold exitUnsuccessful
  split
  · exact hclose.trans (.setActions fun _ _ _ _ => by decide)
  · exact hclose

theorem frozen_exited {ref : String} {r : RunState} {s : StageState} {outcome : FinishStatus}
    (hr : w.run = some r) (hs : s ∈ w.stages) (hkeyed : w.Keyed) (hend : w.Ended)
    (hclosed : Closed w) (hst : r.status = outcome.toRun)
    (hstage : outcome = .succeeded → s.status = .succeeded) :
    Frozen w (w.exited ref r s outcome) := by
  have hstop : r.status ≠ .stopRequested := by
    rw [hst]
    cases outcome <;> decide
  have hrun : ∀ x ∈ w.run, x.status = outcome.toRun := by
    intro x hx
    obtain rfl := Option.some.inj (hr.symm.trans hx)
    exact hst
  have hsettle : Frozen w (w.settleStarts s.ref) := .setActions fun _ _ _ _ => by decide
  unfold exited
  refine hsettle.trans ?_
  rw [if_neg hstop]
  cases outcome with
  | succeeded =>
    refine frozen_exitSucceeded hend hclosed (fun t ht href => ?_) hrun
    exact hkeyed.stage_eq ht hs href ▸ hstage rfl
  | failed | cancelled | lost => exact frozen_exitUnsuccessful (by decide) hrun

/-- A change that follows no new report leaves a run that has ended as it is. -/
theorem Change.frozen (h : Change RespectsEnd w w') (hkeyed : w.Keyed) (hwf : w.Wf)
    (hclosed : Closed w) (hend : w.Ended) : Frozen w w' := by
  cases h with
  | create => exact absurd hend (by simp [Ended, vacant])
  | stop hr hopen | giveUp hr _ hopen => exact absurd (hend.terminal hr) hopen
  | requeue => exact .setActions fun _ _ _ _ => by decide
  | @claim _ _ a hr _ _ helig =>
    have hterm := hend.terminal hr
    cases hk : a.kind with
    | startTrainingStage =>
      rw [hk] at helig
      rcases helig with h | h <;> exact absurd (h ▸ hterm) (by decide)
    | stopTrainingRun =>
      rw [hk] at helig
      exact absurd ((show _ = _ from helig) ▸ hterm) (by decide)
  | result _ _ hx =>
    refine .setActions fun _ _ _ _ => ?_
    rcases hx with rfl | rfl <;> decide
  | startFailed hr _ _ _ hok =>
    have hst := hok _ hr (hend.terminal hr)
    unfold failStart
    rw [if_neg (by rw [hst]; decide)]
    refine .trans (.setActions fun _ _ _ _ => by decide) (.finish fun x hx => ?_)
    obtain rfl := Option.some.inj (hr.symm.trans hx)
    exact hst
  | started hs hok => exact frozen_started hs hkeyed hend (hok hend)
  | foundRunning _ hok => exact absurd hend hok
  | exited hr hs hok =>
    obtain ⟨hst, hstage⟩ := hok _ hr (hend.terminal hr)
    exact frozen_exited hr hs hkeyed hend hclosed hst hstage
  | claimRun hr _ h | cancelStopped hr _ h =>
    exact absurd (h ▸ hend.terminal hr) (by decide)
  | startStage hr howner | failStage hr howner | completeStage hr howner =>
    exact absurd (hend.terminal hr) (hwf.owned _ hr howner).2

theorem Changes.closed (h : Changes ok w w') (hw : Closed w) : Closed w' := by
  induction h with
  | refl => exact hw
  | tail _ hc ih => exact hc.1.closed ih

theorem Changes.frozen (h : Changes RespectsEnd w w') (hwf : w.Wf) (hclosed : Closed w)
    (hend : w.Ended) : Frozen w w' := by
  induction h with
  | refl => exact .refl w
  | tail h hc ih =>
    exact ih.trans (hc.1.frozen hc.2.1 (Changes.wf h hwf) (Changes.closed h hclosed)
      (ih.ended.2 hend))

theorem closed_vacant : Closed vacant := fun ⟨_, h, _⟩ => by cases h

section Decidable

instance (w : Workflow) : Decidable w.Ended := by
  unfold Ended
  infer_instance

instance (w : Workflow) (rep : Report) : Decidable (RespectsEnd w rep) := by
  rcases rep with (_ | _) <;> unfold RespectsEnd <;> infer_instance

end Decidable

end Workflow

open Workflow

variable {db db₁ db₂ : Database} {registry : Registry} {l₁ l₂ : List (Transition Database Event)}

theorem closed_of_run (h : Run Step (.initial registry) l₁ db) (r : String) :
    (workflowOf db r).Closed :=
  (moves_of_run h (wf_initial registry) (fun _ _ => Op.meets_anyReport _ _) r).closed
    closed_vacant

/--
The runs that have ended in `db` have their status in `db'` still, and no stage or start of
theirs has made progress since.
-/
def Absorbed (db db' : Database) : Prop :=
  ∀ run ∈ db.runs, run.status.Terminal →
    (∃ run' ∈ db'.runs, run'.runRef = run.runRef ∧ run'.status = run.status) ∧
    (∀ s' ∈ db'.stages, s'.runRef = run.runRef → s'.status.Advanced →
      ∃ s ∈ db.stages, s.stageRef = s'.stageRef ∧ s.status = s'.status) ∧
    ∀ a' ∈ db'.actions, a'.runRef = run.runRef → a'.kind = .startTrainingStage →
      ∃ a ∈ db.actions, a.actionRef = a'.actionRef ∧ (a'.status = .running → a.status = .running)

theorem absorbed_of_frozen
    (h : ∀ r, (workflowOf db₁ r).Ended → Frozen (workflowOf db₁ r) (workflowOf db₂ r)) :
    Absorbed db₁ db₂ := by
  intro run hrun hterm
  have hstate := run_workflowOf hrun
  obtain ⟨hstatus, hstages, hstarts⟩ := h run.runRef ⟨_, hstate, hterm⟩
  refine ⟨?_, fun s' hs' hr hadv => ?_, fun a' ha' hr hk => ?_⟩
  · rw [hstate] at hstatus
    obtain ⟨x, hx, hst⟩ := Option.map_eq_some_iff.1 hstatus
    obtain ⟨run', hfind, rfl⟩ := Option.map_eq_some_iff.1 hx
    obtain ⟨hmem, href⟩ := Table.find?_eq_some_iff.1 hfind
    exact ⟨run', hmem, href, hst⟩
  · obtain ⟨x, hx, href, hst⟩ := hstages _ (stage_mem_workflowOf hs' hr) hadv
    obtain ⟨s, hs, rfl⟩ := List.mem_map.1 hx
    exact ⟨s, (Table.mem_select.1 hs).1, href, hst⟩
  · obtain ⟨x, hx, href, -, hst⟩ := hstarts _ (hr ▸ action_mem_workflowOf ha') hk
    obtain ⟨a, ha, rfl⟩ := List.mem_map.1 hx
    exact ⟨a, (Table.mem_select.1 ha).1, href, hst⟩

/-- Runs that have ended stay so while no report about them says anything new. -/
theorem terminal_runs_absorbing (h₁ : Run Step (.initial registry) l₁ db₁)
    (h₂ : Run Step db₁ l₂ db₂) (hok : ∀ x ∈ l₂, x.label.1.Meets RespectsEnd x.pre) :
    Absorbed db₁ db₂ := by
  have hwf : Wf db₁ := .of_run h₁ (wf_initial registry)
  exact absorbed_of_frozen fun r hend =>
    (moves_of_run h₂ hwf hok r).frozen (hwf r) (closed_of_run h₁ r) hend

def failedRun : List Op :=
  [.createRun 1 (Sample.creation "real" "run" ["a", "b"]), Sample.poll 2,
   Sample.report 3 "run" 1 "a" .started, Sample.report 4 "run" 2 "a" (.exited Sample.failed)]

/-- The worker says that the stage runs. -/
def lateReconciliation : Op := Sample.report 5 "run" 3 "a" (.reconciliation Sample.running)

theorem lateReconciliation_not_absorbed :
    Run Step (.initial Sample.registry) (centre.serve (.initial Sample.registry) failedRun)
        (centre.final (.initial Sample.registry) failedRun) ∧
      Run Step (centre.final (.initial Sample.registry) failedRun)
        (centre.serve (centre.final (.initial Sample.registry) failedRun) [lateReconciliation])
        (centre.final (centre.final (.initial Sample.registry) failedRun) [lateReconciliation]) ∧
      ¬ Absorbed (centre.final (.initial Sample.registry) failedRun)
        (centre.final (centre.final (.initial Sample.registry) failedRun)
          [lateReconciliation]) := by
  refine ⟨centre.serve_run _ _, centre.serve_run _ _, fun h => ?_⟩
  have hended : ∃ run ∈ (centre.final (.initial Sample.registry) failedRun).runs,
      run.runRef = "run" ∧ run.status = .failed := by decide +kernel
  have hrevived : ∀ run ∈ (centre.final (centre.final (.initial Sample.registry) failedRun)
      [lateReconciliation]).runs, run.status = .running := by decide +kernel
  obtain ⟨run, hrun, -, hst⟩ := hended
  obtain ⟨⟨run', hrun', -, hst'⟩, -⟩ := h run hrun (by rw [hst]; decide)
  rw [hrevived run' hrun', hst] at hst'
  cases hst'

theorem terminal_runs_absorbing_failedRun :
    Absorbed (centre.final (.initial Sample.registry) failedRun)
      (centre.final (centre.final (.initial Sample.registry) failedRun)
        [Sample.report 5 "run" 3 "a" (.exited Sample.failed), Sample.poll 50000]) :=
  terminal_runs_absorbing (centre.serve_run (.initial Sample.registry) failedRun)
    (centre.serve_run _ _) (by decide +kernel)

end DataJuicer.Training

import DataJuicer.Training.TerminalRuns

/-! # Leases of GPUs and ports

A run takes its leases when it is created and drops them when it ends. The one statement that
opens a run again does not take them back: the reconciliation of a stage that was found
running.
-/

namespace DataJuicer.Training

namespace Workflow

variable {ok : Workflow → Report → Prop} {w w' w'' : Workflow}

/-- No run that has ended is found running. -/
def RespectsLeases (w : Workflow) : Report → Prop
  | .foundRunning _ => ¬ w.Ended
  | _ => True

/-- The leases are dropped at the end of the run, and only then. -/
inductive LeasesKept (w w' : Workflow) : Prop
  | dropped (hend : w'.Ended) (hgpus : w'.gpuLeases = []) (hports : w'.portLeases = [])
  | kept (hend : w'.Ended ↔ w.Ended) (hgpus : w'.gpuLeases = w.gpuLeases)
      (hports : w'.portLeases = w.portLeases)

namespace LeasesKept

theorem refl : LeasesKept w w := .kept .rfl rfl rfl

theorem trans (h : LeasesKept w w') (h' : LeasesKept w' w'') : LeasesKept w w'' := by
  cases h' with
  | dropped hend hgpus hports => exact .dropped hend hgpus hports
  | kept hend' hgpus' hports' =>
    cases h with
    | dropped hend hgpus hports =>
      exact .dropped (hend'.2 hend) (hgpus'.trans hgpus) (hports'.trans hports)
    | kept hend hgpus hports =>
      exact .kept (hend'.trans hend) (hgpus'.trans hgpus) (hports'.trans hports)

theorem finish {st : FinishStatus} (hrun : w'.run ≠ none) : LeasesKept w (w'.finish st) := by
  refine .dropped ?_ rfl rfl
  obtain ⟨r, hr⟩ := Option.ne_none_iff_exists'.1 hrun
  exact ⟨r.finish st, by simp [hr], st.terminal⟩

theorem setStatus {x : RunStatus} (hopen : ¬ w.Ended) (hx : ¬ x.Terminal) :
    LeasesKept w (w.setStatus x) :=
  .kept (iff_of_false (not_ended_setStatus hx) hopen) rfl rfl

end LeasesKept

theorem not_ended {r : RunState} (hr : w.run = some r) (hopen : ¬ r.status.Terminal) :
    ¬ w.Ended := fun h => hopen (h.terminal hr)

theorem leasesKept_stop {ref : String} {r : RunState} (hr : w.run = some r)
    (hopen : ¬ r.status.Terminal) : LeasesKept w (w.stop ref r) := by
  have hstatus : LeasesKept w (w.setStatus .stopRequested) :=
    .setStatus (not_ended hr hopen) (by decide)
  unfold stop
  split
  · exact .finish (by simp [hr])
  · split
    · exact hstatus.trans (.kept .rfl rfl rfl)
    · exact hstatus

theorem leasesKept_claim {a : ActionState} : LeasesKept w (w.claim a) := by
  refine .kept ended_claim ?_ ?_
  · cases hk : a.kind with
    | startTrainingStage => rw [claim_of_start hk]; rfl
    | stopTrainingRun => rw [claim_of_stop hk]; rfl
  · cases hk : a.kind with
    | startTrainingStage => rw [claim_of_start hk]; rfl
    | stopTrainingRun => rw [claim_of_stop hk]; rfl

theorem leasesKept_exitSucceeded {ref : String} {s : StageState} (hrun : w.run ≠ none)
    (hclosed : Closed w) : LeasesKept w (w.exitSucceeded ref s) := by
  cases h : (w.succeedStage s).nextPending? with
  | none =>
    rw [exitSucceeded_of_last h]
    exact .finish hrun
  | some next =>
    rw [exitSucceeded_of_next h]
    have hopen : ¬ w.Ended := by
      intro hend
      have hc : Closed (w.succeedStage s) :=
        hclosed.of_extends (extends_succeedStage s) fun _ => hend
      rw [hc.nextPending? hend] at h
      cases h
    exact .kept (iff_of_false (not_ended_setStatus (by decide)) hopen) rfl rfl

theorem leasesKept_exited {ref : String} {r : RunState} {s : StageState} {outcome : FinishStatus}
    (hrun : w.run ≠ none) (hclosed : Closed w) : LeasesKept w (w.exited ref r s outcome) := by
  have hunsuccessful : ∀ st, LeasesKept w ((w.settleStarts s.ref).exitUnsuccessful s.ref st) := by
    intro st
    have hfinish : LeasesKept w
        (((w.settleStarts s.ref).setStages (fun t => t.ref = s.ref) st.toStage).finish st) :=
      .finish hrun
    unfold exitUnsuccessful
    split
    · exact hfinish.trans (.kept .rfl rfl rfl)
    · exact hfinish
  unfold exited
  split
  · exact .finish hrun
  · cases outcome with
    | succeeded =>
      have hsettle : LeasesKept w (w.settleStarts s.ref) := .kept .rfl rfl rfl
      exact hsettle.trans (leasesKept_exitSucceeded hrun hclosed)
    | failed | cancelled | lost => exact hunsuccessful _

theorem leasesKept_claimRun {workerId : String} (hrun : w.run ≠ none) (hopen : ¬ w.Ended) :
    LeasesKept w (w.claimRun workerId) := by
  cases h : w.nextPending? with
  | none =>
    rw [claimRun_of_none h]
    exact .finish (by simpa using hrun)
  | some next =>
    rw [claimRun_of_next h]
    refine .kept (iff_of_false ?_ hopen) rfl rfl
    rintro ⟨r', hr', hterm⟩
    obtain ⟨r, -, rfl⟩ := Option.map_eq_some_iff.1 hr'
    exact absurd hterm preparing_open

theorem leasesKept_completeStage {s : StageState} (hrun : w.run ≠ none) :
    LeasesKept w (w.completeStage s) := by
  cases h : (w.succeedStage s).nextPending? with
  | none =>
    rw [completeStage_of_last h]
    exact .finish hrun
  | some next =>
    rw [completeStage_of_next h]
    exact .kept .rfl rfl rfl

theorem leasesKept_failStart {r : RunState} (hrun : w.run ≠ none) :
    LeasesKept w (w.failStart r) := by
  unfold failStart
  split <;> exact .finish hrun

theorem Change.leasesKept (h : Change RespectsLeases w w') (hrun : w.run ≠ none)
    (hclosed : Closed w) : LeasesKept w w' := by
  cases h with
  | create => exact absurd rfl hrun
  | stop hr hopen => exact leasesKept_stop hr hopen
  | requeue | result => exact .kept .rfl rfl rfl
  | claim => exact leasesKept_claim
  | @startFailed _ _ a =>
    have hresult : LeasesKept w (w.result a.ref .failed) := .kept .rfl rfl rfl
    exact hresult.trans (leasesKept_failStart hrun)
  | started => exact .kept ended_started rfl rfl
  | foundRunning _ hok =>
    exact .kept (iff_of_false (not_ended_setStatus (by decide)) hok) rfl rfl
  | exited => exact leasesKept_exited hrun hclosed
  | claimRun hr _ h => exact leasesKept_claimRun hrun (not_ended hr (by rw [h]; decide))
  | startStage hr _ h =>
    refine .kept (iff_of_false (not_ended_setStatus (by decide)) (not_ended hr ?_)) rfl rfl
    rcases h with h | h <;> rw [h] <;> decide
  | completeStage => exact leasesKept_completeStage hrun
  | cancelStopped | failStage | giveUp => exact .finish hrun

theorem Changes.leasesKept (h : Changes RespectsLeases w w') (hrun : w.run ≠ none)
    (hclosed : Closed w) : LeasesKept w w' := by
  induction h with
  | refl => exact .refl
  | tail h hc ih =>
    exact ih.trans (hc.1.leasesKept ((Changes.extends h hrun).run_ne_none hrun)
      (Changes.closed h hclosed))

/-- The leases that the status of the run calls for. -/
structure Leased (w : Workflow) : Prop where
  held : ¬ w.Ended → ∀ r ∈ w.run, w.gpuLeases = r.gpuUuids
  dropped : w.Ended → w.gpuLeases = [] ∧ w.portLeases = []

theorem LeasesKept.leased (h : LeasesKept w w') (hext : Extends w w') (hw : Leased w) :
    Leased w' := by
  cases h with
  | dropped hend hgpus hports => exact ⟨fun h => absurd hend h, fun _ => ⟨hgpus, hports⟩⟩
  | kept hend hgpus hports =>
    refine ⟨fun h r' hr' => ?_, fun h => ?_⟩
    · obtain ⟨f, hf, hkept⟩ := hext.run
      obtain ⟨r, hr, rfl⟩ := Option.map_eq_some_iff.1 (hf ▸ hr')
      rw [hgpus, (hkept r hr).gpuUuids]
      exact hw.held (mt hend.2 h) r hr
    · rw [hgpus, hports]
      exact hw.dropped (hend.1 h)

theorem leased_vacant : Leased vacant where
  held _ _ h := nomatch h
  dropped := fun ⟨_, h, _⟩ => nomatch h

theorem Change.leased (h : Change RespectsLeases w w') (hwf : w.Wf) (hclosed : Closed w)
    (hw : Leased w) : Leased w' := by
  by_cases hrun : w.run = none
  · obtain rfl := hwf.vacant hrun
    cases h with
    | create hr =>
      refine ⟨fun _ r' hr' => ?_, fun h => ?_⟩
      · obtain rfl := Option.some.inj hr'
        rfl
      · exact absurd h (not_ended rfl (by rw [hr.1]; decide))
    | requeue | foundRunning => exact leased_vacant
    | result ha | started ha => exact absurd ha List.not_mem_nil
    | stop hr | claim hr | startFailed hr | exited hr | claimRun hr | cancelStopped hr
    | startStage hr | failStage hr | completeStage hr | giveUp hr => cases hr
  · exact (h.leasesKept hrun hclosed).leased (h.extends hrun) hw

theorem Changes.leased (h : Changes RespectsLeases vacant w) : Leased w := by
  induction h with
  | refl => exact leased_vacant
  | tail h hc ih => exact hc.1.leased (Changes.wf h wf_vacant) (Changes.closed h closed_vacant) ih

instance (w : Workflow) (rep : Report) : Decidable (RespectsLeases w rep) := by
  rcases rep with (_ | _) <;> unfold RespectsLeases <;> infer_instance

end Workflow

open Workflow

variable {db : Database} {registry : Registry} {l : List (Transition Database Event)}

end DataJuicer.Training

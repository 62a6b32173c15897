import DataJuicer.Training.Workflow

/-! # The shape of a workflow

The stages of a run are fixed when it is created: a change gives them other statuses only.
Actions are never removed, and the stage of an action is a stage of its run.
-/

namespace DataJuicer.Training

theorem FinishStatus.toStage_ne_pending (st : FinishStatus) : st.toStage ≠ .pending := by
  cases st <;> decide

theorem StageStatus.of_finish_pending {st : FinishStatus} {x : StageStatus}
    (h : x.finish st = .pending) : x = .pending := by
  cases st <;> cases x <;> first | rfl | exact absurd h (by decide)

namespace Workflow

variable {ok : Workflow → Report → Prop} {w w' w'' : Workflow}

section Fields

variable (w : Workflow) (st : FinishStatus) (f : RunState → RunState) (a : ActionState)
  (b : ArtifactState) (p : StageState → Prop) [DecidablePred p] (q : ActionState → Prop)
  [DecidablePred q] (x : StageStatus) (y : ActionStatus) (z : RunStatus)

@[simp] theorem finish_run : (w.finish st).run = w.run.map (RunState.finish st) := rfl
@[simp] theorem finish_stages : (w.finish st).stages = w.stages.map (StageState.finish st) := rfl
@[simp] theorem finish_actions : (w.finish st).actions = w.actions.map ActionState.finish := rfl
@[simp] theorem finish_artifacts : (w.finish st).artifacts = w.artifacts := rfl
@[simp] theorem finish_gpuLeases : (w.finish st).gpuLeases = [] := rfl
@[simp] theorem finish_portLeases : (w.finish st).portLeases = [] := rfl
@[simp] theorem setRun_run : (w.setRun f).run = w.run.map f := rfl
@[simp] theorem setRun_stages : (w.setRun f).stages = w.stages := rfl
@[simp] theorem setRun_actions : (w.setRun f).actions = w.actions := rfl
@[simp] theorem setRun_artifacts : (w.setRun f).artifacts = w.artifacts := rfl
@[simp] theorem setRun_gpuLeases : (w.setRun f).gpuLeases = w.gpuLeases := rfl
@[simp] theorem setRun_portLeases : (w.setRun f).portLeases = w.portLeases := rfl
@[simp] theorem setRun_nextPending? : (w.setRun f).nextPending? = w.nextPending? := rfl
@[simp] theorem setStatus_run :
    (w.setStatus z).run = w.run.map fun r => { r with status := z } := rfl
@[simp] theorem setStatus_stages : (w.setStatus z).stages = w.stages := rfl
@[simp] theorem setStatus_actions : (w.setStatus z).actions = w.actions := rfl
@[simp] theorem setStatus_artifacts : (w.setStatus z).artifacts = w.artifacts := rfl
@[simp] theorem setStatus_gpuLeases : (w.setStatus z).gpuLeases = w.gpuLeases := rfl
@[simp] theorem setStatus_portLeases : (w.setStatus z).portLeases = w.portLeases := rfl
@[simp] theorem setStages_run : (w.setStages p x).run = w.run := rfl
@[simp] theorem setStages_stages : (w.setStages p x).stages =
    w.stages.map fun s => if p s then { s with status := x } else s := rfl
@[simp] theorem setStages_actions : (w.setStages p x).actions = w.actions := rfl
@[simp] theorem setStages_artifacts : (w.setStages p x).artifacts = w.artifacts := rfl
@[simp] theorem setStages_gpuLeases : (w.setStages p x).gpuLeases = w.gpuLeases := rfl
@[simp] theorem setStages_portLeases : (w.setStages p x).portLeases = w.portLeases := rfl
@[simp] theorem setActions_run : (w.setActions q y).run = w.run := rfl
@[simp] theorem setActions_stages : (w.setActions q y).stages = w.stages := rfl
@[simp] theorem setActions_actions : (w.setActions q y).actions =
    w.actions.map fun a => if q a then { a with status := y } else a := rfl
@[simp] theorem setActions_artifacts : (w.setActions q y).artifacts = w.artifacts := rfl
@[simp] theorem setActions_gpuLeases : (w.setActions q y).gpuLeases = w.gpuLeases := rfl
@[simp] theorem setActions_portLeases : (w.setActions q y).portLeases = w.portLeases := rfl
@[simp] theorem addAction_run : (w.addAction a).run = w.run := rfl
@[simp] theorem addAction_stages : (w.addAction a).stages = w.stages := rfl
@[simp] theorem addAction_actions : (w.addAction a).actions = w.actions ++ [a] := rfl
@[simp] theorem addAction_artifacts : (w.addAction a).artifacts = w.artifacts := rfl
@[simp] theorem addAction_gpuLeases : (w.addAction a).gpuLeases = w.gpuLeases := rfl
@[simp] theorem addAction_portLeases : (w.addAction a).portLeases = w.portLeases := rfl
@[simp] theorem addArtifact_run : (w.addArtifact b).run = w.run := rfl
@[simp] theorem addArtifact_stages : (w.addArtifact b).stages = w.stages := rfl
@[simp] theorem addArtifact_actions : (w.addArtifact b).actions = w.actions := rfl
@[simp] theorem addArtifact_artifacts : (w.addArtifact b).artifacts = w.artifacts ++ [b] := rfl
@[simp] theorem addArtifact_gpuLeases : (w.addArtifact b).gpuLeases = w.gpuLeases := rfl
@[simp] theorem addArtifact_portLeases : (w.addArtifact b).portLeases = w.portLeases := rfl

end Fields

def SameAction (a b : ActionState) : Prop := a.ref = b.ref ∧ a.stage = b.stage ∧ a.kind = b.kind

/-- What a change of a run keeps: only simulated runs have an owner, while they are open. -/
structure RunKept (r r' : RunState) : Prop where
  mode : r'.mode = r.mode
  server : r'.server = r.server
  gpuUuids : r'.gpuUuids = r.gpuUuids
  owner : r'.owner = none ∨ r'.owner = r.owner ∨ r.mode = .simulation
  status : r'.owner = none ∨ ¬ r'.status.Terminal ∨ r'.owner = r.owner ∧ r'.status = r.status

theorem preparing_open : ¬ RunStatus.preparing.Terminal := by decide

theorem RunKept.refl (r : RunState) : RunKept r r :=
  ⟨rfl, rfl, rfl, .inr (.inl rfl), .inr (.inr ⟨rfl, rfl⟩)⟩

theorem RunKept.of_open {x : RunStatus} (r : RunState) (hx : ¬ x.Terminal) :
    RunKept r { r with status := x } := ⟨rfl, rfl, rfl, .inr (.inl rfl), .inr (.inl hx)⟩

theorem RunKept.trans {r r' r'' : RunState} (h : RunKept r r') (h' : RunKept r' r'') :
    RunKept r r'' := by
  refine ⟨h'.mode.trans h.mode, h'.server.trans h.server, h'.gpuUuids.trans h.gpuUuids, ?_, ?_⟩
  · rcases h'.owner with he | he | he
    · exact .inl he
    · rw [he]
      exact h.owner
    · exact .inr (.inr (h.mode ▸ he))
  · rcases h'.status with he | he | ⟨ho, hs⟩
    · exact .inl he
    · exact .inr (.inl he)
    · rw [ho, hs]
      exact h.status

/-- The run, the stages and the actions are the old ones with other statuses, or new actions. -/
structure Extends (w w' : Workflow) : Prop where
  run : ∃ f : RunState → RunState, w'.run = w.run.map f ∧ ∀ r ∈ w.run, RunKept r (f r)
  stages : ∃ x : StageState → StageStatus,
    w'.stages = w.stages.map (fun s => { s with status := x s }) ∧
      ∀ s, x s = .pending → s.status = .pending
  kept : ∀ a ∈ w.actions, ∃ a' ∈ w'.actions, SameAction a' a
  linked : ∀ a' ∈ w'.actions, (∃ a ∈ w.actions, SameAction a' a) ∨
    ∀ ref ∈ a'.stage, ∃ s ∈ w.stages, s.ref = ref

namespace Extends

theorem stage_ref (h : Extends w w') {ref : String} :
    (∃ s ∈ w'.stages, s.ref = ref) ↔ ∃ s ∈ w.stages, s.ref = ref := by
  obtain ⟨x, hx, -⟩ := h.stages
  simp [hx]

theorem refl : Extends w w where
  run := ⟨id, by simp, fun r _ => .refl r⟩
  stages := ⟨fun s => s.status, by simp, fun _ h => h⟩
  kept a ha := ⟨a, ha, rfl, rfl, rfl⟩
  linked a ha := .inl ⟨a, ha, rfl, rfl, rfl⟩

theorem trans (h : Extends w w') (h' : Extends w' w'') : Extends w w'' := by
  constructor
  · obtain ⟨f, hf, hkept⟩ := h.run
    obtain ⟨g, hg, hkept'⟩ := h'.run
    refine ⟨g ∘ f, by rw [hg, hf, Option.map_map], fun r hr => (hkept r hr).trans (hkept' _ ?_)⟩
    rw [hf]
    exact Option.mem_map_of_mem f hr
  · obtain ⟨x, hx, hp⟩ := h.stages
    obtain ⟨y, hy, hq⟩ := h'.stages
    refine ⟨fun s => y { s with status := x s }, ?_, fun s h => hp s (hq _ h)⟩
    rw [hy, hx, List.map_map]
    rfl
  · intro a ha
    obtain ⟨a', ha', h₁, h₂, h₃⟩ := h.kept a ha
    obtain ⟨a'', ha'', h₁', h₂', h₃'⟩ := h'.kept a' ha'
    exact ⟨a'', ha'', h₁'.trans h₁, h₂'.trans h₂, h₃'.trans h₃⟩
  · intro a'' ha''
    rcases h'.linked a'' ha'' with ⟨a', ha', h₁', h₂', h₃'⟩ | hnew
    · rcases h.linked a' ha' with ⟨a, ha, h₁, h₂, h₃⟩ | hnew
      · exact .inl ⟨a, ha, h₁'.trans h₁, h₂'.trans h₂, h₃'.trans h₃⟩
      · exact .inr (h₂' ▸ hnew)
    · exact .inr fun ref hr => h.stage_ref.1 (hnew ref hr)

theorem of_run {f : RunState → RunState} (hf : ∀ r ∈ w.run, RunKept r (f r)) :
    Extends w (w.setRun f) where
  run := ⟨f, rfl, hf⟩
  stages := ⟨fun s => s.status, by simp, fun _ h => h⟩
  kept a ha := ⟨a, ha, rfl, rfl, rfl⟩
  linked a ha := .inl ⟨a, ha, rfl, rfl, rfl⟩

theorem setStatus {x : RunStatus} (hx : ¬ x.Terminal) : Extends w (w.setStatus x) :=
  of_run fun r _ => .of_open r hx

theorem setStages (p : StageState → Prop) [DecidablePred p] {x : StageStatus}
    (hx : x ≠ .pending) : Extends w (w.setStages p x) where
  run := ⟨id, by simp, fun r _ => .refl r⟩
  stages := by
    refine ⟨fun s => if p s then x else s.status, List.map_congr_left fun s _ => ?_,
      fun s hs => ?_⟩
    · by_cases h : p s <;> simp [h]
    · by_cases h : p s
      · simp only [if_pos h] at hs
        exact absurd hs hx
      · simpa only [if_neg h] using hs
  kept a ha := ⟨a, ha, rfl, rfl, rfl⟩
  linked a ha := .inl ⟨a, ha, rfl, rfl, rfl⟩

/-- A change of the statuses of actions. -/
theorem of_actions {f : ActionState → ActionState} (hf : ∀ a, SameAction (f a) a) :
    Extends w { w with actions := w.actions.map f } where
  run := ⟨id, by simp, fun r _ => .refl r⟩
  stages := ⟨fun s => s.status, by simp, fun _ h => h⟩
  kept a ha := ⟨f a, List.mem_map_of_mem ha, hf a⟩
  linked a' ha' := by
    obtain ⟨a, ha, rfl⟩ := List.mem_map.1 ha'
    exact .inl ⟨a, ha, hf a⟩

theorem setActions (p : ActionState → Prop) [DecidablePred p] (x : ActionStatus) :
    Extends w (w.setActions p x) := by
  refine of_actions fun a => ?_
  by_cases h : p a <;> simp [h, SameAction]

theorem addArtifact (a : ArtifactState) : Extends w (w.addArtifact a) where
  run := ⟨id, by simp, fun r _ => .refl r⟩
  stages := ⟨fun s => s.status, by simp, fun _ h => h⟩
  kept a ha := ⟨a, ha, rfl, rfl, rfl⟩
  linked a ha := .inl ⟨a, ha, rfl, rfl, rfl⟩

theorem addAction {a : ActionState} (ha : ∀ ref ∈ a.stage, ∃ s ∈ w.stages, s.ref = ref) :
    Extends w (w.addAction a) where
  run := ⟨id, by simp, fun r _ => .refl r⟩
  stages := ⟨fun s => s.status, by simp, fun _ h => h⟩
  kept b hb := ⟨b, List.mem_append_left _ hb, rfl, rfl, rfl⟩
  linked b hb := by
    rcases List.mem_append.1 hb with hb | hb
    · exact .inl ⟨b, hb, rfl, rfl, rfl⟩
    · obtain rfl := List.mem_singleton.1 hb
      exact .inr ha

theorem finish (st : FinishStatus) : Extends w (w.finish st) where
  run := ⟨RunState.finish st, rfl, fun _ _ => ⟨rfl, rfl, rfl, .inl rfl, .inl rfl⟩⟩
  stages := ⟨fun s => s.status.finish st, rfl, fun s => StageStatus.of_finish_pending⟩
  kept a ha := by
    refine ⟨a.finish, List.mem_map_of_mem ha, ?_⟩
    by_cases h : a.status = .queued <;> simp [ActionState.finish, SameAction, h]
  linked a' ha' := by
    obtain ⟨a, ha, rfl⟩ := List.mem_map.1 ha'
    refine .inl ⟨a, ha, ?_⟩
    by_cases h : a.status = .queued <;> simp [ActionState.finish, SameAction, h]

end Extends

theorem nextPending?_mem {next : StageState} (h : w.nextPending? = some next) :
    next ∈ w.stages ∧ next.status = .pending := by
  obtain ⟨hmem, hp⟩ := List.mem_filter.1 (List.argmin_mem h)
  exact ⟨hmem, by simpa using hp⟩

theorem extends_succeedStage (s : StageState) : Extends w (w.succeedStage s) :=
  (Extends.setStages _ (by decide)).trans (.addArtifact _)

theorem extends_settleStops : Extends w w.settleStops := by
  unfold settleStops
  exact .setActions _ _

theorem extends_settleStarts (ref : String) : Extends w (w.settleStarts ref) := by
  unfold settleStarts
  exact .setActions _ _

theorem extends_complete (s : StageState) : Extends w (w.complete s) :=
  (Extends.addArtifact _).trans (.finish _)

theorem exitSucceeded_of_next {ref : String} {s next : StageState}
    (h : (w.succeedStage s).nextPending? = some next) :
    w.exitSucceeded ref s = (w.succeedStage s).advance ref next := by
  simp only [exitSucceeded, h]

theorem exitSucceeded_of_last {ref : String} {s : StageState}
    (h : (w.succeedStage s).nextPending? = none) :
    w.exitSucceeded ref s = (w.succeedStage s).complete s := by
  simp only [exitSucceeded, h]

theorem completeStage_of_next {s next : StageState}
    (h : (w.succeedStage s).nextPending? = some next) :
    w.completeStage s =
      (w.succeedStage s).setStages (fun t => t.ref = next.ref) .preparing := by
  simp only [completeStage, h]

theorem completeStage_of_last {s : StageState} (h : (w.succeedStage s).nextPending? = none) :
    w.completeStage s = (w.succeedStage s).complete s := by
  simp only [completeStage, h]

theorem extends_advance {ref : String} {next : StageState} (h : next ∈ w.stages) :
    Extends w (w.advance ref next) := by
  refine ((Extends.setStages _ (by decide)).trans (.addAction ?_)).trans (.setStatus (by decide))
  intro ref hr
  obtain rfl : next.ref = ref := by simpa using hr
  exact (Extends.setStages _ (by decide)).stage_ref.2 ⟨next, h, rfl⟩

theorem extends_exitSucceeded (ref : String) (s : StageState) :
    Extends w (w.exitSucceeded ref s) := by
  refine (extends_succeedStage s).trans ?_
  cases h : (w.succeedStage s).nextPending? with
  | none =>
    rw [exitSucceeded_of_last h]
    exact extends_complete s
  | some next =>
    rw [exitSucceeded_of_next h]
    exact extends_advance (nextPending?_mem h).1

theorem extends_exitStopped (ref : String) : Extends w (w.exitStopped ref) :=
  (extends_settleStops.trans (.setStages _ (by decide))).trans (.finish _)

theorem extends_failStage (s : StageState) (st : FinishStatus) :
    Extends w (w.failStage s st) := (Extends.setStages _ st.toStage_ne_pending).trans (.finish _)

theorem extends_exitUnsuccessful (ref : String) (st : FinishStatus) :
    Extends w (w.exitUnsuccessful ref st) := by
  have h : Extends w ((w.setStages (fun s => s.ref = ref) st.toStage).finish st) :=
    (Extends.setStages _ st.toStage_ne_pending).trans (.finish _)
  unfold exitUnsuccessful
  split
  · exact h.trans extends_settleStops
  · exact h

theorem extends_exited (ref : String) (r : RunState) (s : StageState) (outcome : FinishStatus) :
    Extends w (w.exited ref r s outcome) := by
  unfold exited
  refine (extends_settleStarts s.ref).trans ?_
  split
  · exact extends_exitStopped s.ref
  · cases outcome with
    | succeeded => exact extends_exitSucceeded ref s
    | failed | cancelled | lost => exact extends_exitUnsuccessful s.ref _

theorem extends_stop (ref : String) (r : RunState) : Extends w (w.stop ref r) := by
  unfold stop
  split
  · exact .finish _
  · split
    · exact Extends.trans (.setStatus (by decide)) (.addAction (by simp))
    · exact .setStatus (by decide)

theorem extends_prepare (a : ActionState) : Extends w (w.prepare a) := by
  have hrun : Extends w (w.setRun fun r =>
      if r.status = .queued then { r with status := .preparing } else r) := by
    refine .of_run fun r _ => ?_
    split
    · exact .of_open r (by decide)
    · exact .refl r
  exact hrun.trans (.setStages _ (by decide))

theorem claim_of_start {a : ActionState} (h : a.kind = .startTrainingStage) :
    w.claim a = (w.setActions (fun b => b.ref = a.ref) .running).prepare a := by
  simp only [claim, h]

theorem claim_of_stop {a : ActionState} (h : a.kind = .stopTrainingRun) :
    w.claim a = w.setActions (fun b => b.ref = a.ref) .running := by
  simp only [claim, h]

theorem extends_claim (a : ActionState) : Extends w (w.claim a) := by
  cases h : a.kind with
  | startTrainingStage =>
    rw [claim_of_start h]
    exact Extends.trans (.setActions _ _) (extends_prepare a)
  | stopTrainingRun =>
    rw [claim_of_stop h]
    exact .setActions _ _

theorem extends_failStart (r : RunState) : Extends w (w.failStart r) := by
  unfold failStart
  split
  · exact extends_settleStops.trans (.finish _)
  · exact .finish _

theorem extends_started (ref : String) : Extends w (w.started ref) := by
  have hrun : Extends (w.setStages (fun s => s.ref = ref ∧ s.status.Open) .running) _ :=
    .of_run (f := fun r =>
      if r.status = .queued ∨ r.status = .preparing ∨ r.status = .running then
        { r with status := .running }
      else r) fun r _ => by
        split
        · exact .of_open r (by decide)
        · exact .refl r
  exact ((Extends.setStages _ (by decide)).trans hrun).trans (.setActions _ _)

theorem claimRun_of_next {workerId : String} {next : StageState} (h : w.nextPending? = some next) :
    w.claimRun workerId =
      (w.setRun fun r => { r with status := .preparing, owner := some workerId }).setStages
        (fun s => s.ref = next.ref) .preparing := by
  simp only [claimRun, setRun_nextPending?, h]

theorem claimRun_of_none {workerId : String} (h : w.nextPending? = none) :
    w.claimRun workerId =
      (w.setRun fun r => { r with status := .preparing, owner := some workerId }).finish
        .failed := by
  simp only [claimRun, setRun_nextPending?, h]

theorem extends_claimRun {workerId : String} (hmode : ∀ r ∈ w.run, r.mode = .simulation) :
    Extends w (w.claimRun workerId) := by
  have hrun : Extends w
      (w.setRun fun r => { r with status := .preparing, owner := some workerId }) :=
    .of_run fun r hr => ⟨rfl, rfl, rfl, .inr (.inr (hmode r hr)), .inr (.inl preparing_open)⟩
  cases h : w.nextPending? with
  | none =>
    rw [claimRun_of_none h]
    exact hrun.trans (.finish _)
  | some next =>
    rw [claimRun_of_next h]
    exact hrun.trans (.setStages _ (by decide))

theorem extends_completeStage (s : StageState) : Extends w (w.completeStage s) := by
  refine (extends_succeedStage s).trans ?_
  cases h : (w.succeedStage s).nextPending? with
  | none =>
    rw [completeStage_of_last h]
    exact extends_complete s
  | some next =>
    rw [completeStage_of_next h]
    exact .setStages _ (by decide)

theorem Change.extends (h : Change ok w w') (hw : w.run ≠ none) : Extends w w' := by
  cases h with
  | create => exact absurd rfl hw
  | stop => exact extends_stop _ _
  | requeue => exact .setActions _ _
  | claim => exact extends_claim _
  | result => exact .setActions _ _
  | startFailed => exact Extends.trans (.setActions _ _) (extends_failStart _)
  | started => exact extends_started _
  | foundRunning => exact Extends.trans (.setStages _ (by decide)) (.setStatus (by decide))
  | exited => exact extends_exited _ _ _ _
  | claimRun hr hmode => exact extends_claimRun (by simp [hr, hmode])
  | cancelStopped => exact .finish _
  | startStage => exact Extends.trans (.setStages _ (by decide)) (.setStatus (by decide))
  | failStage => exact extends_failStage _ _
  | completeStage => exact extends_completeStage _
  | giveUp => exact .finish _

theorem Extends.run_ne_none (h : Extends w w') (hrun : w.run ≠ none) : w'.run ≠ none := by
  obtain ⟨f, hf, -⟩ := h.run
  rw [hf]
  simpa using hrun

theorem Changes.extends (h : Changes ok w w') (hrun : w.run ≠ none) : Extends w w' := by
  induction h with
  | refl => exact .refl
  | tail _ hc ih => exact ih.trans (hc.1.extends (ih.run_ne_none hrun))

structure Wf (w : Workflow) : Prop where
  vacant : w.run = none → w = .vacant
  linked : ∀ a ∈ w.actions, ∀ ref ∈ a.stage, ∃ s ∈ w.stages, s.ref = ref
  owned : ∀ r ∈ w.run, r.owner ≠ none → r.mode = .simulation ∧ ¬ r.status.Terminal

theorem wf_vacant : Wf vacant :=
  ⟨fun _ => rfl, by simp [Workflow.vacant], by simp [Workflow.vacant]⟩

theorem Extends.wf (h : Extends w w') (hrun : w.run ≠ none) (hw : w.Wf) : w'.Wf where
  vacant h' := by
    obtain ⟨f, hf, -⟩ := h.run
    exact absurd (Option.map_eq_none_iff.1 (hf ▸ h')) hrun
  linked a' ha' ref href := by
    rcases h.linked a' ha' with ⟨a, ha, -, hstage, -⟩ | hnew
    · exact h.stage_ref.2 (hw.linked a ha ref (hstage ▸ href))
    · exact h.stage_ref.2 (hnew ref href)
  owned r' hr' howner := by
    obtain ⟨f, hf, hkept⟩ := h.run
    obtain ⟨r, hr, rfl⟩ := Option.map_eq_some_iff.1 (hf ▸ hr')
    have hold := hw.owned r hr
    have hnext := hkept r hr
    have hmode : r.mode = .simulation := by
      rcases hnext.owner with he | he | he
      · exact absurd he howner
      · exact (hold (he ▸ howner)).1
      · exact he
    refine ⟨hnext.mode.trans hmode, ?_⟩
    rcases hnext.status with he | he | ⟨ho, hs⟩
    · exact absurd he howner
    · exact he
    · rw [hs]
      exact (hold (ho ▸ howner)).2

theorem Change.wf (h : Change ok w w') (hw : w.Wf) : w'.Wf := by
  by_cases hrun : w.run = none
  · obtain rfl := hw.vacant hrun
    cases h with
    | @create r stages actions ports hr _ _ _ _ hactions _ =>
      refine ⟨fun h => absurd h (by simp [created]), fun a ha ref href => ?_, ?_⟩
      · by_cases hmode : r.mode = .real
        · rw [if_pos hmode] at hactions
          obtain ⟨s, hs, _, -, rfl⟩ := hactions
          obtain rfl := List.mem_singleton.1 ha
          exact ⟨s, hs, Option.some.inj href⟩
        · rw [if_neg hmode] at hactions
          subst hactions
          exact absurd ha (List.not_mem_nil)
      · rintro _ ⟨rfl⟩ howner
        exact absurd hr.2 howner
    | requeue => exact wf_vacant
    | foundRunning => exact wf_vacant
    | result ha | started ha => exact absurd ha (List.not_mem_nil)
    | stop hr | claim hr | startFailed hr | exited hr | claimRun hr | cancelStopped hr
    | startStage hr | failStage hr | completeStage hr | giveUp hr => cases hr
  · exact (h.extends hrun).wf hrun hw

theorem Changes.wf (h : Changes ok w w') (hw : w.Wf) : w'.Wf := by
  induction h with
  | refl => exact hw
  | tail _ hc ih => exact hc.1.wf ih

end Workflow

end DataJuicer.Training

import DataJuicer.Training.ActionLeases
import DataJuicer.Training.TerminalRuns

/-! # Stop requests

A real run whose stop was requested is asked to stop by an action that its node is handed
before any other, and its status changes only when it ends. The one update that forgets the
request is the reconciliation of a stage that was found running. After the result of the action
nothing is queued until the run ends or its stop is requested again.
-/

namespace DataJuicer.Training

theorem RunStatus.not_halting {x : RunStatus} (h : x = .queued ∨ x = .preparing ∨ x = .running) :
    ¬ (x = .stopRequested ∨ x.Terminal) := by
  rcases h with rfl | rfl | rfl <;> decide

namespace Workflow

variable {ok : Workflow → Report → Prop} {w w' : Workflow}

/-- The stop of the run was requested, or the run has ended. -/
def Halting (w : Workflow) : Prop := ∃ r ∈ w.run, r.status = .stopRequested ∨ r.status.Terminal

/-- No run whose stop was requested is found running, and none that has ended. -/
def RespectsStop (w : Workflow) : Report → Prop
  | .foundRunning _ => ¬ w.Halting
  | _ => True

/-- No stop action is answered while the stop of its run is requested. -/
def AwaitsStop (w : Workflow) : Report → Prop
  | .stopAnswered => ∀ r ∈ w.run, r.status ≠ .stopRequested
  | _ => True

instance (w : Workflow) : Decidable w.Halting := by
  unfold Halting
  infer_instance

instance (w : Workflow) (rep : Report) : Decidable (RespectsStop w rep) := by
  rcases rep with (_ | _) <;> unfold RespectsStop <;> infer_instance

instance (w : Workflow) (rep : Report) : Decidable (AwaitsStop w rep) := by
  rcases rep with (_ | _) <;> unfold AwaitsStop <;> infer_instance

theorem Halting.status (h : w.Halting) {r : RunState} (hr : w.run = some r) :
    r.status = .stopRequested ∨ r.status.Terminal := by
  obtain ⟨_, hr', hst⟩ := h
  obtain rfl := Option.some.inj (hr.symm.trans hr')
  exact hst

theorem Halting.run_ne_none (h : w.Halting) : w.run ≠ none := by
  obtain ⟨r, hr, -⟩ := h
  exact Option.ne_none_iff_exists'.2 ⟨r, hr⟩

theorem Halting.finish (h : w.Halting) (st : FinishStatus) : (w.finish st).Halting := by
  obtain ⟨r, hr, -⟩ := h
  exact ⟨r.finish st, Option.mem_map_of_mem _ hr, .inr st.terminal⟩

theorem Halting.setRun (h : w.Halting) {f : RunState → RunState}
    (hf : ∀ r, r.status = .stopRequested ∨ r.status.Terminal → (f r).status = r.status) :
    (w.setRun f).Halting := by
  obtain ⟨r, hr, hst⟩ := h
  exact ⟨f r, Option.mem_map_of_mem f hr, hf r hst ▸ hst⟩

theorem Halting.stop (h : w.Halting) (ref : String) (r : RunState) : (w.stop ref r).Halting := by
  have hset : (w.setStatus .stopRequested).Halting := by
    obtain ⟨x, hx, -⟩ := h
    exact ⟨{ x with status := .stopRequested }, Option.mem_map_of_mem _ hx, .inl rfl⟩
  unfold Workflow.stop
  split
  · exact h.finish .cancelled
  · split <;> exact hset

theorem Halting.claim (h : w.Halting) (a : ActionState) : (w.claim a).Halting := by
  cases hk : a.kind with
  | stopTrainingRun =>
    rw [claim_of_stop hk]
    exact h
  | startTrainingStage =>
    rw [claim_of_start hk]
    refine Halting.setRun (w := w) h fun r hst => ?_
    rw [if_neg fun hq => RunStatus.not_halting (.inl hq) hst]

theorem Halting.started (h : w.Halting) (ref : String) : (w.started ref).Halting := by
  refine Halting.setRun (w := w) h fun r hst => ?_
  rw [if_neg fun hq => RunStatus.not_halting hq hst]

theorem Halting.exited (h : w.Halting) (hclosed : Closed w) {ref : String} {r : RunState}
    {s : StageState} {outcome : FinishStatus} (hr : w.run = some r) :
    (w.exited ref r s outcome).Halting := by
  have hsettle : (w.settleStarts s.ref).Halting := h
  unfold Workflow.exited
  split
  · exact Halting.finish h .cancelled
  · rename_i hstop
    have hend : w.Ended := ⟨r, hr, (h.status hr).resolve_left hstop⟩
    cases outcome with
    | succeeded =>
      have hlast : ((w.settleStarts s.ref).succeedStage s).nextPending? = none :=
        (hclosed.of_extends (extends_succeedStage s) fun _ => hend).nextPending? hend
      show ((w.settleStarts s.ref).exitSucceeded ref s).Halting
      rw [exitSucceeded_of_last hlast]
      exact Halting.finish (w := ((w.settleStarts s.ref).succeedStage s).addArtifact _) h .succeeded
    | failed | cancelled | lost =>
      show (exitUnsuccessful _ _ _).Halting
      unfold exitUnsuccessful
      split <;> exact Halting.finish h _

/-- Once its stop was requested a run ends, whatever else happens. -/
theorem Change.halting (h : Change RespectsStop w w') (hwf : w.Wf) (hclosed : Closed w)
    (hw : w.Halting) : w'.Halting := by
  cases h with
  | create => exact absurd rfl hw.run_ne_none
  | stop => exact hw.stop _ _
  | requeue | result => exact hw
  | claim => exact hw.claim _
  | startFailed =>
    unfold failStart
    split <;> exact Halting.finish hw _
  | started => exact hw.started _
  | foundRunning _ hok => exact absurd hw hok
  | exited hr => exact hw.exited hclosed hr
  | claimRun hr _ h => exact absurd (hw.status hr) (RunStatus.not_halting (.inl h))
  | cancelStopped | giveUp => exact hw.finish _
  | failStage => exact Halting.finish hw _
  | startStage hr _ h => exact absurd (hw.status hr) (RunStatus.not_halting (.inr h))
  | completeStage hr howner hstop =>
    exact absurd ((hw.status hr).resolve_left hstop) (hwf.owned _ hr howner).2

theorem Changes.halting (h : Changes RespectsStop w w') (hwf : w.Wf) (hclosed : Closed w)
    (hw : w.Halting) : w'.Halting := by
  induction h with
  | refl => exact hw
  | tail h hc ih => exact hc.1.halting (Changes.wf h hwf) (Changes.closed h hclosed) ih

/-- A real run whose stop was requested has a stop action that is queued or claimed. -/
def StopTracked (w : Workflow) : Prop :=
  ∀ r ∈ w.run, r.mode = .real → r.status = .stopRequested → w.Stopping

theorem stopTracked_of_status (h : ∀ r ∈ w.run, r.status ≠ .stopRequested) : StopTracked w :=
  fun r hr _ hst => absurd hst (h r hr)

theorem stopTracked_finish {st : FinishStatus} : StopTracked (w.finish st) := by
  refine stopTracked_of_status fun r' hr' => ?_
  obtain ⟨r, -, rfl⟩ := Option.map_eq_some_iff.1 hr'
  cases st <;> exact nofun

theorem stopTracked_settleStops {st : FinishStatus} : StopTracked (w.finish st).settleStops := by
  refine stopTracked_of_status fun r' hr' => ?_
  obtain ⟨r, -, rfl⟩ := Option.map_eq_some_iff.1 hr'
  cases st <;> exact nofun

theorem stopTracked_setStatus {x : RunStatus} (hx : x ≠ .stopRequested) :
    StopTracked (w.setStatus x) := by
  refine stopTracked_of_status fun r' hr' => ?_
  obtain ⟨r, -, rfl⟩ := Option.map_eq_some_iff.1 hr'
  exact hx

theorem StopTracked.setRun (h : StopTracked w) {f : RunState → RunState}
    (hf : ∀ r, (f r).mode = r.mode ∧ ((f r).status = .stopRequested → r.status = .stopRequested)) :
    StopTracked (w.setRun f) := by
  intro r' hr' hmode hst
  obtain ⟨r, hr, rfl⟩ := Option.map_eq_some_iff.1 hr'
  exact h r hr ((hf r).1 ▸ hmode) ((hf r).2 hst)

theorem Stopping.setActions (h : Stopping w) {p : ActionState → Prop} [DecidablePred p]
    {x : ActionStatus}
    (hx : ∀ a ∈ w.actions, p a → a.kind = .stopTrainingRun → a.status.Open → x.Open) :
    Stopping (w.setActions p x) := by
  obtain ⟨a, ha, hk, hst⟩ := h
  refine ⟨_, List.mem_map_of_mem ha, ?_⟩
  by_cases hp : p a
  · rw [if_pos hp]
    exact ⟨hk, hx a ha hp hk hst⟩
  · rw [if_neg hp]
    exact ⟨hk, hst⟩

theorem StopTracked.setActions (h : StopTracked w) {p : ActionState → Prop} [DecidablePred p]
    {x : ActionStatus}
    (hx : ∀ a ∈ w.actions, p a → a.kind = .stopTrainingRun → a.status.Open → x.Open) :
    StopTracked (w.setActions p x) :=
  fun r hr hmode hst => (h r hr hmode hst).setActions hx

theorem stopTracked_stop {ref : String} {r : RunState} (hr : w.run = some r) :
    StopTracked (w.stop ref r) := by
  unfold stop
  split
  · exact stopTracked_finish
  · split
    · exact fun _ _ _ _ => ⟨_, List.mem_append_right _ (List.mem_singleton_self _), rfl, .inl rfl⟩
    · rename_i hnot
      intro r' hr' hmode _
      obtain ⟨x, hx, rfl⟩ := Option.map_eq_some_iff.1 hr'
      obtain rfl := Option.some.inj (hr.symm.trans hx)
      exact not_not.1 fun h => hnot ⟨hmode, h⟩

theorem StopTracked.claim (h : StopTracked w) (a : ActionState) : StopTracked (w.claim a) := by
  cases hk : a.kind with
  | stopTrainingRun =>
    rw [claim_of_stop hk]
    exact h.setActions fun _ _ _ _ _ => .inr rfl
  | startTrainingStage =>
    rw [claim_of_start hk]
    have hset : StopTracked (w.setActions (fun b => b.ref = a.ref) .running) :=
      h.setActions fun _ _ _ _ _ => .inr rfl
    refine hset.setRun fun r => ?_
    split
    · exact ⟨rfl, nofun⟩
    · exact ⟨rfl, id⟩

theorem StopTracked.started (h : StopTracked w) (ref : String) : StopTracked (w.started ref) := by
  refine StopTracked.setActions (StopTracked.setRun (w := w.setStages _ _) h fun r => ?_)
    fun a _ ⟨_, hstart, _⟩ hstop => absurd (hstart.symm.trans hstop) nofun
  split
  · exact ⟨rfl, nofun⟩
  · exact ⟨rfl, id⟩

theorem stopTracked_exitSucceeded {ref : String} {s : StageState} :
    StopTracked (w.exitSucceeded ref s) := by
  cases h : (w.succeedStage s).nextPending? with
  | none =>
    rw [exitSucceeded_of_last h]
    exact stopTracked_finish
  | some next =>
    rw [exitSucceeded_of_next h]
    exact stopTracked_setStatus (by decide)

theorem stopTracked_exited {ref : String} {r : RunState} {s : StageState} {outcome : FinishStatus} :
    StopTracked (w.exited ref r s outcome) := by
  unfold exited
  split
  · exact stopTracked_finish
  · cases outcome with
    | succeeded => exact stopTracked_exitSucceeded
    | failed | cancelled | lost =>
      show StopTracked (exitUnsuccessful _ _ _)
      unfold exitUnsuccessful
      split
      · exact stopTracked_settleStops
      · exact stopTracked_finish

theorem stopTracked_claimRun {workerId : String} : StopTracked (w.claimRun workerId) := by
  cases h : w.nextPending? with
  | none =>
    rw [claimRun_of_none h]
    exact stopTracked_finish
  | some next =>
    rw [claimRun_of_next h]
    refine stopTracked_of_status fun r' hr' => ?_
    obtain ⟨r, -, rfl⟩ := Option.map_eq_some_iff.1 hr'
    exact nofun

theorem StopTracked.completeStage (h : StopTracked w) (s : StageState) :
    StopTracked (w.completeStage s) := by
  cases hn : (w.succeedStage s).nextPending? with
  | none =>
    rw [completeStage_of_last hn]
    exact stopTracked_finish
  | some next =>
    rw [completeStage_of_next hn]
    exact h

theorem StopTracked.result (h : StopTracked w) (hkeyed : w.Keyed) {a : ActionState}
    (ha : a ∈ w.actions) (hok : a.kind = .stopTrainingRun → w.AwaitsStop .stopAnswered)
    (x : ActionStatus) : StopTracked (w.result a.ref x) := by
  cases hk : a.kind with
  | stopTrainingRun => exact stopTracked_of_status (hok hk)
  | startTrainingStage =>
    refine h.setActions fun b hb href hstop => ?_
    obtain rfl := hkeyed.action_eq hb ha href
    rw [hk] at hstop
    cases hstop

/-- While no stop is answered, a real run whose stop was requested has an open stop action. -/
theorem Change.stopTracked (h : Change AwaitsStop w w') (hkeyed : w.Keyed) (hw : StopTracked w) :
    StopTracked w' := by
  cases h with
  | create hr =>
    refine stopTracked_of_status fun r' hr' => ?_
    obtain rfl := Option.some.inj hr'
    rw [hr.1]
    exact nofun
  | stop hr => exact stopTracked_stop hr
  | requeue => exact hw.setActions fun _ _ _ _ _ => .inl rfl
  | result ha _ _ hok => exact hw.result hkeyed ha hok _
  | claim => exact hw.claim _
  | startFailed =>
    unfold failStart
    split <;> exact stopTracked_finish
  | started => exact hw.started _
  | foundRunning | startStage => exact stopTracked_setStatus (by decide)
  | exited => exact stopTracked_exited
  | claimRun => exact stopTracked_claimRun
  | cancelStopped | failStage | giveUp => exact stopTracked_finish
  | completeStage => exact hw.completeStage _

theorem Changes.stopTracked (h : Changes AwaitsStop w w') (hw : StopTracked w) :
    StopTracked w' := by
  induction h with
  | refl => exact hw
  | tail _ hc ih => exact hc.1.stopTracked hc.2.1 ih

end Workflow

open Transaction Workflow

variable {db db₁ db₂ : Database} {registry : Registry} {l₁ l₂ : List (Transition Database Event)}

def StopRequested (db : Database) (runRef : String) : Prop :=
  ∃ run ∈ db.runs, run.runRef = runRef ∧ run.status = .stopRequested

/--
The stop of the run is not forgotten: the run waits for its end or has ended, and while it waits
a stop action that is queued, or whose lease is over, is eligible in a poll.
-/
structure StopKept (db : Database) (runRef : String) : Prop where
  status : ∃ run ∈ db.runs, run.runRef = runRef ∧
    (run.status = .stopRequested ∨ run.status.Terminal)
  eligible : StopRequested db runRef →
    ∀ a ∈ db.actions, a.runRef = runRef → a.kind = .stopTrainingRun → ∀ now,
      a.status = .queued ∨ a.Expired now a.nodeRef →
        ∃ b ∈ eligibleActions (requeueExpired now a.nodeRef db) a.nodeRef,
          b.actionRef = a.actionRef

/--
While the run waits for its end it has a stop action that is queued, or that is claimed and will
be queued again by any poll of its node after its lease.
-/
def StopOpen (db : Database) (runRef : String) : Prop :=
  StopRequested db runRef → ∃ a ∈ db.actions, a.runRef = runRef ∧ a.kind = .stopTrainingRun ∧
    (a.status = .queued ∨ ∃ t, ∀ now, t < now → a.Expired now a.nodeRef)

def HandsOutNoStart (x : Transition Database Event) (runRef : String) : Prop :=
  ∀ claimed, x.label.2 = .ok (.actions claimed) →
    ∀ c ∈ claimed, c.runRef = runRef → c.kind ≠ .startTrainingStage

theorem eligible_stop {run : RunRow} (hrun : run ∈ db.runs) (hst : run.status = .stopRequested)
    {a : ActionRow} (ha : a ∈ db.actions) (href : a.runRef = run.runRef)
    (hk : a.kind = .stopTrainingRun) {now : Timestamp}
    (hq : a.status = .queued ∨ a.Expired now a.nodeRef) :
    ∃ b ∈ eligibleActions (requeueExpired now a.nodeRef db) a.nodeRef,
      b.actionRef = a.actionRef := by
  have helig : ∀ b ∈ (requeueExpired now a.nodeRef db).actions, b.runRef = a.runRef →
      b.nodeRef = a.nodeRef → b.kind = .stopTrainingRun → b.status = .queued →
      b ∈ eligibleActions (requeueExpired now a.nodeRef db) a.nodeRef := by
    intro b hb hrun' hnode hkind hqueued
    refine List.mem_append_left _ (List.mem_filter.2 ⟨Table.mem_select.2 ⟨hb, ?_⟩, by simpa⟩)
    refine ⟨hnode, hqueued, run, hrun, (hrun'.trans href).symm, ?_⟩
    rw [hkind]
    exact hst
  by_cases hexp : a.Expired now a.nodeRef
  · exact ⟨_, helig _ (List.mem_map.2 ⟨a, ha, if_pos hexp⟩) rfl rfl hk rfl, rfl⟩
  · exact ⟨a, helig a (List.mem_map.2 ⟨a, ha, if_neg hexp⟩) rfl rfl hk (hq.resolve_right hexp), rfl⟩

theorem stopKept_of_halting {r : String} (hhalt : (workflowOf db r).Halting) :
    StopKept db r := by
  constructor
  · obtain ⟨x, hx, hst⟩ := hhalt
    obtain ⟨run, hfind, rfl⟩ := Option.map_eq_some_iff.1 hx
    obtain ⟨hrun, href⟩ := Table.find?_eq_some_iff.1 hfind
    exact ⟨run, hrun, href, hst⟩
  · rintro ⟨run, hrun, rfl, hst⟩ a ha href hk now hq
    exact eligible_stop hrun hst ha href hk hq

theorem stopOpen_of_tracked {r : String} (htracked : (workflowOf db r).StopTracked)
    (hreal : ∀ x ∈ (workflowOf db r).run, x.mode = .real) (hleased : ClaimsLeased db) :
    StopOpen db r := by
  rintro ⟨run, hrun, rfl, hst⟩
  have hx := run_workflowOf hrun
  obtain ⟨x, hx, hk, hopen⟩ := htracked _ hx (hreal _ hx) hst
  obtain ⟨a, ha, rfl⟩ := List.mem_map.1 hx
  obtain ⟨ha, hr⟩ := Table.mem_select.1 ha
  refine ⟨a, ha, hr, hk, hopen.imp id fun hrunning => ?_⟩
  obtain ⟨t, ht⟩ := Option.isSome_iff_exists.1 (hleased a ha hrunning)
  exact ⟨t, fun now hlt => ⟨rfl, hrunning, t, ht, hlt⟩⟩

theorem pollTrainingActions_eligible {now : Timestamp} {w : WorkerCredential} {limit : ℕ}
    {tokens : String → String} {db' : Database} {claimed : List ClaimedAction}
    (h : pollTrainingActions now w limit tokens db = .ok (claimed, db')) {c : ClaimedAction}
    (hc : c ∈ claimed) : ∃ run ∈ db.runs, run.runRef = c.runRef ∧ c.kind.EligibleIn run.status := by
  obtain ⟨_, -, h⟩ := bind_eq_ok.1 h
  cases h
  obtain ⟨row, hrow, rfl⟩ := List.mem_map.1 hc
  exact (claimable_of_mem (List.mem_of_mem_take hrow)).2.2

theorem handsOutNoStart_of_halting {x : Transition Database Event}
    (h : Step x.pre x.label x.post) {r : String} (hhalt : (workflowOf x.pre r).Halting) :
    HandsOutNoStart x r := by
  intro claimed hreply c hc href hk
  rcases step_iff.1 h with ⟨reply, hp, ha⟩ | ⟨_, -, ha, -⟩
  · rw [ha] at hreply
    obtain rfl := Except.ok.inj hreply
    obtain ⟨now, w, limit, tokens, -, hpoll⟩ := poll_of_actions hp
    obtain ⟨run, hrun, href', helig⟩ := pollTrainingActions_eligible hpoll hc
    obtain rfl : run.runRef = r := href'.trans href
    rw [hk] at helig
    refine RunStatus.not_halting ?_ (hhalt.status (run_workflowOf hrun))
    exact helig.elim .inl fun h => .inr (.inl h)
  · rw [ha] at hreply
    cases hreply

def RequestsStop (x : Transition Database Event) (runRef : String) : Prop :=
  ∃ now q, x.label.1 = .stopRun now q ∧ x.label.2.isOk ∧ q.runRef = runRef ∧
    x.pre.idempotency.find? (.stopRun, q.idempotencyKey) = none

/-- Since the stop of the run was requested, no stop is answered while it is requested. -/
def StopAwaited (l : List (Transition Database Event)) (runRef : String) : Prop :=
  ∃ m y m', l = m ++ y :: m' ∧ RequestsStop y runRef ∧
    ∀ x ∈ m', x.label.1.Meets AwaitsStop x.pre

theorem RequestsStop.tracked {x : Transition Database Event} {r : String} (h : RequestsStop x r)
    (hstep : Step x.pre x.label x.post) : (workflowOf x.post r).StopTracked := by
  obtain ⟨now, q, hlabel, haccepted, rfl, hnew⟩ := h
  rcases step_iff.1 hstep with ⟨reply, hp, -⟩ | ⟨_, -, ha, -⟩
  · rw [hlabel] at hp
    obtain ⟨view, hstop, -⟩ := answer_eq_ok.1 hp
    obtain ⟨run, hrun, href, -, hacts⟩ := acts_stopRun hnew hstop
    rw [← href, hacts.self]
    exact stopTracked_stop (run_workflowOf hrun)
  · rw [ha] at haccepted
    cases haccepted

theorem stopOpen_of_run (h : Run Step (.initial registry) l₁ db) {r : String}
    (hawaited : StopAwaited l₁ r) (hreal : ∀ x ∈ (workflowOf db r).run, x.mode = .real) :
    StopOpen db r := by
  obtain ⟨m, y, m', rfl, hrequest, hawait⟩ := hawaited
  obtain ⟨hpre, hstep, hrest⟩ := h.split
  have hwf : Wf y.post := .of_run (hpre.snoc hstep) (wf_initial registry)
  exact stopOpen_of_tracked (Changes.stopTracked (moves_of_run hrest hwf hawait r)
    (hrequest.tracked hstep)) hreal (claimsLeased_of_run h)

/--
While no run whose stop was requested, or that has ended, is found running, a real run whose stop
was requested ends, and it is not started until then; while no stop is answered either, the run has
an open stop action until then.
-/
theorem stop_request_kept (h₁ : Run Step (.initial registry) l₁ db₁) (h₂ : Run Step db₁ l₂ db₂)
    (hok : ∀ x ∈ l₂, x.label.1.Meets RespectsStop x.pre) {run : RunRow} (hrun : run ∈ db₁.runs)
    (hreal : run.executionMode = .real) (hstop : run.status = .stopRequested) :
    StopKept db₂ run.runRef ∧ (∀ x ∈ l₂, HandsOutNoStart x run.runRef) ∧
      (StopAwaited (l₁ ++ l₂) run.runRef → StopOpen db₂ run.runRef) := by
  have hwf : Wf db₁ := .of_run h₁ (wf_initial registry)
  have hstate := run_workflowOf hrun
  have hhalt : ∀ {m db}, Run Step db₁ m db → (∀ x ∈ m, x.label.1.Meets RespectsStop x.pre) →
      (workflowOf db run.runRef).Halting := fun h hok =>
    (moves_of_run h hwf hok run.runRef).halting (hwf run.runRef) (closed_of_run h₁ run.runRef)
      ⟨_, hstate, .inl hstop⟩
  refine ⟨stopKept_of_halting (hhalt h₂ hok), fun x hx => ?_, fun hawaited => ?_⟩
  · obtain ⟨m, m', rfl⟩ := List.append_of_mem hx
    obtain ⟨hpre, hstep, -⟩ := h₂.split
    exact handsOutNoStart_of_halting hstep (hhalt hpre fun y hy => hok y (by simp [hy]))
  · refine stopOpen_of_run (h₁.append h₂) hawaited fun x hx => ?_
    have hmoves := moves_of_run h₂ hwf hok run.runRef
    obtain ⟨f, hf, hkept⟩ := (Changes.extends hmoves (by simp [hstate])).run
    rw [hf, hstate] at hx
    obtain rfl := Option.some.inj hx
    exact (hkept _ hstate).mode.trans hreal

/-- The stop of a run is requested while its first stage runs. -/
def stoppedRun : List Op :=
  [.createRun 1 (Sample.creation "real" "run" ["a", "b"]), Sample.poll 2,
   Sample.report 3 "run" 1 "a" .started, .stopRun 4 ⟨"run", 2, "stop", "digest", "stop"⟩]

/-- The worker says that the stage runs before it sees the request. -/
def earlyReconciliation : Op := Sample.report 5 "run" 2 "a" (.reconciliation Sample.running)

theorem earlyReconciliation_forgets :
    Run Step (.initial Sample.registry) (centre.serve (.initial Sample.registry) stoppedRun)
        (centre.final (.initial Sample.registry) stoppedRun) ∧
      (∃ run ∈ (centre.final (.initial Sample.registry) stoppedRun).runs,
        run.runRef = "run" ∧ run.executionMode = .real ∧ run.status = .stopRequested) ∧
      Run Step (centre.final (.initial Sample.registry) stoppedRun)
        (centre.serve (centre.final (.initial Sample.registry) stoppedRun) [earlyReconciliation])
        (centre.final (centre.final (.initial Sample.registry) stoppedRun)
          [earlyReconciliation]) ∧
      ¬ StopKept (centre.final (centre.final (.initial Sample.registry) stoppedRun)
        [earlyReconciliation]) "run" := by
  refine ⟨centre.serve_run _ _, by decide +kernel, centre.serve_run _ _, fun h => ?_⟩
  have hrunning : ∀ run ∈ (centre.final (centre.final (.initial Sample.registry) stoppedRun)
      [earlyReconciliation]).runs, run.status = .running := by decide +kernel
  obtain ⟨run, hrun, -, hst⟩ := h.status
  rw [hrunning run hrun] at hst
  exact RunStatus.not_halting (.inr (.inr rfl)) hst

def waitingRun : List Op := [Sample.poll 5, Sample.report 6 "run" 2 "a" .heartbeat,
    Sample.poll 50006]

theorem stop_request_kept_stoppedRun :
    ∃ run ∈ (centre.final (.initial Sample.registry) stoppedRun).runs,
      StopKept (centre.final (centre.final (.initial Sample.registry) stoppedRun) waitingRun)
          run.runRef ∧
        (∀ x ∈ centre.serve (centre.final (.initial Sample.registry) stoppedRun) waitingRun,
          HandsOutNoStart x run.runRef) ∧
        StopOpen (centre.final (centre.final (.initial Sample.registry) stoppedRun) waitingRun)
          run.runRef := by
  have hstopped : ∃ run ∈ (centre.final (.initial Sample.registry) stoppedRun).runs,
      run.runRef = "run" ∧ run.executionMode = .real ∧ run.status = .stopRequested := by
    decide +kernel
  obtain ⟨run, hrun, href, hreal, hstop⟩ := hstopped
  obtain ⟨hkept, hstart, hopen⟩ := stop_request_kept (centre.serve_run _ stoppedRun)
    (centre.serve_run _ waitingRun) (by decide +kernel) hrun hreal hstop
  refine ⟨run, hrun, hkept, hstart, hopen ?_⟩
  refine ⟨centre.serve (.initial Sample.registry) (stoppedRun.take 3), _, _, rfl,
    ⟨4, ⟨"run", 2, "stop", "digest", "stop"⟩, rfl, by decide +kernel, href.symm, ?_⟩, ?_⟩
  · exact (by decide +kernel : ((centre.final (.initial Sample.registry)
      (stoppedRun.take 3)).idempotency.find? (.stopRun, "stop")).isNone = true) |>
      Option.isNone_iff_eq_none.1
  · decide +kernel

end DataJuicer.Training

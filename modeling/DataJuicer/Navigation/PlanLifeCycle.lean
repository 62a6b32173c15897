import DataJuicer.Navigation.Consistency

/-! # The life cycle of a plan

A plan is active from its activation until it is superseded, completed or invalidated. All
operations but two look for an active plan before they write its status; `invalidate` and
`quarantine_human_decision_handoff` write it to any plan.
-/

namespace DataJuicer.Navigation

open Table Transaction

/-- The accepted phase of a task is the phase of its active plan. -/
def PhasesAccepted (db : NavigationDb) : Prop :=
  ∀ p ∈ db.plans, p.status = .active → ∀ t ∈ db.tasks, t.taskId = p.taskId →
    t.acceptedPlanPhase = some p.phase

def CompletedDone (db : NavigationDb) : Prop :=
  ∀ p ∈ db.plans, p.status = .completed → ∀ s ∈ db.steps, s.planId = p.planId →
    s.status = .completed

/-- The request leaves the accepted phase of a task to the plan repository. -/
def Op.KeepsAcceptedPhase : Op → Prop
  | .updateTaskForSession _ _ _ changes => changes.acceptedPlanPhase = none
  | _ => True

instance : DecidablePred Op.KeepsAcceptedPhase := by
  rintro (_ | _) <;> unfold Op.KeepsAcceptedPhase <;> infer_instance

/-- An operation that invalidates a plan in any status finds it active, or already invalidated. -/
def InvalidatesActive (db : NavigationDb) : Op → Prop
  | .invalidate call planId _ => Invalidatable db call planId →
      ∀ p ∈ db.plans, p.planId = planId → p.status = .active ∨ p.status = .invalidated
  | .quarantineHumanDecisionHandoff now web planId stepId reason => ∀ h,
      Quarantinable db now web planId stepId reason h →
      ∀ p ∈ db.plans, p.planId = planId → p.status = .active ∨ p.status = .invalidated
  | _ => True

variable {db db' mid : NavigationDb} {op : Op} {r : Reply}

theorem activate_accepts {call : Call} {a : Activation} {record : PlanRow}
    (h : activate call a db = .ok (record, db')) :
    (∀ t ∈ db'.tasks, t.taskId = a.taskId → t.acceptedPlanPhase = some a.phase) ∧
      ∀ p ∈ db'.plans, p.taskId = a.taskId → p.status = .active → p.phase = a.phase := by
  obtain ⟨_, _, h⟩ := bind_eq_ok.1 h
  split at h
  · cases h
  · obtain ⟨_, _, h⟩ := bind_eq_ok.1 h
    obtain ⟨_, _, h⟩ := bind_eq_ok.1 h
    obtain ⟨_, _, h⟩ := bind_eq_ok.1 h
    obtain ⟨d, hd, h⟩ := bind_eq_ok.1 h
    obtain ⟨d', hd', h⟩ := bind_eq_ok.1 h
    cases h
    constructor
    · intro t ht hid
      obtain ⟨t₀, _, rfl⟩ := List.mem_map.1 ht
      split_ifs at hid ⊢ with hit
      · rfl
      · exact absurd hid hit
    · intro p hp hid hactive
      have hd := constrained_eq_ok.1 hd
      unfold NavigationDb.insertActivePlan? at hd
      split_ifs at hd
      obtain ⟨plans, hplans, rfl⟩ := Option.map_eq_some_iff.1 hd
      have hp : p ∈ d'.plans := hp
      rw [(insertLedgerRows_tables (constrained_eq_ok.1 hd')).1] at hp
      rcases (mem_insert? hplans).1 hp with hp | rfl
      · exact absurd hactive (supersedePlans_idle hp hid)
      · rfl

theorem PhasesAccepted.perform (hc : Consistent db) (hacc : PhasesAccepted db)
    (hop : op.KeepsAcceptedPhase) (h : perform op db = .ok (r, db')) : PhasesAccepted db' := by
  intro p' hp' hactive t' ht' hid
  have hcommit := perform_commits h
  rcases hcommit.ledger.rowsMove.active_pre hp' hactive with ⟨p, hp, hsame, hpre⟩ | ha
  · obtain ⟨t, ht, htid⟩ := hc.plan_task p hp
    have hmove := hcommit.tasks.of_taskId ht ht' (hid.trans (hsame.taskId.trans htid.symm))
    have hphase : t.acceptedPlanPhase = some p'.phase := by
      rw [hsame.phase]
      exact hacc p hp hpre t ht htid
    cases hmove with
    | triggered h => obtain ⟨n, rfl⟩ := h; exact hphase
    | written _ _ h | guided _ _ _ h => rw [h]; exact hphase
    | activated hta _ ht'' =>
      obtain ⟨record, h, _⟩ := answer_eq_ok.1 h
      have haccepts := (activate_accepts h).2 p' hp'
        (hsame.taskId.trans (htid.symm.trans hta)) hactive
      rw [ht'', haccepts]
      rfl
    | @merged _ _ _ changes _ _ _ _ _ h =>
      have hkeep : changes.acceptedPlanPhase = none := hop
      rw [h]
      simp only [mergedTask, hkeep, Option.getD_none]
      exact hphase
  · cases ha with
    | intro _ _ _ _ hrecord =>
      obtain ⟨record, h, _⟩ := answer_eq_ok.1 h
      have haccepts := (activate_accepts h).1 t' ht'
      rw [hrecord] at hid ⊢
      exact haccepts hid

/-- `get_active_for_task` returns the active plan of a task. -/
theorem PhasesAccepted.getActiveForTask (hc : Consistent db) (hacc : PhasesAccepted db)
    {p : PlanRow} (hp : p ∈ db.plans) (hactive : p.status = .active) :
    getActiveForTask db p.taskId = some p := by
  obtain ⟨t, ht, hid⟩ := hc.plan_task p hp
  have htask : db.tasks.find? p.taskId = some t := find?_eq_some_iff.2 ⟨ht, hid⟩
  unfold Navigation.getActiveForTask
  rw [htask, Option.bind_some]
  have hisSome : (db.plans.rows.find? fun q => decide (q.taskId = p.taskId ∧
      t.acceptedPlanPhase = some q.phase ∧ q.status = .active)).isSome :=
    List.find?_isSome.2 ⟨p, hp, decide_eq_true ⟨rfl, hacc p hp hactive t ht hid, hactive⟩⟩
  obtain ⟨q, hq⟩ := Option.isSome_iff_exists.1 hisSome
  have hfound := List.find?_some hq
  obtain ⟨hqid, _, hqactive⟩ := of_decide_eq_true hfound
  rw [hq, hc.active_unique q (List.mem_of_find?_eq_some hq) p hp hqactive hactive hqid]

theorem StepWrite.not_completed (hc : Consistent db) {s : StepRow} {st : StepStatus}
    (h : StepWrite db op s st) : s.status ≠ .completed := by
  cases h with
  | claimed h => rw [h.pending]; decide
  | waited h => rw [h.at_pending.2.2.2]; decide
  | resumed h => rw [h.waiting]; decide
  | workflowWaited h => rcases h.status with h | h <;> rw [h] <;> decide
  | finished h => exact hc.expected_open h.staged_mem h.expected
  | recovered _ hs | replanned _ hs | terminalized _ hs | quarantined _ hs | reset _ hs => exact hs

theorem LedgerMove.completes {l : Ledger} (h : LedgerMove db op l) {p p' : PlanRow}
    (hp : p ∈ db.plans) (hp' : p' ∈ l.plans) (hid : p'.planId = p.planId)
    (hw : PlanWrite db op p .completed) (hdone : p'.status = .completed) :
    ∀ s ∈ l.steps, s.planId = p.planId → s.status = .completed := by
  have hkept : p' ∈ db.plans → p.status = .active → False := by
    intro hp' hactive
    rw [eq_of_key hp' hp hid, hactive] at hdone
    cases hdone
  cases hw with
  | completed hpid hactive _ _ _ =>
    cases h with
    | same => exact (hkept hp' hactive).elim
    | handoffUpdated => exact (hkept hp' hactive).elim
    | finished h l hl =>
      rcases hl with ⟨rfl, _⟩ | ⟨rfl, _, hall⟩
      · exact (hkept hp' hactive).elim
      · exact fun s hs hsid => hall s hs (hsid.trans hpid)

theorem CompletedDone.commit (hc : Consistent db) (hdone : CompletedDone db)
    (h : Commits db op db') : CompletedDone db' := by
  intro p' hp' hst s' hs' hid
  have hrows := h.ledger.rowsMove
  rcases hrows.plan_pre hp' with ⟨p, hp, hsame, hmove⟩ | ha
  · rcases hmove with heq | hw
    · rcases hrows.step_pre hs' with ⟨s, hs, hssame, hsmove⟩ | ⟨record, hrecord, ha, _, _, _, rfl⟩
      · have hs := hdone p hp (heq ▸ hst) s hs
          (hssame.planId.symm.trans (hid.trans hsame.planId))
        rcases hsmove with heq | hw
        · exact heq.trans hs
        · exact absurd hs (hw.not_completed hc)
      · obtain rfl := eq_of_key hp' hrecord hid.symm
        cases ha with
        | intro _ _ _ _ hrecord => rw [hrecord] at hst; cases hst
    · exact h.ledger.completes hp hp' hsame.planId (hst ▸ hw) hst s' hs' (hid.trans hsame.planId)
  · cases ha with
    | intro _ _ _ _ hrecord => rw [hrecord] at hst; cases hst

/-- A plan has a step, so its task cannot be deleted. -/
theorem Consistent.plan_stays (hc : Consistent db) (h : Commits db op db') {p : PlanRow}
    (hp : p ∈ db.plans) : ∃ p' ∈ db'.plans, PlanMove db op p p' := by
  refine (h.ledger.rowsMove.plan_post hp).resolve_right fun hnone => ?_
  obtain ⟨row, hrow⟩ := List.exists_mem_of_ne_nil _ p.plan.steps_ne
  obtain ⟨i, hi⟩ := List.mem_iff_getElem?.1 hrow
  obtain ⟨s, hs, hid, _⟩ := hc.plan_step p hp i row hi
  obtain ⟨q, hq, hqid, htask, _⟩ := hc.step_plan s hs
  obtain rfl := eq_of_key hq hp (hqid.trans hid.1)
  exact hnone s hs htask.symm

theorem PlanMove.closed {p p' : PlanRow} (h : PlanMove db op p p') (hp : p ∈ db.plans)
    (hcond : InvalidatesActive db op) (hclosed : p.status ≠ .active) : p'.status = p.status := by
  rcases h.2 with heq | hw
  · exact heq
  generalize p'.status = st at hw
  cases hw with
  | invalidated hid hinv => exact ((hcond hinv p hp hid).resolve_left hclosed).symm
  | quarantined hid hq => exact ((hcond _ hq p hp hid).resolve_left hclosed).symm
  | superseded _ hactive | completed _ hactive | recovered _ hactive | replanned _ hactive
  | terminalized _ hactive | reset _ hactive => exact absurd hactive hclosed

structure PlansLive (db : NavigationDb) : Prop where
  active_unique : ∀ p ∈ db.plans, ∀ q ∈ db.plans, p.status = .active → q.status = .active →
    p.taskId = q.taskId → p = q
  accepted : PhasesAccepted db
  current : ∀ p ∈ db.plans, p.status = .active → getActiveForTask db p.taskId = some p
  completed : CompletedDone db

/--
The plans of every database are in order, and a plan that is no longer active keeps its status,
when no other plan than an active one is invalidated.
-/
theorem plan_life_cycle {l m : List (Transition NavigationDb Event)}
    (h : Run Step .initial l mid) (h' : Run Step mid m db)
    (hphase : ∀ x ∈ l ++ m, x.label.1.KeepsAcceptedPhase)
    (hcond : ∀ x ∈ l ++ m, InvalidatesActive x.pre x.label.1) :
    PlansLive db ∧ ∀ p ∈ mid.plans, p.status ≠ .active →
      ∃ p' ∈ db.plans, p'.planId = p.planId ∧ p'.status = p.status := by
  have hrun := h.append h'
  have hc := Consistent.of_run hrun
  have hok : ∀ x ∈ l ++ m, Consistent x.pre ∧ x.label.1.KeepsAcceptedPhase ∧
      InvalidatesActive x.pre x.label.1 :=
    fun x hx => ⟨(hc.2 x hx).1, hphase x hx, hcond x hx⟩
  constructor
  · let inv := fun d : NavigationDb => PhasesAccepted d ∧ CompletedDone d
    have hstart : inv .initial :=
      ⟨fun p hp => absurd hp (not_mem_empty p), fun p hp => absurd hp (not_mem_empty p)⟩
    have hstep : ∀ x : Transition NavigationDb Event, inv x.pre → Consistent x.pre ∧
        x.label.1.KeepsAcceptedPhase ∧ InvalidatesActive x.pre x.label.1 →
        Step x.pre x.label x.post → inv x.post := by
      rintro x hinv ⟨hc, hphase, _⟩ hx
      exact hx.of_commit hinv fun r hr =>
        ⟨hinv.1.perform hc hphase hr, hinv.2.commit hc (perform_commits hr)⟩
    obtain ⟨haccepted, hdone⟩ := (hrun.invariant hstart hok hstep).1
    exact ⟨hc.1.active_unique, haccepted, fun p => haccepted.getActiveForTask hc.1, hdone⟩
  · intro p hp hclosed
    let inv := fun d : NavigationDb => ∃ p' ∈ d.plans, p'.planId = p.planId ∧ p'.status = p.status
    have hstep : ∀ x : Transition NavigationDb Event, inv x.pre → Consistent x.pre ∧
        x.label.1.KeepsAcceptedPhase ∧ InvalidatesActive x.pre x.label.1 →
        Step x.pre x.label x.post → inv x.post := by
      rintro x ⟨p₁, hp₁, hid, hst⟩ ⟨hc, _, hcond⟩ hx
      refine hx.of_commit ⟨p₁, hp₁, hid, hst⟩ fun r hr => ?_
      obtain ⟨p₂, hp₂, hmove⟩ := hc.plan_stays (perform_commits hr) hp₁
      exact ⟨p₂, hp₂, hmove.1.planId.trans hid, (hmove.closed hp₁ hcond (hst ▸ hclosed)).trans hst⟩
    exact (h'.invariant ⟨p, hp, rfl, rfl⟩
      (fun x hx => hok x (List.mem_append_right l hx)) hstep).1

/-- A step is claimed, and its result is staged and finished. -/
def runStep (call : Call) (stepId action : String) : List Op :=
  [.claimStep call "p" stepId action,
   .stageStepResult call "p" stepId action ⟨.completed, "{}", "{}", [.running]⟩,
   .finalizeStagedStep call "p" stepId action]

def completedPlan : List Op := Sample.setup ++
  runStep (Sample.alice 2) "confirm" "confirm_navigation_calibration_params" ++
  runStep (Sample.alice 3) "track" "run_annotation_tracking_workflow"

def completedDb : NavigationDb := stores.final .initial completedPlan

/-- The owner invalidates the completed plan. -/
def invalidation : List Op := [.invalidate (Sample.alice 4) "p" "obsolete"]

theorem completedPlan_invalidated :
    Run Step .initial (stores.serve .initial completedPlan) completedDb ∧
      Run Step completedDb (stores.serve completedDb invalidation)
        (stores.final completedDb invalidation) ∧
      (∀ x ∈ stores.serve .initial completedPlan ++ stores.serve completedDb invalidation,
        x.label.1.KeepsAcceptedPhase) ∧
      ∃ p ∈ completedDb.plans, p.status = .completed ∧
        ∃ p' ∈ (stores.final completedDb invalidation).plans,
          p'.planId = p.planId ∧ p'.status = .invalidated :=
  ⟨stores.serve_run _ _, stores.serve_run _ _, by decide, by decide⟩

def abandonedPlan : List Op := Sample.setup ++ [.invalidate (Sample.alice 2) "p" "obsolete"]

def abandonedDb : NavigationDb := stores.final .initial abandonedPlan

/-- The owner tries to claim a step of the invalidated plan. -/
def lateClaim : List Op :=
  [.claimStep (Sample.alice 3) "p" "confirm" "confirm_navigation_calibration_params"]

theorem abandonedPlan_stays :
    PlansLive (stores.final abandonedDb lateClaim) ∧
      ∃ p ∈ (stores.final abandonedDb lateClaim).plans, p.planId = "p" ∧
        p.status = .invalidated := by
  have hcond : ∀ x ∈ stores.serve .initial abandonedPlan ++ stores.serve abandonedDb lateClaim,
      InvalidatesActive x.pre x.label.1 := by
    simp only [abandonedPlan, lateClaim, Sample.setup, Service.serve, List.cons_append,
      List.nil_append, List.forall_mem_cons]
    refine ⟨trivial, trivial, fun _ => ?_, trivial, by simp⟩
    decide
  obtain ⟨hlive, hclosed⟩ :=
    plan_life_cycle (stores.serve_run _ _) (stores.serve_run _ _) (by decide) hcond
  have hp : ∃ p ∈ abandonedDb.plans, p.planId = "p" ∧ p.status = .invalidated := by decide
  obtain ⟨p, hp, hid, hst⟩ := hp
  obtain ⟨p', hp', hid', hst'⟩ := hclosed p hp (by rw [hst]; decide)
  exact ⟨hlive, p', hp', hid'.trans hid, hst'.trans hst⟩

end DataJuicer.Navigation

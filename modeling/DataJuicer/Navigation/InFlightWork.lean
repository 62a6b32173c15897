import DataJuicer.Navigation.Consistency

/-! # Work in flight

A plan should be given up only when none of its work is in flight, except for the step that
the operation recovers. Four operations check the whole plan or task for such work; the
recovery of a running step and the quarantine of a handoff look at their own step only.
-/

namespace DataJuicer.Navigation

open Table

/-- The step that an operation recovers, with its plan. -/
def Op.recovers : Op → Option (String × String)
  | .recoverRunningStepWithoutResult _ planId stepId _ _ => some (planId, stepId)
  | .quarantineHumanDecisionHandoff _ _ planId stepId _ => some (planId, stepId)
  | _ => none

def Op.GivesUpPlan : Op → Prop
  | .activate .. | .invalidate .. | .markNeedsReplan .. | .markTerminalizedClaimNeedsReplan ..
  | .recoverRunningStepWithoutResult .. | .quarantineHumanDecisionHandoff .. => True
  | _ => False

instance : DecidablePred Op.GivesUpPlan := by
  rintro (_ | _) <;> unfold Op.GivesUpPlan <;> infer_instance

/-- The work of a plan that is in flight belongs to one step. -/
structure QuietBut (db : NavigationDb) (planId : String) (own : Option (String × String)) :
    Prop where
  steps : ∀ s ∈ db.steps, s.planId = planId → s.status.InFlight → own = some (s.planId, s.stepId)
  outbox : ∀ o ∈ db.outbox, o.planId = planId → own = some (o.planId, o.stepId)
  handoffs : ∀ h ∈ db.handoffs, h.planId = planId → h.status ≠ .quarantined →
    own = some (h.planId, h.stepId)

/-- A plan is given up with no other work in flight than that of the recovered step. -/
def LeavesQuiet (x : Transition NavigationDb Event) : Prop :=
  x.label.1.GivesUpPlan → ∀ p ∈ x.pre.plans, p.status = .active → ∀ p' ∈ x.post.plans,
    p'.planId = p.planId → p'.status ≠ .active → QuietBut x.pre p.planId x.label.1.recovers

/-- A running step that has to be replanned is the one that the operation recovers. -/
def ReplansOwn (x : Transition NavigationDb Event) : Prop :=
  ∀ s ∈ x.pre.steps, s.status = .running → ∀ s' ∈ x.post.steps, s'.Is s.planId s.stepId →
    s'.status = .needsReplan → x.label.1.recovers = some (s.planId, s.stepId)

/-- Only active plans have work in flight. -/
structure InactiveQuiet (db : NavigationDb) : Prop where
  steps : ∀ p ∈ db.plans, p.status ≠ .active → ∀ s ∈ db.steps, s.planId = p.planId →
    ¬ s.status.InFlight
  outbox : ∀ p ∈ db.plans, p.status ≠ .active → ∀ o ∈ db.outbox, o.planId ≠ p.planId

/-- The step that an operation recovers is the only one of its plan with work in flight. -/
def RecoversAlone (db : NavigationDb) : Op → Prop
  | .recoverRunningStepWithoutResult call planId stepId _ action => ∀ v,
      Recoverable db call planId stepId action v → QuietBut db planId (some (planId, stepId))
  | .quarantineHumanDecisionHandoff now web planId stepId reason => ∀ h,
      Quarantinable db now web planId stepId reason h →
      (∃ p ∈ db.plans, p.planId = planId ∧ p.status = .active) →
      QuietBut db planId (some (planId, stepId))
  | _ => True

/-- The step of a staged result is not completed. -/
def StagedOpen (db : NavigationDb) : Prop :=
  ∀ o ∈ db.outbox, ∀ s ∈ db.steps, s.Is o.planId o.stepId → s.status ≠ .completed

variable {db db' : NavigationDb} {op : Op} {l : Ledger}

theorem quietBut_of_idle {planId : String} (h : ¬ ActivePlanHasInFlightWork db planId)
    (own : Option (String × String)) : QuietBut db planId own := by
  constructor
  · exact fun s hs hid hst => absurd (.inl ⟨s, hs, hid, hst⟩) h
  · exact fun o ho hid => absurd (.inr (.inl ⟨o, ho, hid⟩)) h
  · exact fun r hr hid hst => absurd (.inr (.inr ⟨r, hr, hid, hst⟩)) h

theorem RecoversAlone.keepsStaged (h : RecoversAlone db op) : KeepsStaged db op := by
  cases op with
  | recoverRunningStepWithoutResult =>
    intro v hv o ho hid
    have hown := (h v hv).outbox o ho hid
    exact hv.no_result o ho ⟨hid, (Prod.mk.inj (Option.some.inj hown)).2.symm⟩
  | quarantineHumanDecisionHandoff =>
    intro r hr hactive o ho hid
    exact (Prod.mk.inj (Option.some.inj ((h r hr hactive).outbox o ho hid))).2.symm
  | _ => trivial

theorem PlanWrite.quietBut (halone : RecoversAlone db op) (hop : op.GivesUpPlan) {p : PlanRow}
    {st : PlanStatus} (h : PlanWrite db op p st) (hp : p ∈ db.plans)
    (hactive : p.status = .active) : QuietBut db p.planId op.recovers := by
  cases h with
  | superseded hid _ hidle => exact quietBut_of_idle (fun h => hidle ⟨p, hp, hid, h⟩) _
  | invalidated hid h => exact quietBut_of_idle (hid ▸ h.idle) _
  | replanned hid _ h => exact quietBut_of_idle (hid ▸ h.idle) _
  | terminalized hid _ h => exact quietBut_of_idle (hid ▸ h.idle) _
  | recovered hid _ h => rw [hid]; exact halone _ h
  | quarantined hid h =>
    have hquiet := halone _ h ⟨p, hp, hid, hactive⟩
    rw [hid]
    exact hquiet
  | completed | reset => cases hop

theorem StepWrite.active {s : StepRow} {st : StepStatus} (h : StepWrite db op s st)
    (hst : st.InFlight) : ∃ p ∈ db.plans, p.planId = s.planId ∧ p.status = .active := by
  have hview : ∀ {planId stepId : String} {v : StepView}, v.Joins db planId stepId →
      v.plan.status = .active → ∃ p ∈ db.plans, p.planId = v.step.planId ∧ p.status = .active :=
    fun hv hactive => ⟨_, hv.plan_mem, hv.plan_planId.trans hv.step_planId.symm, hactive⟩
  cases h with
  | claimed h => exact hview h.joins h.active
  | resumed h => exact hview h.joins h.active
  | workflowWaited h => exact hview h.joins h.active
  | waited h =>
    obtain ⟨p, hp, hid, hactive, _⟩ := h.owned
    exact ⟨p, hp, hid.trans h.at_pending.1.symm, hactive⟩
  | @finished _ _ _ _ _ staged =>
    cases htarget : staged.targetStatus <;> rw [htarget] at hst <;>
      rcases hst with h | h <;> cases h
  | recovered | replanned | terminalized | quarantined | reset => rcases hst with h | h <;> cases h

theorem StepWrite.own (hquiet : InactiveQuiet db) (hc : Consistent db)
    (halone : RecoversAlone db op) {s : StepRow} (h : StepWrite db op s .needsReplan)
    (hs : s ∈ db.steps) (hrun : s.status = .running) : op.recovers = some (s.planId, s.stepId) := by
  have hbusy : ActivePlanHasInFlightWork db s.planId := .inl ⟨s, hs, rfl, .inl hrun⟩
  generalize hst : StepStatus.needsReplan = st at h
  cases h with
  | recovered hid _ h => exact (halone _ h).steps s hs hid (.inl hrun)
  | replanned hid _ h => exact absurd (hid ▸ hbusy) h.idle
  | terminalized hid _ h => exact absurd (hid ▸ hbusy) h.idle
  | quarantined hid _ h =>
    obtain ⟨p, hp, hpid, _⟩ := hc.step_plan s hs
    have hactive : p.status = .active :=
      by_contra fun hp' => hquiet.steps p hp hp' s hs hpid.symm (.inl hrun)
    exact (halone _ h ⟨p, hp, hpid.trans hid, hactive⟩).steps s hs hid (.inl hrun)
  | @finished _ _ _ _ _ staged =>
    cases htarget : staged.targetStatus <;> rw [htarget] at hst <;> cases hst
  | _ => cases hst

theorem Ledger.stepsNeedReplan_settled {planId : String} {now : Timestamp} {s : StepRow}
    (hs : s ∈ (l.stepsNeedReplan planId now).steps) (hid : s.planId = planId) :
    ¬ s.status.InFlight := by
  obtain ⟨r, _, rfl⟩ := List.mem_map.1 hs
  split_ifs at hid ⊢ with hr
  · rintro (h | h) <;> cases h
  · intro hst
    have hdone : r.status = .completed := by_contra fun h => hr ⟨hid, h⟩
    rw [hdone] at hst
    rcases hst with h | h <;> cases h

theorem LedgerMove.settles (hc : Consistent db) (h : LedgerMove db op l) {p p' : PlanRow}
    (hp : p ∈ db.plans) (hactive : p.status = .active) (hp' : p' ∈ l.plans)
    (hid : p'.planId = p.planId) (hclosed : p'.status ≠ .active) :
    ∀ s ∈ l.steps, s.planId = p.planId → ¬ s.status.InFlight := by
  have hkept : p' ∉ db.plans := by
    intro hp'
    rw [eq_of_key hp' hp hid] at hclosed
    exact hclosed hactive
  have hmarked : ∀ {planId : String} {q : PlanStatus → Prop} [DecidablePred q]
      {f : PlanRow → PlanRow} {hf : ∀ r, key (f r) = key r},
      p' ∈ (db.ledger.markPlan planId q f hf).plans → p.planId = planId := by
    intro planId q _ f hf hp'
    obtain ⟨r, hr, rfl⟩ := List.mem_map.1 hp'
    split_ifs at hid hkept with hq
    · exact hid.symm.trans ((hf r).trans hq.1)
    · exact absurd hr hkept
  have habandon : ∀ {planId reason : String} {now : Timestamp},
      p' ∈ (db.ledger.abandon planId reason now).plans →
      ∀ s ∈ (db.ledger.abandon planId reason now).steps, s.planId = p.planId →
        ¬ s.status.InFlight := by
    intro planId reason now hp' s hs hsid
    have hp' : p' ∈ (db.ledger.invalidatePlan planId reason now (· = .active)).plans := hp'
    unfold Ledger.invalidatePlan at hp'
    exact Ledger.stepsNeedReplan_settled hs (hsid.trans (hmarked hp'))
  cases h with
  | same | claimed | waited | resumed | workflowWaited | staged | attached | handoffStaged
  | acknowledged | handoffUpdated | anchored => exact absurd hp' hkept
  | deleted => exact absurd (mem_delete.1 hp').1 hkept
  | recovered | replanned | terminalized => exact habandon hp'
  | @activated call a record plans steps t _ _ _ hidle hrecord hplans hsteps =>
    intro s hs hsid hst
    rcases (hsteps s).1 hs with hs | ⟨i, row, _, rfl⟩
    · rcases (mem_insert? hplans).1 hp' with hp' | rfl
      · obtain ⟨q, hq, rfl⟩ := List.mem_map.1 hp'
        split_ifs at hid hkept with hq'
        · obtain rfl := eq_of_key hq hp hid
          exact hidle ⟨q, hq, hq'.1, .inl ⟨s, hs, hsid, hst⟩⟩
        · exact hkept hq
      · exact hclosed (by rw [hrecord]; rfl)
    · rcases hst with h | h <;> cases h
  | invalidated h =>
    unfold Ledger.invalidatePlan at hp'
    have hpid := hmarked hp'
    exact fun s hs hsid hst => h.idle (.inl ⟨s, hs, hsid.trans hpid, hst⟩)
  | @finished call planId stepId action v staged h l hl =>
    rcases hl with ⟨rfl, _⟩ | ⟨rfl, _, hdone⟩
    · exact absurd hp' hkept
    · intro s hs hsid
      have hp' : p' ∈ (db.ledger.complete planId call.now).plans := hp'
      unfold Ledger.complete at hp'
      rw [hdone s hs (hsid.trans (hmarked hp'))]
      decide
  | @quarantined now web planId stepId reason h hq =>
    intro s hs hsid
    have hs : s ∈ (db.ledger.stepsNeedReplan h.planId now).steps := hs
    obtain ⟨q, hq, rfl⟩ := List.mem_map.1 hp'
    split_ifs at hid hkept with hq'
    · exact Ledger.stepsNeedReplan_settled hs (hsid.trans (hid.symm.trans hq'))
    · exact absurd hq hkept
  | @reset now date resetRef =>
    intro s hs hsid
    obtain ⟨q, hq, rfl⟩ := List.mem_map.1 hp'
    split_ifs at hid hkept with hq'
    · obtain rfl := eq_of_key hq hp hid
      obtain ⟨r, hr, rfl⟩ := List.mem_map.1 hs
      split_ifs at hsid ⊢ with hr'
      · rintro (h | h) <;> cases h
      · obtain ⟨p₀, hp₀, hpid, htask, _⟩ := hc.step_plan r hr
        obtain rfl := eq_of_key hp₀ hp (hpid.trans hsid)
        have hdone : r.status = .completed :=
          by_contra fun h => hr' ⟨htask ▸ hq'.1, h, p₀, hp, hpid, hactive⟩
        rw [hdone]
        decide
    · exact absurd hq hkept

/-- A step is completed by the operation that removes its staged result. -/
theorem StepWrite.discards {s : StepRow} (h : StepWrite db op s .completed) {o : OutboxRow}
    (hid : s.Is o.planId o.stepId) : Discards db op o := by
  generalize hst : StepStatus.completed = st at h
  cases h with
  | finished h =>
    exact ⟨hid.1.symm.trans h.joins.step_planId, hid.2.symm.trans h.joins.step_stepId⟩
  | _ => cases hst

theorem StagedOpen.commit (hc : Consistent db) (hopen : StagedOpen db) (h : Commits db op db') :
    StagedOpen db' := by
  intro o' ho' s' hs' hid hdone
  have hrows := h.ledger.rowsMove
  have hsame : ∀ {s s₁ : StepRow}, s.Is o'.planId o'.stepId → s.Same s₁ → s₁ ∈ db'.steps →
      s₁ = s' := fun hs h h₁ => eq_of_key h₁ hs'
    (Prod.ext (h.planId.trans (hs.1.trans hid.1.symm)) (h.stepId.trans (hs.2.trans hid.2.symm)))
  rcases h.ledger.outbox_pre ho' with ⟨o, ho, hosame⟩ | hnew
  · obtain ⟨s, hs, hsid, _⟩ := hc.outbox_step o ho
    have hpre := hopen o ho s hs hsid
    rw [← hosame.planId, ← hosame.stepId] at hsid
    obtain ⟨s₁, hs₁, hssame, hmove⟩ := hrows.step_post hs
    obtain rfl := hsame hsid hssame hs₁
    rcases hmove with heq | hw
    · exact hpre (heq.symm.trans hdone)
    · rcases h.ledger.not_discards ho' with ⟨_, hsteps⟩ | hkeep
      · rw [NavigationDb.ledger_steps] at hsteps
        have hkey : key s₁ = key s := Prod.ext hssame.planId hssame.stepId
        exact hpre (eq_of_key (hsteps ▸ hs₁) hs hkey ▸ hdone)
      · exact hkeep ((hdone ▸ hw).discards hsid)
  · obtain ⟨v, hv, _, _, hst⟩ := hnew.joins
    obtain ⟨s₁, hs₁, hssame, hmove⟩ := hrows.step_post hv.step_mem
    obtain rfl := hsame ⟨hv.step_planId, hv.step_stepId⟩ hssame hs₁
    rcases hmove with heq | hw
    · rcases hnew.expectable _ hst with h | h | h <;> rw [← heq, hdone] at h <;> cases h
    · cases hnew <;> cases hw

theorem InactiveQuiet.commit (hc : Consistent db) (hquiet : InactiveQuiet db)
    (hopen : StagedOpen db) (halone : RecoversAlone db op) (h : Commits db op db') :
    InactiveQuiet db' := by
  have hrows := h.ledger.rowsMove
  constructor
  · intro p' hp' hclosed s' hs' hid hst
    rcases hrows.plan_pre hp' with ⟨p, hp, hsame, hpmove⟩ | ha
    · by_cases hactive : p.status = .active
      · exact h.ledger.settles hc hp hactive hp' hsame.planId hclosed s' hs'
          (hid.trans hsame.planId) hst
      · rcases hrows.step_pre hs' with ⟨s, hs, hssame, hmove⟩ | ⟨_, _, _, _, _, _, rfl⟩
        · have hsid := hssame.planId.symm.trans (hid.trans hsame.planId)
          rcases hmove with heq | hw
          · exact hquiet.steps p hp hactive s hs hsid (heq ▸ hst)
          · obtain ⟨q, hq, hqid, hqactive⟩ := hw.active hst
            rw [eq_of_key hq hp (hqid.trans hsid)] at hqactive
            exact hactive hqactive
        · rcases hst with h | h <;> cases h
    · cases ha with
      | intro _ _ _ _ hrecord => rw [hrecord] at hclosed; exact hclosed rfl
  · intro p' hp' hclosed o' ho' hid
    have hpre : ∃ p ∈ db.plans, PlanMove db op p p' := by
      refine (hrows.plan_pre hp').resolve_right fun ha => ?_
      cases ha with
      | intro _ _ _ _ hrecord => rw [hrecord] at hclosed; exact hclosed rfl
    obtain ⟨p, hp, hsame, hmove⟩ := hpre
    have hpid := hsame.planId.symm.trans hid.symm
    rcases h.ledger.outbox_pre ho' with ⟨o, ho, hosame⟩ | hnew
    · obtain ⟨s, hs, hsid, htask⟩ := hc.outbox_step o ho
      obtain ⟨q, hq, hqid, hqtask, _⟩ := hc.step_plan s hs
      obtain rfl := eq_of_key hq hp
        (hqid.trans (hsid.1.trans (hosame.planId.symm.trans hpid.symm)))
      have hactive : q.status = .active := by_contra fun hclosed =>
        hquiet.outbox q hq hclosed o ho (hosame.planId.symm.trans hpid.symm)
      have hw := hmove.resolve_left fun heq => hclosed (heq.trans hactive)
      have hdiscards := hw.discards halone.keepsStaged hq hactive ho
        (hpid.trans hosame.planId) hs hsid (hopen o ho s hs hsid) (hqtask.trans htask)
      rcases h.ledger.not_discards ho' with ⟨hplans, _⟩ | hkeep
      · rw [NavigationDb.ledger_plans] at hplans
        rw [show db'.plans = db.plans from hplans] at hp'
        rw [eq_of_key hp' hq hsame.planId] at hclosed
        exact hclosed hactive
      · exact hkeep (hosame.discards_iff.2 hdiscards)
    · obtain ⟨v, hv, _, hactive, _⟩ := hnew.joins
      obtain rfl := eq_of_key hv.plan_mem hp (hv.plan_planId.trans hpid.symm)
      rcases hmove with heq | hw
      · exact hclosed (heq.trans hactive)
      · cases hnew <;> cases hw

/--
When the recovered step is the only one with work in flight, no plan is given up with other work
in flight, and no plan that is not active has any.
-/
theorem no_orphaned_work {l : List (Transition NavigationDb Event)} (h : Run Step .initial l db)
    (halone : ∀ x ∈ l, RecoversAlone x.pre x.label.1) :
    InactiveQuiet db ∧ ∀ x ∈ l, LeavesQuiet x ∧ ReplansOwn x := by
  have hc := Consistent.of_run h
  let inv := fun d : NavigationDb => InactiveQuiet d ∧ StagedOpen d
  have hstart : inv .initial :=
    ⟨⟨fun p hp => absurd hp (not_mem_empty p), fun p hp => absurd hp (not_mem_empty p)⟩,
      fun o ho => absurd ho (not_mem_empty o)⟩
  have hok : ∀ x ∈ l, Consistent x.pre ∧ RecoversAlone x.pre x.label.1 :=
    fun x hx => ⟨(hc.2 x hx).1, halone x hx⟩
  have hstep : ∀ x : Transition NavigationDb Event, inv x.pre →
      Consistent x.pre ∧ RecoversAlone x.pre x.label.1 → Step x.pre x.label x.post →
      inv x.post := by
    rintro x hinv ⟨hc, halone⟩ hx
    refine hx.of_commit hinv fun r hr => ?_
    exact ⟨hinv.1.commit hc hinv.2 halone (perform_commits hr),
      hinv.2.commit hc (perform_commits hr)⟩
  obtain ⟨hlast, hall⟩ := h.invariant hstart hok hstep
  refine ⟨hlast.1, fun x hx => ⟨?_, ?_⟩⟩
  · intro hop p hp hactive p' hp' hid hclosed
    rcases step_iff.1 (h.step_of_mem hx) with ⟨r, hr, _⟩ | ⟨_, _, _, hkeep⟩
    · have hmove := (perform_commits hr).ledger.rowsMove.plan_of_key hp hp' hid
      have hw := hmove.2.resolve_left fun heq => hclosed (heq.trans hactive)
      exact hw.quietBut (halone x hx) hop hp hactive
    · rw [hkeep] at hp'
      exact absurd (eq_of_key hp' hp hid ▸ hactive) hclosed
  · intro s hs hrun s' hs' hid hst
    have hchanged : s'.status ≠ s.status := by
      rw [hrun, hst]
      decide
    rcases step_iff.1 (h.step_of_mem hx) with ⟨r, hr, _⟩ | ⟨_, _, _, hkeep⟩
    · have hmove := (perform_commits hr).ledger.rowsMove.step_of_key hs hs' hid
      have hw := hmove.2.resolve_left hchanged
      rw [hst] at hw
      exact hw.own (hall x hx).1.1 (hok x hx).1 (halone x hx) hs hrun
    · rw [hkeep] at hs'
      exact absurd (congrArg StepRow.status (eq_of_key hs' hs (Prod.ext hid.1 hid.2))) hchanged

instance (db : NavigationDb) (planId : String) (own : Option (String × String)) :
    Decidable (QuietBut db planId own) :=
  decidable_of_iff ((∀ s ∈ db.steps, s.planId = planId → s.status.InFlight →
      own = some (s.planId, s.stepId)) ∧ (∀ o ∈ db.outbox, o.planId = planId →
      own = some (o.planId, o.stepId)) ∧ ∀ h ∈ db.handoffs, h.planId = planId →
      h.status ≠ .quarantined → own = some (h.planId, h.stepId))
    ⟨fun h => ⟨h.1, h.2.1, h.2.2⟩, fun h => ⟨h.steps, h.outbox, h.handoffs⟩⟩

instance : DecidablePred LeavesQuiet := fun x => by
  unfold LeavesQuiet
  infer_instance

instance : DecidablePred ReplansOwn := fun x => by
  unfold ReplansOwn StepRow.Is
  infer_instance

/-- The user confirms the calibration parameters. -/
def confirmation : HumanDecision := ⟨"key", "confirmed", .completed, "{}", "{}"⟩

/-- The confirmation waits for its delivery, and its step is completed. -/
def confirmed : List Op := Sample.setup ++
  [.markWaitingUser (Sample.alice 2) "p" "confirm" "confirm_navigation_calibration_params",
   .stageHumanDecisionHandoff (Sample.alice 3) "p" "confirm" confirmation,
   .finalizeStagedStep (Sample.alice 4) "p" "confirm" "confirm_navigation_calibration_params"]

/-- The handoff of the completed step is quarantined while the next step runs. -/
def quarantinedLate : List Op := confirmed ++
  [.claimStep (Sample.alice 5) "p" "track" "run_annotation_tracking_workflow",
   .markHumanDecisionRecoveryRequired (Sample.alice 6) "p" "confirm" "ambiguous" none,
   .quarantineHumanDecisionHandoff 7 "web-a" "p" "confirm" "lost"]

theorem quarantinedLate_orphans :
    Run Step .initial (stores.serve .initial quarantinedLate)
        (stores.final .initial quarantinedLate) ∧
      (∃ x ∈ stores.serve .initial quarantinedLate, ¬ LeavesQuiet x) ∧
      ∃ x ∈ stores.serve .initial quarantinedLate, ¬ ReplansOwn x :=
  ⟨stores.serve_run _ _, by decide, by decide⟩

/-- The handoff is quarantined before the next step is claimed. -/
def quarantinedEarly : List Op := confirmed ++
  [.markHumanDecisionRecoveryRequired (Sample.alice 5) "p" "confirm" "ambiguous" none,
   .quarantineHumanDecisionHandoff 6 "web-a" "p" "confirm" "lost",
   .claimStep (Sample.alice 7) "p" "track" "run_annotation_tracking_workflow"]

theorem quarantinedEarly_quiet : InactiveQuiet (stores.final .initial quarantinedEarly) ∧
    ∀ x ∈ stores.serve .initial quarantinedEarly, LeavesQuiet x ∧ ReplansOwn x := by
  refine no_orphaned_work (stores.serve_run _ _) ?_
  simp only [quarantinedEarly, confirmed, Sample.setup, Service.serve, List.cons_append,
    List.nil_append, List.forall_mem_cons]
  refine ⟨trivial, trivial, trivial, trivial, trivial, trivial, fun _ _ _ => ?_, trivial, by simp⟩
  decide

end DataJuicer.Navigation

import DataJuicer.Navigation.FinishPlanShape
import DataJuicer.Navigation.StepReadiness

/-! # Accepted plans can be executed

The dependencies of a plan without dependency issues are earlier steps, and an active plan has a
step that is not completed. The gate lets the first such step through, so that an accepted plan is
never stuck between its validation and its execution.
-/

namespace DataJuicer.Navigation

open Table Transaction

theorem dependencies_before {steps : List PlanStep} (h : validateDependencies steps = []) {i : ℕ}
    {row : PlanStep} (hrow : steps[i]? = some row) {d : String} (hd : d ∈ row.dependsOn) :
    ∃ j < i, ∃ dependency, steps[j]? = some dependency ∧ dependency.stepId = d := by
  have hnone : ∀ code, ¬ Reports (validateDependencies steps) code := by
    intro code
    rw [h]
    exact not_reports_nil
  have hknown : d ∈ stepIds steps := by
    by_contra hnot
    exact hnone _ (validateDependencies_reports hrow hd (.inl ⟨hnot, rfl⟩))
  have hlt : (stepIds steps).idxOf d < i := by
    by_contra hle
    exact hnone _ (validateDependencies_reports hrow hd (.inr ⟨hknown, not_lt.1 hle, rfl⟩))
  have hlen : (stepIds steps).idxOf d < (stepIds steps).length := List.idxOf_lt_length_of_mem hknown
  have hget : (stepIds steps)[(stepIds steps).idxOf d]? = some d := by
    rw [List.getElem?_eq_getElem hlen, List.getElem_idxOf]
  unfold stepIds at hget
  rw [List.getElem?_map] at hget
  obtain ⟨dependency, hdependency, hid⟩ := Option.map_eq_some_iff.1 hget
  exact ⟨_, hlt, dependency, hdependency, hid⟩

/-- Every active plan has a step that is not completed. -/
def ActiveUnfinished (db : NavigationDb) : Prop :=
  ∀ p ∈ db.plans, p.status = .active → Unfinished db p.planId

section Unfinished

variable {db db' : NavigationDb} {op : Op} {l : Ledger}

theorem LedgerMove.unfinished (h : LedgerMove db op l) {s s' : StepRow} (hs : s ∈ db.steps)
    (hst : s.status ≠ .completed) (hw : StepWrite db op s .completed) (hs' : s' ∈ l.steps)
    (hid : s'.Is s.planId s.stepId) (hdone : s'.status = .completed) {p' : PlanRow}
    (hp' : p' ∈ l.plans) (hpid : p'.planId = s.planId) (hactive : p'.status = .active) :
    ∃ r ∈ l.steps, r.planId = s.planId ∧ r.status ≠ .completed := by
  have hkept : s' ∈ db.steps → False := fun hs' =>
    hst (eq_of_key hs' hs (Prod.ext hid.1 hid.2) ▸ hdone)
  generalize htarget : StepStatus.completed = st at hw
  cases hw with
  | @finished call planId stepId action v staged hfor =>
    cases h with
    | same => exact (hkept hs').elim
    | handoffUpdated => exact (hkept hs').elim
    | @finished _ _ _ _ _ staged' hfor' l hl =>
      have hplan := hfor.joins.step_planId
      have hstaged : staged' = staged := eq_of_key hfor'.staged_mem hfor.staged_mem
        (Prod.ext (hfor'.staged_id.1.trans hfor.staged_id.1.symm)
          (hfor'.staged_id.2.trans hfor.staged_id.2.symm))
      rcases hl with ⟨rfl, hfailed | ⟨r, hr, hrid, hrst⟩⟩ | ⟨rfl, -, -⟩
      · rw [← hstaged, hfailed] at htarget
        cases htarget
      · refine ⟨r, hr, hrid.trans hplan.symm, ?_⟩
        rw [← htarget]
        exact hrst
      · obtain ⟨q, -, rfl⟩ := List.mem_map.1 hp'
        split_ifs at hactive hpid with hq
        exact absurd ⟨hpid.trans hplan, hactive⟩ hq
  | _ => cases htarget

theorem ActiveUnfinished.commit (h : ActiveUnfinished db) (hcommit : Commits db op db') :
    ActiveUnfinished db' := by
  intro p' hp' hactive
  have hrows := hcommit.ledger.rowsMove
  rcases hrows.active_pre hp' hactive with ⟨p, hp, hsame, hpre⟩ | ha
  · obtain ⟨s, hs, hid, hst⟩ := h p hp hpre
    obtain ⟨s', hs', hssame, hmove⟩ := hrows.step_post hs
    by_cases hdone : s'.status = .completed
    · rcases hmove with heq | hw
      · exact absurd (heq.symm.trans hdone) hst
      · rw [hdone] at hw
        obtain ⟨r, hr, hrid, hrst⟩ := hcommit.ledger.unfinished hs hst hw hs'
          ⟨hssame.planId, hssame.stepId⟩ hdone hp' (hsame.planId.trans hid.symm) hactive
        exact ⟨r, hr, hrid.trans (hid.trans hsame.planId.symm), hrst⟩
    · exact ⟨s', hs', hssame.planId.trans (hid.trans hsame.planId.symm), hdone⟩
  · have hnew : ∀ p ∈ db.plans, ¬ p.Same p' := by
      cases ha with
      | intro _ _ _ _ hrecord hnew =>
        intro p hp hsame
        refine hnew p hp ?_
        rw [← hsame.planId, hrecord]
        rfl
    cases hrows with
    | changed hplans =>
      obtain ⟨p, hp, hsame, -⟩ := hplans.exists_pre p' hp'
      exact absurd hsame (hnew p hp)
    | activated _ hkept _ hplans hsteps =>
      rcases (hplans p').1 hp' with hp' | rfl
      · obtain ⟨p, hp, hsame, -⟩ := hkept.exists_pre p' hp'
        exact absurd hsame (hnew p hp)
      · obtain ⟨row, hrow⟩ := List.exists_mem_of_ne_nil _ p'.plan.steps_ne
        obtain ⟨i, hi⟩ := List.mem_iff_getElem?.1 hrow
        exact ⟨ledgerRow p' row i, (hsteps _).2 (.inr ⟨i, row, hi, rfl⟩), rfl, fun h => nomatch h⟩
    | deleted hop =>
      subst hop
      cases ha

end Unfinished

/-- What holds of every reachable database. -/
structure LedgerLive (db : NavigationDb) : Prop where
  sound : LedgerSound db
  accepted : PhasesAccepted db
  unfinished : ActiveUnfinished db

theorem LedgerLive.of_run {l : List (Transition NavigationDb Event)} {db : NavigationDb}
    (h : Run Step .initial l db) (hphase : ∀ x ∈ l, x.label.1.KeepsAcceptedPhase) :
    LedgerLive db := by
  have hstart : LedgerLive .initial :=
    ⟨.initial, fun p hp => absurd hp (not_mem_empty p), fun p hp => absurd hp (not_mem_empty p)⟩
  refine (h.invariant hstart hphase fun x hx hkeeps hstep => ?_).1
  refine hstep.of_commit hx fun r hr => ⟨hx.sound.perform hr, ?_, ?_⟩
  · exact hx.accepted.perform hx.sound.consistent hkeeps hr
  · exact hx.unfinished.commit (perform_commits hr)

section Gate

variable {db : NavigationDb} {p : PlanRow} {t : TaskRow} {s : Session}

theorem LedgerLive.exists_current (h : LedgerLive db) (hp : p ∈ db.plans)
    (hactive : p.status = .active) :
    ∃ r, (stepRows db p).find? (fun r => r.status ≠ .completed) = some r := by
  obtain ⟨r, hr, hid, hst⟩ := h.unfinished p hp hactive
  have hmem : r ∈ stepRows db p := mem_stepRows.2 ⟨hr, hid, h.sound.revision r hr p hp hid.symm⟩
  have hsome : ((stepRows db p).find? fun r => r.status ≠ .completed).isSome :=
    List.find?_isSome.2 ⟨r, hmem, decide_eq_true hst⟩
  exact Option.isSome_iff_exists.1 hsome

theorem planStep?_of_row (hc : Consistent db) (hp : p ∈ db.plans) {i : ℕ} {row : PlanStep}
    (hrow : p.plan.steps[i]? = some row) : planStep? p row.stepId = some row := by
  unfold planStep?
  cases hfind : p.plan.steps.find? fun s => s.stepId = row.stepId with
  | none =>
    have hnone := List.find?_eq_none.1 hfind row (List.mem_of_getElem? hrow)
    exact absurd (decide_eq_true rfl) hnone
  | some found =>
    have hid : found.stepId = row.stepId := by simpa using List.find?_some hfind
    obtain ⟨j, hj⟩ := List.mem_iff_getElem?.1 (List.mem_of_find?_eq_some hfind)
    obtain ⟨s₁, hs₁, hid₁, hseq₁⟩ := hc.plan_step p hp i row hrow
    obtain ⟨s₂, hs₂, hid₂, hseq₂⟩ := hc.plan_step p hp j found hj
    obtain rfl := eq_of_key hs₁ hs₂ (Prod.ext (hid₁.1.trans hid₂.1.symm)
      (hid₁.2.trans (hid.symm.trans hid₂.2.symm)))
    rw [← hseq₁, hseq₂, hj] at hrow
    exact hrow

theorem lookup_of_unique {α β : Type} [DecidableEq α] {l : List (α × β)} {a : α} {b : β}
    (hmem : (a, b) ∈ l) (hunique : ∀ b', (a, b') ∈ l → b' = b) : l.lookup a = some b := by
  cases hlookup : l.lookup a with
  | none =>
    have hnone := List.lookup_eq_none_iff.1 hlookup (a, b) hmem
    simp at hnone
  | some b' =>
    obtain ⟨l₁, l₂, rfl, -⟩ := List.lookup_eq_some_iff.1 hlookup
    rw [hunique b' (List.mem_append_right l₁ List.mem_cons_self)]

theorem dependencies_completed (h : LedgerSound db) (hp : p ∈ db.plans)
    (haccepted : validateDependencies p.plan.steps = []) {r : StepRow}
    (hr : (stepRows db p).find? (fun r => r.status ≠ .completed) = some r) {row : PlanStep}
    (hrow : p.plan.steps[r.sequence]? = some row) (hid : row.stepId = r.stepId) :
    ∀ d ∈ row.dependsOn, (dependencyStatusesOf db p r.stepId).lookup d = some .completed := by
  intro d hd
  obtain ⟨j, hj, dependency, hdependency, rfl⟩ := dependencies_before haccepted hrow hd
  obtain ⟨s, hs, ⟨hspid, hsid⟩, rfl⟩ := h.consistent.plan_step p hp j dependency hdependency
  have hdone : s.status = .completed := (first_open_step h hp hr).2.2 s hs hspid hj
  have hplan : planStep? p r.stepId = some row := hid ▸ planStep?_of_row h.consistent hp hrow
  unfold dependencyStatusesOf
  rw [hplan, Option.map_some, Option.getD_some]
  refine lookup_of_unique (List.mem_map.2 ⟨s, mem_select.2 ⟨hs, hspid, hsid ▸ hd⟩, ?_⟩) ?_
  · rw [hsid, hdone]
  · intro st hst
    obtain ⟨s', hs', hpair⟩ := List.mem_map.1 hst
    obtain ⟨hs'id, rfl⟩ := Prod.mk.inj hpair
    obtain ⟨hs', hs'pid, -⟩ := mem_select.1 hs'
    obtain rfl := eq_of_key hs' hs (Prod.ext (hs'pid.trans hspid.symm) (hs'id.trans hsid.symm))
    exact hdone

theorem newestTask?_mem {c : Call} (h : newestTask? db c = some t) : t ∈ db.tasks ∧ c.Owns t := by
  revert h
  unfold newestTask?
  refine @List.foldlRecOn _ _ (fun best => best = some t → t ∈ db.tasks ∧ c.Owns t)
    db.tasks.rows _ _
    (fun h => nomatch h) fun best hbest row hrow h => ?_
  split_ifs at h with howns
  · cases best with
    | none => exact Option.some.inj h ▸ ⟨hrow, howns⟩
    | some b =>
      dsimp only at h
      split_ifs at h
      · exact hbest h
      · exact Option.some.inj h ▸ ⟨hrow, howns⟩
  · exact hbest h

theorem LedgerLive.acceptedPlan (h : LedgerLive db) (hp : p ∈ db.plans)
    (hactive : p.status = .active)
    (ht : t ∈ db.tasks) (hid : t.taskId = p.taskId) : acceptedPlan? db t = some p := by
  unfold acceptedPlan?
  have hmem : p ∈ db.plans.select fun q => q.taskId = t.taskId ∧
      some q.phase = t.acceptedPlanPhase ∧ q.status = .active :=
    mem_select.2 ⟨hp, hid.symm, (h.accepted p hp hactive t ht hid).symm, hactive⟩
  cases hhead : (db.plans.select fun q => q.taskId = t.taskId ∧
      some q.phase = t.acceptedPlanPhase ∧ q.status = .active).head? with
  | none =>
    rw [List.head?_eq_none_iff.1 hhead] at hmem
    cases hmem
  | some q =>
    obtain ⟨hq, hqid, -, hqactive⟩ := mem_select.1 (List.mem_of_head? hhead)
    rw [h.sound.consistent.active_unique q hq p hp hqactive hactive (hqid.trans hid)]

/-- The texts that a call reads of an active plan with this current step are within the limit. -/
def ReadFits (db : NavigationDb) (p : PlanRow) (r : StepRow) : Prop :=
  overviewLength db p (some r.stepId) ≤ maxExecutionReadChars ∧
    currentLength p r ≤ maxExecutionReadChars

instance (db : NavigationDb) (p : PlanRow) (r : StepRow) : Decidable (ReadFits db p r) :=
  inferInstanceAs (Decidable (_ ∧ _))

theorem LedgerLive.snapshot (h : LedgerLive db) (hp : p ∈ db.plans) (hactive : p.status = .active)
    (ht : newestTask? db (s.call 0) = some t) (hid : t.taskId = p.taskId) {r : StepRow}
    (hr : (stepRows db p).find? (fun r => r.status ≠ .completed) = some r) :
    readExecutionSnapshot db s (some t.taskId) = (do
      ensureWithinLength (overviewLength db p (some r.stepId)) "execution overview"
      ensureWithinLength (currentLength p r) "current step"
      return some ⟨t, some p, some r, dependencyStatusesOf db p r.stepId,
        db.outbox.find? (p.planId, r.stepId)⟩) := by
  have hplan := h.acceptedPlan hp hactive (newestTask?_mem ht).1 hid
  unfold readExecutionSnapshot
  simp only [ht, hplan, hr, Option.any_some, ne_eq, not_true_eq_false, decide_false,
    Bool.false_eq_true, if_false]

def gateAnswer (inventory : Option Bool) (db : NavigationDb) : (op : InvokeOp) → op.Answer
  | .snapshot s taskId => (readExecutionSnapshot db s taskId).toOption
  | .terminalizationSnapshot s planId stepId action =>
    (readClaimTerminalizationSnapshot db s planId stepId action).toOption
  | .calibrationInventory _ => inventory
  | .preconditions _ _ | .stagedStepResult _ _ | .currentStep _ | .store _ _ | .evidence _
  | .arguments _ _ => none
  | .cancelled => false
  | .enter _ _ => ()
  | .result _ _ => .cancelled

/-- What the gate lets through, or what it answers or raises. -/
def gateResult (inventory : Option Bool) (db : NavigationDb) (c : StepCall) :
    Except InvokeError (Except StepResponse (PlanRow × PlanStep × ExecutionSnapshot)) :=
  ((gateStep c).runAlone (gateAnswer inventory) (fun db _ => db) db).1

theorem gateResult_of_error {inventory : Option Bool} {c : StepCall} {e : NavigationError}
    (h : readExecutionSnapshot db c.session (some c.taskId) = .error e) :
    gateResult inventory db c = .error .failed := by
  have hanswer : gateAnswer inventory db (.snapshot c.session (some c.taskId)) = none := by
    simp [gateAnswer, h, Except.toOption]
  change ((gateStep c).runAlone _ _ _).1 = _
  unfold gateStep readSnapshot InvokeOp.perform
  simp only [Prog.bind_eq, Prog.perform_bind, Prog.act_bind, Prog.runAlone, hanswer]
  rfl

def currentCall (s : Session) (t : TaskRow) (p : PlanRow) (r : StepRow) : StepCall :=
  ⟨s, t.taskId, p.planId, r.stepId, r.toolName.name⟩

def GatePasses (db : NavigationDb) (s : Session) (t : TaskRow) (p : PlanRow) (r : StepRow)
    (inventory : Option Bool) : Prop :=
  ∃ step snapshot, gateResult inventory db (currentCall s t p r) = .ok (.ok (p, step, snapshot)) ∧
    step.stepId = r.stepId ∧ step.action = r.toolName ∧ snapshot.current = some r

structure StepAdmitted (db : NavigationDb) (s : Session) (t : TaskRow) (p : PlanRow) (r : StepRow) :
    Prop where
  current : currentLength p r ≤ maxExecutionReadChars → getCurrentStep db p.planId = .ok (some r)
  gate : ReadFits db p r → ∀ inventory,
    (r.toolName.name ∈ calibratedActions → inventory = some false) → GatePasses db s t p r inventory
  uncalibrated : ReadFits db p r → r.toolName.name ∈ calibratedActions →
    gateResult (some true) db (currentCall s t p r) =
      .ok (.error (.error "calibration_source_invalid"))
  unread : ¬ ReadFits db p r → ∀ inventory,
    gateResult inventory db (currentCall s t p r) = .error .failed
  claim : r.status = .pending → ∀ now, ∃ outcome db',
    claimStep (s.call now) p.planId r.stepId r.toolName.name db = .ok (outcome, db') ∧
      (outcome = .claimed ∨
        outcome = .navigationDataBusy ∧ TargetBusy db t p.planId r.stepId)

/-- What passes the checks of the snapshot passes the gate, unless its calibration is refused. -/
theorem gateResult_of_gateSnapshot {inventory : Option Bool} {c : StepCall}
    {snapshot : ExecutionSnapshot} {step : PlanStep}
    (h : readExecutionSnapshot db c.session (some c.taskId) = .ok (some snapshot))
    (hgate : gateSnapshot c snapshot = .ok (p, step)) :
    gateResult inventory db c = if c.action ∈ calibratedActions then
        match inventory with
        | none => .error .failed
        | some true => .ok (.error (.error "calibration_source_invalid"))
        | some false => .ok (.ok (p, step, snapshot))
      else .ok (.ok (p, step, snapshot)) := by
  have hanswer : gateAnswer inventory db (.snapshot c.session (some c.taskId)) =
      some (some snapshot) := by
    simp [gateAnswer, h, Except.toOption]
  change ((gateStep c).runAlone _ _ _).1 = _
  unfold gateStep readSnapshot InvokeOp.perform
  simp only [Prog.bind_eq, Prog.perform_bind, Prog.act_bind, Prog.runAlone, hanswer, orFailed,
    Prog.pure_eq, Prog.done_ok_bind, hgate]
  split
  · rcases inventory with _ | _ | _ <;> rfl
  · rfl

theorem LedgerLive.gateSnapshot (h : LedgerLive db) (hp : p ∈ db.plans)
    (hactive : p.status = .active) (haccepted : validateDependencies p.plan.steps = [])
    (hid : t.taskId = p.taskId) {r : StepRow}
    (hr : (stepRows db p).find? (fun r => r.status ≠ .completed) = some r)
    (staged : Option OutboxRow) : ∃ step, Navigation.gateSnapshot (currentCall s t p r)
        ⟨t, some p, some r, dependencyStatusesOf db p r.stepId, staged⟩ = .ok (p, step) ∧
      step.stepId = r.stepId ∧ step.action = r.toolName := by
  obtain ⟨hmem, hpid, -⟩ := first_open_step h.sound hp hr
  obtain ⟨q, hq, hqid, -, row, hrow, hrowid, hrowaction⟩ := h.sound.consistent.step_plan r hmem
  obtain rfl := eq_of_key hq hp (hqid.trans hpid)
  have hplan : planStep? q r.stepId = some row :=
    hrowid ▸ planStep?_of_row h.sound.consistent hp hrow
  have hdeps := dependencies_completed h.sound hp haccepted hr hrow hrowid
  have hmet : ¬ ∃ d ∈ row.dependsOn,
      (dependencyStatusesOf db q r.stepId).lookup d ≠ some .completed := by
    rintro ⟨d, hd, hne⟩
    exact hne (hdeps d hd)
  refine ⟨row, ?_, hrowid, hrowaction⟩
  unfold Navigation.gateSnapshot currentCall
  simp only [hid, hactive, hplan, hrowaction, hrowid, ne_eq, not_true_eq_false, or_self, if_false,
    Option.all_some, decide_false, Bool.false_eq_true]
  rw [if_neg hmet]

theorem LedgerLive.gate (h : LedgerLive db) (hp : p ∈ db.plans) (hactive : p.status = .active)
    (haccepted : validateDependencies p.plan.steps = [])
    (ht : newestTask? db (s.call 0) = some t) (hid : t.taskId = p.taskId) {r : StepRow}
    (hr : (stepRows db p).find? (fun r => r.status ≠ .completed) = some r)
    (hfits : ReadFits db p r) : ∃ step snapshot,
      (step.stepId = r.stepId ∧ step.action = r.toolName ∧ snapshot.current = some r) ∧
      ∀ inventory, gateResult inventory db (currentCall s t p r) =
        if r.toolName.name ∈ calibratedActions then
          match inventory with
          | none => .error .failed
          | some true => .ok (.error (.error "calibration_source_invalid"))
          | some false => .ok (.ok (p, step, snapshot))
        else .ok (.ok (p, step, snapshot)) := by
  have hread := h.snapshot (s := s) hp hactive ht hid hr
  rw [ensureWithinLength_bind hfits.1, ensureWithinLength_bind hfits.2] at hread
  obtain ⟨step, hgate, hstep⟩ := h.gateSnapshot (s := s) hp hactive haccepted hid hr
    (db.outbox.find? (p.planId, r.stepId))
  exact ⟨step, _, ⟨hstep.1, hstep.2, rfl⟩, fun inventory => gateResult_of_gateSnapshot hread hgate⟩

/-- A text that is too long is not read. -/
theorem LedgerLive.unread (h : LedgerLive db) (hp : p ∈ db.plans) (hactive : p.status = .active)
    (ht : newestTask? db (s.call 0) = some t) (hid : t.taskId = p.taskId) {r : StepRow}
    (hr : (stepRows db p).find? (fun r => r.status ≠ .completed) = some r)
    (hfits : ¬ ReadFits db p r) (inventory : Option Bool) :
    gateResult inventory db (currentCall s t p r) = .error .failed := by
  have hread := h.snapshot (s := s) hp hactive ht hid hr
  cases hsnapshot : readExecutionSnapshot db s (some t.taskId) with
  | error e => exact gateResult_of_error hsnapshot
  | ok snapshot =>
    rw [hsnapshot] at hread
    obtain ⟨_, hoverview, hread⟩ := bind_eq_ok.1 hread.symm
    obtain ⟨_, hcurrent, -⟩ := bind_eq_ok.1 hread
    exact absurd ⟨ensureWithinLength_eq_ok.1 hoverview, ensureWithinLength_eq_ok.1 hcurrent⟩ hfits

theorem LedgerLive.claim (h : LedgerLive db) (hp : p ∈ db.plans) (hactive : p.status = .active)
    (ht : newestTask? db (s.call 0) = some t) (hid : t.taskId = p.taskId) {r : StepRow}
    (hmem : r ∈ db.steps) (hpid : r.planId = p.planId) (hpending : r.status = .pending)
    (now : Timestamp) : ∃ outcome db',
      claimStep (s.call now) p.planId r.stepId r.toolName.name db = .ok (outcome, db') ∧
        (outcome = .claimed ∨
          outcome = .navigationDataBusy ∧ TargetBusy db t p.planId r.stepId) := by
  obtain ⟨htask, howns⟩ := newestTask?_mem ht
  have howns : (s.call now).Owns t := howns
  have hnewest : newestTask? db (s.call now) = some t := ht
  have hplan : db.plans.find? p.planId = some p := find?_eq_some_iff.2 ⟨hp, rfl⟩
  have htaskid : db.tasks.find? p.taskId = some t := find?_eq_some_iff.2 ⟨htask, hid⟩
  have hcurrent : (newestTask? db (s.call now)).map (·.taskId) = some p.taskId := by
    rw [hnewest]
    exact congrArg some hid
  have hauth : authorizePlanWrite db p.planId (s.call now) = .ok () := by
    unfold authorizePlanWrite authorizeNavigationTaskWrite
    simp only [hplan, htaskid]
    exact bind_eq_ok.2 ⟨(), raiseIf_eq_ok.2 (not_not.2 howns), raiseIf_eq_ok.2 (not_not.2 hcurrent)⟩
  obtain ⟨q, hq, hqid, hqtask, row, hrow, hrowid, hrowaction⟩ := h.sound.consistent.step_plan r hmem
  obtain rfl := eq_of_key hq hp (hqid.trans hpid)
  have hjoins : StepView.Joins ⟨r, q, t⟩ db q.planId r.stepId :=
    ⟨hmem, hp, htask, hpid, rfl, rfl, hid.trans hqtask⟩
  have hcandidate : claimCandidate? db q.planId r.stepId r.toolName.name = some ⟨r, q, t⟩ := by
    refine Option.filter_eq_some_iff.2 ⟨stepView?_eq_some_iff.2 hjoins, decide_eq_true ⟨rfl, ?_⟩⟩
    exact ⟨row, List.mem_of_getElem? hrow, hrowid, congrArg StepAction.name hrowaction⟩
  have hcount : db.steps.rowcount (fun x => x.At q.planId r.stepId r.toolName.name .pending ∧
      ActivePlanOwned db x.planId (s.call now)) = 1 := by
    refine (rowcount_eq_one_iff (k := (q.planId, r.stepId)) fun x _ hx =>
      Prod.ext hx.1.1 hx.1.2.1).2 ⟨r, hmem, ⟨hpid, rfl, rfl, hpending⟩, ?_⟩
    rw [hpid]
    exact ⟨q, hp, rfl, hactive, t, htask, hid, howns⟩
  unfold claimStep
  rw [hauth, hcandidate]
  simp only [hpending, hactive, ne_eq, not_true_eq_false, or_self, if_false]
  split_ifs with hbusy
  · exact ⟨_, _, rfl, .inr ⟨rfl, hbusy.2.2⟩⟩
  · exact ⟨_, _, rfl, .inl rfl⟩

end Gate

/--
An active plan whose dependencies were accepted is never stuck: it has a current step, the gate
lets the owner of the task through with it when what it reads is within the limit and the
calibration is not refused, and while it is pending the claim succeeds, unless another plan
writes the same target.
-/
theorem accepted_plan_never_blocks {l : List (Transition NavigationDb Event)} {db : NavigationDb}
    (h : Run Step .initial l db) (hphase : ∀ x ∈ l, x.label.1.KeepsAcceptedPhase) {p : PlanRow}
    (hp : p ∈ db.plans) (hactive : p.status = .active)
    (haccepted : validateDependencies p.plan.steps = []) {s : Session} {t : TaskRow}
    (ht : newestTask? db (s.call 0) = some t) (hid : t.taskId = p.taskId) :
    ∃ r, (stepRows db p).find? (fun r => r.status ≠ .completed) = some r ∧
      StepAdmitted db s t p r := by
  have hlive := LedgerLive.of_run h hphase
  obtain ⟨r, hr⟩ := hlive.exists_current hp hactive
  obtain ⟨hmem, hpid, -⟩ := first_open_step hlive.sound hp hr
  refine ⟨r, hr, fun hfits => ?_, fun hfits inventory hinventory => ?_, fun hfits hcalibrated => ?_,
    hlive.unread hp hactive ht hid hr, hlive.claim hp hactive ht hid hmem hpid⟩
  · have hplan : db.plans.find? p.planId = some p := find?_eq_some_iff.2 ⟨hp, rfl⟩
    unfold getCurrentStep
    simp only [hplan, hr]
    exact ensureWithinLength_bind hfits
  · obtain ⟨step, snapshot, hstep, hgate⟩ := hlive.gate (s := s) hp hactive haccepted
      ht hid hr hfits
    refine ⟨step, snapshot, ?_, hstep⟩
    rw [hgate]
    split
    · next hcalibrated => rw [hinventory hcalibrated]
    · rfl
  · obtain ⟨step, snapshot, -, hgate⟩ := hlive.gate (s := s) hp hactive haccepted ht hid hr hfits
    rw [hgate, if_pos hcalibrated]

namespace DependentSample

/-- The annotation waits for the calibration. -/
def plan : PlanInput where
  decisions := .finishProcessing Sample.decisions
  steps := [Sample.confirmStep, { Sample.trackStep with dependsOn := ["confirm"] }]
  steps_ne := List.cons_ne_nil _ _
  steps_phase := List.forall_mem_cons.2 ⟨rfl, List.forall_mem_cons.2 ⟨rfl, List.forall_mem_nil _⟩⟩

/-- The plan is activated, and its first step is completed. -/
def requests : List Op :=
  [.createTaskAttempt 0 (Sample.attempt "a" "web-a" "agent-a"),
    .activate (Sample.alice 1) { Sample.activation "p" "a" with plan := plan }] ++
    runStep (Sample.alice 2) "confirm" "confirm_navigation_calibration_params"

def database : NavigationDb := stores.final .initial requests

def alice : Session := ⟨some "web-a", some "agent-a"⟩

/-- The calibration is confirmed, so that the annotation passes the gate. -/
theorem accepted_plan_never_blocks_confirmed : ∃ t p r,
    r.stepId = "track" ∧ getCurrentStep database "p" = .ok (some r) ∧
      GatePasses database alice t p r none ∧ StepAdmitted database alice t p r := by
  have hplan : ∃ p ∈ database.plans, (p.planId = "p" ∧ p.taskId = "a") ∧ p.status = .active ∧
      validateDependencies p.plan.steps = [] ∧ ∃ r ∈ database.steps,
        (stepRows database p).find? (fun r => r.status ≠ .completed) = some r ∧
          (r.stepId = "track" ∧ r.toolName.name ∉ calibratedActions) ∧ ReadFits database p r := by
    decide +kernel
  obtain ⟨p, hp, ⟨hpid, hptask⟩, hactive, haccepted, r, -, hr, ⟨hrid, hplain⟩, hfits⟩ := hplan
  have htask : (newestTask? database (alice.call 0)).map TaskRow.taskId = some "a" := by
    decide +kernel
  obtain ⟨t, ht, htid⟩ := Option.map_eq_some_iff.1 htask
  have hrun : Run Step .initial (stores.serve .initial requests) database := stores.serve_run _ _
  obtain ⟨r', hr', hadmitted⟩ := accepted_plan_never_blocks hrun (by decide) hp hactive haccepted ht
    (htid.trans hptask.symm)
  obtain rfl := Option.some.inj (hr'.symm.trans hr)
  exact ⟨t, p, r', hrid, hpid ▸ hadmitted.current hfits.2,
    hadmitted.gate hfits none fun h => absurd h hplain, hadmitted⟩

end DependentSample

end DataJuicer.Navigation

import DataJuicer.Navigation.PlanLifeCycle
import DataJuicer.Navigation.StepInvocation

/-! # Steps that are ready

A step is ready when the steps before it and its dependencies are completed. No request makes it
unready, and no request makes a step pending again.
-/

namespace DataJuicer.Navigation

open Table Transaction

/-- The rows of a database belong together, and a step has the revision of its plan. -/
structure LedgerSound (db : NavigationDb) : Prop where
  consistent : Consistent db
  revision : ∀ s ∈ db.steps, ∀ p ∈ db.plans, p.planId = s.planId → s.planRevision = p.planRevision

def StepDone (db : NavigationDb) (planId stepId : String) : Prop :=
  ∃ s ∈ db.steps, s.Is planId stepId ∧ s.status = .completed

def StepReady (db : NavigationDb) (planId stepId : String) : Prop :=
  (∃ r ∈ db.steps, r.Is planId stepId ∧ ∀ s ∈ db.steps, s.planId = planId →
    s.sequence < r.sequence → s.status = .completed) ∧
  ∃ p ∈ db.plans, p.planId = planId ∧ ∃ row ∈ p.plan.steps, row.stepId = stepId ∧
    ∀ d ∈ row.dependsOn, StepDone db planId d

/-- The step is there, and nothing claims it any more. -/
def StepTaken (db : NavigationDb) (planId stepId : String) : Prop :=
  ∃ s ∈ db.steps, s.Is planId stepId ∧ s.status ≠ .pending

def StepOpen (db : NavigationDb) (planId stepId : String) : Prop :=
  ∃ s ∈ db.steps, s.Is planId stepId ∧ s.status = .pending ∧
    ∃ p ∈ db.plans, p.planId = planId ∧ p.status = .active

section Commits

variable {db db' : NavigationDb} {op : Op} {planId stepId : String}

theorem StepOpen.not_taken (h : StepOpen db planId stepId) : ¬ StepTaken db planId stepId := by
  rintro ⟨s', hs', hid', hst'⟩
  obtain ⟨s, hs, hid, hst, -⟩ := h
  have hkey : key s' = key s := Prod.ext (hid'.1.trans hid.1.symm) (hid'.2.trans hid.2.symm)
  obtain rfl := eq_of_key hs' hs hkey
  exact hst' hst

theorem StepWrite.ne_pending {s : StepRow} {st : StepStatus} (h : StepWrite db op s st) :
    st ≠ .pending := by
  cases h with
  | @finished _ _ _ _ _ staged => cases htarget : staged.targetStatus <;> exact fun h => nomatch h
  | _ => exact fun h => nomatch h

theorem StepTaken.commit (h : StepTaken db planId stepId) (hcommit : Commits db op db') :
    StepTaken db' planId stepId := by
  obtain ⟨s, hs, hid, hst⟩ := h
  obtain ⟨s', hs', hsame, hmove⟩ := hcommit.ledger.rowsMove.step_post hs
  refine ⟨s', hs', ⟨hsame.planId.trans hid.1, hsame.stepId.trans hid.2⟩, ?_⟩
  rcases hmove with heq | hw
  · rw [heq]
    exact hst
  · exact hw.ne_pending

theorem StepMove.completed (hc : Consistent db) {s s' : StepRow} (h : StepMove db op s s')
    (hst : s.status = .completed) : s'.status = .completed := by
  rcases h.2 with heq | hw
  · exact heq.trans hst
  · exact absurd hst (hw.not_completed hc)

theorem StepDone.commit (hc : Consistent db) (h : StepDone db planId stepId)
    (hcommit : Commits db op db') : StepDone db' planId stepId := by
  obtain ⟨s, hs, hid, hst⟩ := h
  obtain ⟨s', hs', hmove⟩ := hcommit.ledger.rowsMove.step_post hs
  exact ⟨s', hs', ⟨hmove.1.planId.trans hid.1, hmove.1.stepId.trans hid.2⟩,
    hmove.completed hc hst⟩

theorem Commits.step_of_plan (hcommit : Commits db op db') {p : PlanRow} (hp : p ∈ db.plans)
    {s' : StepRow} (hs' : s' ∈ db'.steps) (hid : s'.planId = p.planId) :
    ∃ s ∈ db.steps, StepMove db op s s' := by
  rcases hcommit.ledger.rowsMove.step_pre hs' with hs | ⟨record, -, ha, i, row, -, rfl⟩
  · exact hs
  · cases ha with
    | intro _ _ _ _ hrecord hnew =>
      have hplan : (ledgerRow record row i).planId = record.planId := rfl
      rw [hplan, hrecord] at hid
      exact absurd hid.symm (hnew p hp)

theorem StepReady.commit (hc : Consistent db) (h : StepReady db planId stepId)
    (hcommit : Commits db op db') : StepReady db' planId stepId := by
  obtain ⟨⟨r, hr, hid, hbefore⟩, p, hp, hpid, row, hrow, hrid, hdeps⟩ := h
  obtain ⟨r', hr', hrsame, -⟩ := hcommit.ledger.rowsMove.step_post hr
  obtain ⟨p', hp', hpsame, -⟩ := hc.plan_stays hcommit hp
  constructor
  · refine ⟨r', hr', ⟨hrsame.planId.trans hid.1, hrsame.stepId.trans hid.2⟩, ?_⟩
    intro s' hs' hsid hlt
    obtain ⟨s, hs, hmove⟩ := hcommit.step_of_plan hp hs' (hsid.trans hpid.symm)
    rw [hmove.1.sequence, hrsame.sequence] at hlt
    exact hmove.completed hc (hbefore s hs (hmove.1.planId.symm.trans hsid) hlt)
  · refine ⟨p', hp', hpsame.planId.trans hpid, row, ?_, hrid, fun d hd => ?_⟩
    · rw [hpsame.plan]
      exact hrow
    · exact (hdeps d hd).commit hc hcommit

theorem LedgerSound.perform (h : LedgerSound db) {r : Reply}
    (hperform : Navigation.perform op db = .ok (r, db')) : LedgerSound db' := by
  have hrows := (perform_commits hperform).ledger.rowsMove
  refine ⟨h.consistent.perform hperform, fun s' hs' p' hp' hid => ?_⟩
  rcases hrows.step_pre hs' with ⟨s, hs, hsame, -⟩ | ⟨record, hrecord, -, i, row, -, rfl⟩
  · obtain ⟨p, hp, hpid, -⟩ := h.consistent.step_plan s hs
    have hpsame := (hrows.plan_of_key hp hp' (hid.trans (hsame.planId.trans hpid.symm))).1
    rw [hsame.planRevision, hpsame.planRevision]
    exact h.revision s hs p hp hpid
  · obtain rfl := eq_of_key hp' hrecord hid
    rfl

theorem LedgerSound.initial : LedgerSound .initial :=
  ⟨Consistent.initial, fun _ hs => absurd hs (not_mem_empty _)⟩

end Commits

section Execute

variable {db : NavigationDb} {planId stepId : String}

theorem execute_ok {op : Op} {reply : Reply} (h : (execute op db).1 = .ok reply) :
    perform op db = .ok (reply, (execute op db).2) := by
  obtain ⟨db', hperform⟩ := perform_of_execute h
  unfold Navigation.execute
  rw [hperform]

theorem execute_cases (op : Op) (db : NavigationDb) :
    (execute op db).2 = db ∨ ∃ r, perform op db = .ok (r, (execute op db).2) := by
  rcases execute_eq.1 (Prod.ext rfl rfl : execute op db = (_, _)) with ⟨r, h, -⟩ | ⟨_, -, -, h⟩
  · exact .inr ⟨r, h⟩
  · exact .inl h

theorem LedgerSound.execute (h : LedgerSound db) (op : Op) : LedgerSound (execute op db).2 := by
  rcases execute_cases op db with heq | ⟨r, hr⟩
  · rw [heq]
    exact h
  · exact h.perform hr

theorem StepTaken.execute (h : StepTaken db planId stepId) (op : Op) :
    StepTaken (execute op db).2 planId stepId := by
  rcases execute_cases op db with heq | ⟨r, hr⟩
  · rw [heq]
    exact h
  · exact h.commit (perform_commits hr)

theorem StepReady.execute (hc : Consistent db) (h : StepReady db planId stepId) (op : Op) :
    StepReady (execute op db).2 planId stepId := by
  rcases execute_cases op db with heq | ⟨r, hr⟩
  · rw [heq]
    exact h
  · exact h.commit hc (perform_commits hr)

theorem claimStep_claimed {call : Call} {action : String} {db' : NavigationDb}
    (h : claimStep call planId stepId action db = .ok (.claimed, db')) :
    StepOpen db planId stepId ∧ StepTaken db' planId stepId := by
  unfold claimStep at h
  cases hauth : authorizePlanWrite db planId call with
  | error e =>
    rw [hauth] at h
    cases e <;> cases h
  | ok =>
    rw [hauth] at h
    cases hview : claimCandidate? db planId stepId action with
    | none =>
      rw [hview] at h
      cases h
    | some v =>
      rw [hview] at h
      dsimp only at h
      split_ifs at h with hpending hbusy hcount
      · cases h
      · cases h
      · cases h
        obtain ⟨s, hs, hat, hown⟩ := pending_of_rowcount hcount
        have hclaims : s.At planId stepId action .pending ∧ ActivePlanOwned db s.planId call := by
          rw [hat.1]
          exact ⟨hat, hown⟩
        obtain ⟨p, hp, hpid, hactive, -⟩ := hown
        constructor
        · exact ⟨s, hs, ⟨hat.1, hat.2.1⟩, hat.2.2.2, p, hp, hpid, hactive⟩
        · refine ⟨_, List.mem_map.2 ⟨s, hs, if_pos hclaims⟩, ⟨hat.1, hat.2.1⟩, ?_⟩
          intro h
          cases h
      · cases h

theorem execute_claimed {call : Call} {action : String}
    (h : (execute (.claimStep call planId stepId action) db).1.map Reply.answer =
      .ok (.claim .claimed)) :
    StepOpen db planId stepId ∧
      StepTaken (execute (.claimStep call planId stepId action) db).2 planId stepId := by
  cases hreply : (execute (.claimStep call planId stepId action) db).1 with
  | error e =>
    rw [hreply] at h
    cases h
  | ok r =>
    rw [hreply] at h
    obtain ⟨outcome, hclaim, rfl⟩ := answer_eq_ok.1 (execute_ok hreply)
    obtain rfl : outcome = .claimed := by simpa [Except.map, Reply.answer] using h
    exact claimStep_claimed hclaim

end Execute

section Gate

variable {db : NavigationDb} {plan : PlanRow} {step : PlanStep} {snapshot : ExecutionSnapshot}

theorem mem_stepRows {r : StepRow} : r ∈ stepRows db plan ↔
    r ∈ db.steps ∧ r.planId = plan.planId ∧ r.planRevision = plan.planRevision := by
  unfold stepRows
  rw [List.mem_insertionSort, mem_select]

theorem first_open_step (h : LedgerSound db) (hplan : plan ∈ db.plans) {r : StepRow}
    (hr : (stepRows db plan).find? (fun r => r.status ≠ .completed) = some r) :
    r ∈ db.steps ∧ r.planId = plan.planId ∧ ∀ s ∈ db.steps, s.planId = plan.planId →
      s.sequence < r.sequence → s.status = .completed := by
  obtain ⟨hr₁, hr₂, -⟩ := mem_stepRows.1 (List.mem_of_find?_eq_some hr)
  refine ⟨hr₁, hr₂, fun s hs hid hlt => ?_⟩
  obtain ⟨-, before, after, hrows, hbefore⟩ := List.find?_eq_some_iff_append.1 hr
  have hmem : s ∈ before ++ r :: after := by
    rw [← hrows]
    exact mem_stepRows.2 ⟨hs, hid, h.revision s hs plan hplan hid.symm⟩
  have hsorted : (before ++ r :: after).Pairwise fun a b => a.sequence ≤ b.sequence := by
    rw [← hrows]
    exact List.pairwise_insertionSort _ _
  rcases List.mem_append.1 hmem with hs | hs
  · simpa using hbefore s hs
  · rcases List.mem_cons.1 hs with rfl | hs
    · exact absurd hlt (lt_irrefl _)
    · have hle := (List.pairwise_cons.1 (List.pairwise_append.1 hsorted).2.1).1 s hs
      exact absurd hlt (Nat.not_lt.2 hle)

theorem stepDone_of_lookup {stepId d : String}
    (h : (dependencyStatusesOf db plan stepId).lookup d = some .completed) :
    StepDone db plan.planId d := by
  obtain ⟨before, after, hrows, -⟩ := List.lookup_eq_some_iff.1 h
  have hmem : (d, StepStatus.completed) ∈ dependencyStatusesOf db plan stepId := by
    rw [hrows]
    exact List.mem_append_right _ List.mem_cons_self
  obtain ⟨s, hs, hpair⟩ := List.mem_map.1 hmem
  obtain ⟨hid, hst⟩ := Prod.mk.inj hpair
  obtain ⟨hs, hplan, -⟩ := mem_select.1 hs
  exact ⟨s, hs, ⟨hplan, hid⟩, hst⟩

@[simp] theorem ensureWithinLength_eq_ok {length : ℕ} {label : String} {x : Unit} :
    ensureWithinLength length label = .ok x ↔ length ≤ maxExecutionReadChars :=
  raiseIf_eq_ok.trans not_lt

theorem ensureWithinLength_bind {α : Type} {length : ℕ} {label : String}
    {f : Unit → Except NavigationError α} (h : length ≤ maxExecutionReadChars) :
    (ensureWithinLength length label >>= f) = f () := by
  have hok : ensureWithinLength length label = .ok () := ensureWithinLength_eq_ok.2 h
  rw [hok]
  rfl

theorem readExecutionSnapshot_current {s : Session} {taskId : Option String} {r : StepRow}
    (h : readExecutionSnapshot db s taskId = .ok (some snapshot))
    (hplan : snapshot.activePlan = some plan)
    (hcurrent : snapshot.current = some r) : plan ∈ db.plans ∧
      (stepRows db plan).find? (fun r => r.status ≠ .completed) = some r ∧
      snapshot.dependencyStatuses = dependencyStatusesOf db plan r.stepId := by
  unfold readExecutionSnapshot at h
  split at h
  · cases h
  · split_ifs at h
    · cases h
    split at h
    · obtain rfl := Option.some.inj (Except.ok.inj h)
      cases hplan
    · next p hp =>
      have hmem := (mem_select.1 (List.mem_of_head? hp)).1
      split at h
      · obtain ⟨_, -, h⟩ := bind_eq_ok.1 h
        obtain rfl := Option.some.inj (Except.ok.inj h)
        cases hcurrent
      · next r' hr' =>
        obtain ⟨_, -, h⟩ := bind_eq_ok.1 h
        obtain ⟨_, -, h⟩ := bind_eq_ok.1 h
        obtain rfl := Option.some.inj (Except.ok.inj h)
        obtain rfl := Option.some.inj hplan
        obtain rfl := Option.some.inj hcurrent
        exact ⟨hmem, hr', rfl⟩

/-- What the checks of a snapshot let through. -/
structure GatePassed (c : StepCall) (snapshot : ExecutionSnapshot) (plan : PlanRow)
    (step : PlanStep) : Prop where
  active_plan : snapshot.activePlan = some plan
  plan_id : plan.planId = c.planId
  step_mem : step ∈ plan.plan.steps
  step_id : step.stepId = c.stepId
  current : ∃ r, snapshot.current = some r ∧ r.stepId = c.stepId
  dependencies : ∀ d ∈ step.dependsOn, snapshot.dependencyStatuses.lookup d = some .completed

theorem gatePassed {c : StepCall} (h : gateSnapshot c snapshot = .ok (plan, step)) :
    GatePassed c snapshot plan step := by
  unfold gateSnapshot at h
  split at h
  · cases h
  · next p hp =>
    split_ifs at h with hactive
    split at h
    · cases h
    · next st hst =>
      split_ifs at h with haction hcurrent hdeps
      obtain ⟨rfl, rfl⟩ := Prod.mk.inj (Except.ok.inj h)
      have hid : st.stepId = c.stepId := by simpa using List.find?_some hst
      simp only [ne_eq, not_or, not_not] at hactive
      refine ⟨hp, hactive.1, List.mem_of_find?_eq_some hst, hid, ?_, ?_⟩
      · cases hr : snapshot.current with
        | none => simp [hr] at hcurrent
        | some r =>
          refine ⟨r, rfl, ?_⟩
          rw [hr] at hcurrent
          simpa [hid] using hcurrent
      · intro d hd
        by_contra hne
        exact hdeps ⟨d, hd, hne⟩

theorem stepReady_of_gate (hsound : LedgerSound db) {s : Session} {taskId : Option String}
    {c : StepCall} (h : readExecutionSnapshot db s taskId = .ok (some snapshot))
    (hgate : gateSnapshot c snapshot = .ok (plan, step)) : StepReady db c.planId c.stepId := by
  have hpassed := gatePassed hgate
  obtain ⟨r, hcurrent, hrid⟩ := hpassed.current
  obtain ⟨hplan, hfirst, hstatuses⟩ := readExecutionSnapshot_current h hpassed.active_plan hcurrent
  obtain ⟨hr, hpid, hbefore⟩ := first_open_step hsound hplan hfirst
  rw [hpassed.plan_id] at hpid hbefore
  refine ⟨⟨r, hr, ⟨hpid, hrid⟩, hbefore⟩, plan, hplan, hpassed.plan_id, step, hpassed.step_mem,
    hpassed.step_id, fun d hd => ?_⟩
  have hlookup := hpassed.dependencies d hd
  rw [hstatuses] at hlookup
  rw [← hpassed.plan_id]
  exact stepDone_of_lookup hlookup

theorem stagedResult_of_terminalization {s : Session} {planId stepId action : String}
    (h : readClaimTerminalizationSnapshot db s planId stepId action = .ok (some snapshot)) :
    snapshot.stagedResult.isSome = true := by
  have h : terminalizationSnapshot? db s planId stepId action = some snapshot := by
    unfold readClaimTerminalizationSnapshot at h
    split at h
    · next hfound =>
      obtain ⟨_, -, h⟩ := bind_eq_ok.1 h
      obtain ⟨_, -, h⟩ := bind_eq_ok.1 h
      rw [hfound, Option.some.inj (Except.ok.inj h)]
    · cases h
  obtain ⟨-, h⟩ := Option.ite_none_left_eq_some.1 h
  obtain ⟨r, -, h⟩ := Option.bind_eq_some_iff.1 h
  obtain ⟨p, -, h⟩ := Option.bind_eq_some_iff.1 h
  obtain ⟨t, -, h⟩ := Option.bind_eq_some_iff.1 h
  obtain ⟨o, -, h⟩ := Option.bind_eq_some_iff.1 h
  obtain ⟨-, h⟩ := Option.ite_none_right_eq_some.1 h
  obtain ⟨claimed, -, h⟩ := Option.bind_eq_some_iff.1 h
  obtain ⟨-, h⟩ := Option.ite_none_right_eq_some.1 h
  obtain rfl := Option.some.inj h
  rfl

end Gate

end DataJuicer.Navigation

import DataJuicer.Annotation.RunEffects

/-! # The steps of the system have effects

A step of the system is a run of effects on the workflow: one effect, or one for each run
that a recovery fails. The rules at the end turn what each effect keeps into what each run of
the system keeps.
-/

namespace DataJuicer.Annotation

open Transaction

variable {now : Timestamp} {db db' : Database}

structure RunningRows (w : Workflow) (rows : List RunRow) : Prop where
  running : ∀ r ∈ rows, r ∈ w.runs ∧ r.status = .running
  distinct : (rows.map RunRow.runRef).Nodup

theorem interruptedRuns_running (now : Timestamp) (epoch : Option String) (w : Workflow) :
    RunningRows w (interruptedRuns now epoch w) := by
  constructor
  · intro r hr
    obtain ⟨hmem, hrunning, -⟩ := Table.mem_select.1 hr
    exact ⟨hmem, hrunning⟩
  · exact w.runs.nodup_keys.sublist (List.filter_sublist.map _)

theorem failAll_effects {d : RecoveryRefs} {rows : List RunRow}
    (hrows : RunningRows db.toWorkflow rows) (h : failAll now d rows db = .ok db') :
    (∃ l, Run (Effect now) db.toWorkflow l db'.toWorkflow ∧
      ∀ x ∈ l, ∃ r ∈ rows, x.label = .stop (interruption r.runRef)) ∧ db'.audit = db.audit := by
  induction rows generalizing db with
  | nil =>
    obtain rfl := Except.ok.inj h
    exact ⟨⟨[], .nil _, by simp⟩, rfl⟩
  | cons r rest ih =>
    obtain ⟨hrunning, hdistinct⟩ := hrows
    obtain ⟨hfresh, hrest⟩ := List.nodup_cons.1 hdistinct
    obtain ⟨hmem, hstatus⟩ := hrunning r List.mem_cons_self
    obtain ⟨db₁, hone, h⟩ := bind_eq_ok.1 h
    obtain ⟨heffect, haudit₁, honly⟩ :=
      failRunConn_effect (a := .stop (interruption r.runRef)) hone fun r' hr' href => by
        obtain rfl : r' = r := Table.eq_of_key hr' hmem href
        exact .inr ⟨rfl, hstatus⟩
    have hrunning' : RunningRows db₁.toWorkflow rest := by
      refine ⟨fun r' hr' => ?_, hrest⟩
      obtain ⟨hmem', hstatus'⟩ := hrunning r' (List.mem_cons_of_mem _ hr')
      have hne : r'.runRef ≠ r.runRef := fun he => hfresh (he ▸ List.mem_map_of_mem hr')
      exact ⟨(honly r' hne).2 hmem', hstatus'⟩
    obtain ⟨⟨l, hrun, hlabels⟩, haudit₂⟩ := ih hrunning' h
    refine ⟨⟨_, (Run.single heffect).append hrun, fun x hx => ?_⟩, haudit₂.trans haudit₁⟩
    rcases List.mem_append.1 hx with hx | hx
    · obtain rfl := List.mem_singleton.1 hx
      exact ⟨r, List.mem_cons_self, rfl⟩
    · obtain ⟨r', hr', hlabel⟩ := hlabels x hx
      exact ⟨r', List.mem_cons_of_mem _ hr', hlabel⟩

theorem recoverRuns_effects {coordinated : Bool} {d : RecoveryRefs} {rows : List RunRow}
    {s : Store} (hrows : RunningRows s.db.toWorkflow rows) :
    (∃ l, Run (Effect now) s.db.toWorkflow l
        (recoverRuns now coordinated d rows s).2.db.toWorkflow ∧
      ∀ x ∈ l, ∃ r ∈ rows, x.label = .stop (interruption r.runRef)) ∧
        (recoverRuns now coordinated d rows s).2.db.audit = s.db.audit := by
  unfold recoverRuns
  cases coordinated with
  | false => exact ⟨⟨[], .nil _, by simp⟩, rfl⟩
  | true =>
    dsimp only
    rw [if_pos rfl]
    cases hall : failAll now d rows s.db with
    | error e => exact ⟨⟨[], .nil _, by simp⟩, rfl⟩
    | ok db =>
      exact failAll_effects hrows hall

theorem noneInterrupted_of {epoch : Option String} {w : Workflow}
    (h : interruptedRuns now epoch w = []) : NoneInterrupted now epoch w := by
  intro r hr hrunning hlost
  have hmem : r ∈ interruptedRuns now epoch w := Table.mem_select.2 ⟨hr, hrunning, hlost⟩
  rw [h] at hmem
  cases hmem

theorem startable_startsIn {r : RunRow} {j : JobRow} (h : Startable db r j) :
    r.kind.StartsIn j.status := by
  unfold Startable at h
  unfold RunKind.StartsIn
  cases hk : r.kind with
  | prepare | tracking | postprocessing => simpa [hk] using h
  | fix | compatibilityPublish =>
    rw [hk] at h
    exact h.1

/-- A claim that hands out no run drops leases, and one that does has its run running. -/
theorem claimQueued_effect {c : Claim} {x : Option ClaimedRun × Database}
    (h : claimQueued now c db = .ok x) (hnone : NoneInterrupted now c.ownerEpoch db.toWorkflow)
    (hquarantine : ¬ HasRecoveryQuarantine db.toWorkflow) :
    Effect now db.toWorkflow .other x.2.toWorkflow ∧ x.2.audit = db.audit := by
  have hexpired : Effect now db.toWorkflow .other (dropExpiredLeases now db).toWorkflow :=
    .leasesExpired hnone
  unfold claimQueued at h
  dsimp only at h
  split at h
  next =>
    obtain rfl := Except.ok.inj h
    exact ⟨hexpired, rfl⟩
  next r hr =>
    split at h
    next =>
      obtain rfl := Except.ok.inj h
      exact ⟨hexpired, rfl⟩
    next =>
      obtain ⟨hmem, hqueued, j, hj, href, hstart⟩ :=
        Table.mem_select.1 (List.argmin_mem (f := RunRow.createdAt) hr)
      obtain ⟨job, -, h⟩ := bind_eq_ok.1 h
      obtain ⟨leases, hlease, h⟩ := bind_eq_ok.1 h
      obtain ⟨db₁, hstarted, h⟩ := bind_eq_ok.1 h
      obtain rfl := Except.ok.inj h
      have hrun : RunOf db.toWorkflow r j := ⟨hmem, hj, href⟩
      have hstarts := startable_startsIn hstart
      have hinsert := orRaise_eq_ok.1 hlease
      unfold startPublication at hstarted
      split at hstarted
      next hkind =>
        obtain ⟨link, -, hstarted⟩ := bind_eq_ok.1 hstarted
        obtain rfl := Except.ok.inj hstarted
        exact ⟨.claimed hrun hqueued hstarts hnone hquarantine rfl rfl hinsert
          (.inr ⟨hkind, link.publicationRef, rfl⟩), rfl⟩
      next =>
        obtain rfl := Except.ok.inj hstarted
        exact ⟨.claimed hrun hqueued hstarts hnone hquarantine rfl rfl hinsert (.inl rfl), rfl⟩

theorem claimNextRun_effects (now : Timestamp) (c : Claim) (d : RecoveryRefs) (s : Store) :
    (Effect now s.db.toWorkflow .other (claimNextRun now c d s).2.db.toWorkflow ∨
      ∃ l, Run (Effect now) s.db.toWorkflow l (claimNextRun now c d s).2.db.toWorkflow ∧
        ∀ x ∈ l, ∃ r ∈ interruptedRuns now c.ownerEpoch s.db.toWorkflow,
          x.label = .stop (interruption r.runRef)) ∧
          (claimNextRun now c d s).2.db.audit = s.db.audit := by
  unfold claimNextRun
  cases hrows : interruptedRuns now c.ownerEpoch s.db.toWorkflow with
  | cons r rest =>
    have hrunning := interruptedRuns_running now c.ownerEpoch s.db.toWorkflow
    rw [hrows] at hrunning
    obtain ⟨heffects, haudit⟩ := recoverRuns_effects hrunning
    exact ⟨.inr heffects, haudit⟩
  | nil =>
    dsimp only
    split
    next => exact ⟨.inl (.same _ _), rfl⟩
    next hquarantine =>
      cases hclaim : claimQueued now c s.db with
      | error e => exact ⟨.inl (.same _ _), rfl⟩
      | ok x =>
        obtain ⟨heffect, haudit⟩ := claimQueued_effect hclaim (noneInterrupted_of hrows)
          fun hq => hquarantine (.inl hq)
        exact ⟨.inl heffect, haudit⟩

theorem recoverInterruptedRuns_effects (now : Timestamp) (epoch : Option String)
    (coordinated : Bool) (d : RecoveryRefs) (s : Store) :
    (∃ l, Run (Effect now) s.db.toWorkflow l
        (recoverInterruptedRuns now epoch coordinated d s).2.db.toWorkflow ∧
      ∀ x ∈ l, ∃ r ∈ interruptedRuns now epoch s.db.toWorkflow,
        x.label = .stop (interruption r.runRef)) ∧
        (recoverInterruptedRuns now epoch coordinated d s).2.db.audit = s.db.audit := by
  unfold recoverInterruptedRuns
  cases hrows : interruptedRuns now epoch s.db.toWorkflow with
  | nil => exact ⟨⟨[], .nil _, by simp⟩, rfl⟩
  | cons r rest =>
    have hrunning := interruptedRuns_running now epoch s.db.toWorkflow
    rw [hrows] at hrunning
    exact recoverRuns_effects hrunning

/-- The confirmation is not a replay and gets past its guards. -/
structure ConfirmAccepted (s : System) (n : ℕ) (q : ConfirmRequest) : Prop where
  locked : s.calls n = some (.confirmLocked q [])
  fresh : s.store.db.operatorActions.find? q.idempotencyKey = none
  job : ∃ j failureRef, expectedJob s.workflow q.jobRef q.expectedJobRevision = .ok j ∧
    j.Quarantined ∧ j.failureRef = some failureRef ∧
      GlobalConfirmation s.store.db q.globalQuarantineActionRef failureRef
  idle : Idle s.workflow q.jobRef

inductive Event.Makes (s : System) : Event → Change → Prop
  | call {c a} (makes : c.Makes s.store.db a) : Makes s (.call c) a
  | restart {n runRef q} (accepted : ConfirmAccepted s n q) (retry : q.disposition = .retry) :
      Makes s (.commit n runRef) (.restart q.jobRef true)
  | abandon {n runRef q} (accepted : ConfirmAccepted s n q) (abandon : q.disposition = .abandon) :
      Makes s (.commit n runRef) (.abandon q.jobRef)
  | claimStop {c d r} (interrupted : r ∈ interruptedRuns s.clock c.ownerEpoch s.workflow) :
      Makes s (.claim c d) (.stop (interruption r.runRef))
  | recoverStop {epoch coordinated d r}
      (interrupted : r ∈ interruptedRuns s.clock epoch s.workflow) :
      Makes s (.recover epoch coordinated d) (.stop (interruption r.runRef))
  | claim (c d) : Makes s (.claim c d) .other
  | nothing (e) : Makes s e .nothing

theorem confirmRecoveryIn_effect {q : ConfirmRequest} {captured : List Marker} {runRef : String}
    {x : JobView × Database} (h : confirmRecoveryIn now q captured runRef db = .ok x) :
    captured = [] ∧ (x.2 = db ∨ db.operatorActions.find? q.idempotencyKey = none ∧
      Idle db.toWorkflow q.jobRef ∧ (∃ j failureRef,
        expectedJob db.toWorkflow q.jobRef q.expectedJobRevision = .ok j ∧ j.Quarantined ∧
          j.failureRef = some failureRef ∧
            GlobalConfirmation db q.globalQuarantineActionRef failureRef) ∧
      (q.disposition = .retry ∧
          Effect now db.toWorkflow (.restart q.jobRef true) x.2.toWorkflow ∨
        q.disposition = .abandon ∧
          Effect now db.toWorkflow (.abandon q.jobRef) x.2.toWorkflow)) := by
  unfold confirmRecoveryIn at h
  split at h
  next =>
    obtain ⟨_, -, h⟩ := bind_eq_ok.1 h
    obtain ⟨_, hmarkers, h⟩ := bind_eq_ok.1 h
    obtain rfl := Except.ok.inj h
    exact ⟨not_not.1 (raiseIf_eq_ok.1 hmarkers), .inl rfl⟩
  next hfresh =>
    obtain ⟨j, hj, h⟩ := bind_eq_ok.1 h
    obtain ⟨_, hquarantined, h⟩ := bind_eq_ok.1 h
    obtain ⟨f, hf, h⟩ := bind_eq_ok.1 h
    obtain ⟨_, hglobal, h⟩ := bind_eq_ok.1 h
    obtain ⟨_, hmarkers, h⟩ := bind_eq_ok.1 h
    obtain ⟨_, hidle, h⟩ := bind_eq_ok.1 h
    obtain ⟨db₁, hresolve, h⟩ := bind_eq_ok.1 h
    obtain ⟨v, -, h⟩ := bind_eq_ok.1 h
    obtain ⟨actions, -, h⟩ := bind_eq_ok.1 h
    obtain rfl := Except.ok.inj h
    obtain ⟨hmem, href⟩ := expectedJob_ok hj
    have hquarantined := not_not.1 (raiseIf_eq_ok.1 hquarantined)
    have hidle : Idle db.toWorkflow q.jobRef := by
      have hnone := raiseIf_eq_ok.1 hidle
      intro r hr hof hrunning
      exact hnone ⟨r, hr, hof, hrunning⟩
    refine ⟨not_not.1 (raiseIf_eq_ok.1 hmarkers), .inr ⟨hfresh, hidle, ⟨j, f, hj, hquarantined,
      orRaise_eq_ok.1 hf, not_not.1 (raiseIf_eq_ok.1 hglobal)⟩, ?_⟩⟩
    unfold resolveRecovery at hresolve
    rw [← href] at hidle hresolve
    split at hresolve
    next habandon =>
      obtain ⟨-, ⟨-, hw⟩ | ⟨hrequest, -⟩⟩ := cancelJobIn_ok hresolve
      · refine .inr ⟨habandon, ?_⟩
        rw [← href]
        change Effect now db.toWorkflow _ db₁.toWorkflow
        exact hw ▸ .abandoned _ hmem hquarantined hidle
      · cases hrequest
    next hretry =>
      obtain ⟨w, hrestart, hresolve⟩ := bind_eq_ok.1 hresolve
      obtain rfl := Except.ok.inj hresolve
      refine .inl ⟨hretry, ?_⟩
      rw [← href]
      exact .recovered hmem hquarantined hidle hrestart

namespace System

@[simp] theorem workflow_setDb (s : System) (db : Database) :
    (s.setDb db).workflow = db.toWorkflow := rfl

@[simp] theorem workflow_endCall (s : System) (n : ℕ) : (s.endCall n).workflow = s.workflow := rfl

@[simp] theorem workflow_setCall (s : System) (n : ℕ) (c : OperatorCall) :
    (s.setCall n c).workflow = s.workflow := rfl

theorem recordClear_workflow {q : ClearRequest} {observed : List Marker} {newRef : String}
    {x : ClearAction × Database} (h : Annotation.recordClear now q observed newRef db = .ok x) :
    x.2.toWorkflow = db.toWorkflow := by
  unfold Annotation.recordClear at h
  split at h
  · obtain ⟨_, -, h⟩ := bind_eq_ok.1 h
    obtain rfl := Except.ok.inj h
    rfl
  · obtain ⟨_, -, h⟩ := bind_eq_ok.1 h
    obtain ⟨_, -, h⟩ := bind_eq_ok.1 h
    obtain ⟨_, -, h⟩ := bind_eq_ok.1 h
    obtain rfl := Except.ok.inj h
    rfl

theorem commitClear_workflow {a : ClearAction} {captured : List Marker}
    (h : Annotation.commitClear now a captured db = .ok db') : db'.toWorkflow = db.toWorkflow := by
  unfold Annotation.commitClear at h
  split at h
  · obtain rfl := Except.ok.inj h
    rfl
  · obtain ⟨_, -, h⟩ := bind_eq_ok.1 h
    obtain rfl := Except.ok.inj h
    rfl

/-- The steps of a call of an operator, apart from the commit of a confirmation, leave the
workflow as it is, and so do the writers. -/
theorem act_workflow (s : System) (e : Event) (hcall : ∀ c, e ≠ .call c)
    (hclaim : ∀ c d, e ≠ .claim c d) (hrecover : ∀ epoch b d, e ≠ .recover epoch b d)
    (hconfirm : ∀ n runRef q captured, e = .commit n runRef →
      s.calls n ≠ some (.confirmLocked q captured)) : (s.act e).workflow = s.workflow := by
  cases e with
  | call c => exact absurd rfl (hcall c)
  | claim c d => exact absurd rfl (hclaim c d)
  | recover epoch b d => exact absurd rfl (hrecover epoch b d)
  | record n newRef =>
    simp only [act]
    split
    next q observed _ =>
      unfold recordClear
      split
      next => rfl
      next hr =>
        have hw := recordClear_workflow hr
        split <;> exact hw
    next => rfl
  | commit n runRef =>
    simp only [act]
    split
    next a captured _ =>
      unfold commitClear
      split
      next => rfl
      next hc => exact commitClear_workflow hc
    next q captured hn => exact absurd hn (hconfirm n runRef q captured rfl)
    next => rfl
  | enter n =>
    simp only [act, enterClearance]
    repeat' split
    all_goals rfl
  | observeClear n q | observeConfirm n q =>
    simp only [act]
    split <;> rfl
  | remove n =>
    simp only [act, removeMarker]
    repeat' split
    all_goals rfl
  | writerEnter token =>
    simp only [act, writerEnter]
    split <;> rfl
  | writerLeave =>
    simp only [act, writerLeave]
    split <;> rfl
  | writerDie =>
    simp only [act, writerDie]
    split <;> rfl
  | tick | changeReleases | crash | createMarker => rfl

/-- A step has one effect that its event makes, or fails runs that were interrupted. -/
def StepEffect (s : System) (e : Event) (w' : Workflow) : Prop :=
  (∃ a, e.Makes s a ∧ Effect s.clock s.workflow a w') ∨
    ∃ l, Run (Effect s.clock) s.workflow l w' ∧
      ∀ x ∈ l, ∃ runRef, x.label = .stop (interruption runRef) ∧ e.Makes s x.label

theorem act_call (s : System) (c : StoreCall) :
    s.act (.call c) = s ∨ ∃ a, c.Makes s.store.db a ∧
      Effect s.clock s.workflow a (s.act (.call c)).workflow ∧
        ∃ db, perform s.clock s.store.db c = .ok db := by
  cases hp : perform s.clock s.store.db c with
  | error err =>
    left
    simp only [act, hp]
  | ok db =>
    obtain ⟨⟨a, hmakes, heffect⟩, -⟩ := perform_performs hp
    have hw : (s.act (.call c)).workflow = db.toWorkflow := by
      simp only [act, hp, workflow_setDb]
    exact .inr ⟨a, hmakes, hw ▸ heffect, db, rfl⟩

theorem act_effect (s : System) (e : Event) : StepEffect s e (s.act e).workflow := by
  have hsame : (s.act e).workflow = s.workflow → StepEffect s e (s.act e).workflow :=
    fun hw => .inl ⟨.nothing, .nothing e, hw ▸ .same _ _⟩
  by_cases hcall : ∃ c, e = .call c
  · obtain ⟨c, rfl⟩ := hcall
    rcases act_call s c with hs | ⟨a, hmakes, heffect, -⟩
    · exact hsame (by rw [hs])
    · exact .inl ⟨a, .call hmakes, heffect⟩
  by_cases hclaim : ∃ c d, e = .claim c d
  · obtain ⟨c, d, rfl⟩ := hclaim
    obtain ⟨heffect | ⟨l, hrun, hlabels⟩, -⟩ := claimNextRun_effects s.clock c d s.store
    · exact .inl ⟨.other, .claim c d, heffect⟩
    · refine .inr ⟨l, hrun, fun x hx => ?_⟩
      obtain ⟨r, hr, hlabel⟩ := hlabels x hx
      exact ⟨r.runRef, hlabel, hlabel ▸ .claimStop hr⟩
  by_cases hrecover : ∃ epoch b d, e = .recover epoch b d
  · obtain ⟨epoch, b, d, rfl⟩ := hrecover
    obtain ⟨⟨l, hrun, hlabels⟩, -⟩ :=
      recoverInterruptedRuns_effects s.clock epoch b d s.store
    refine .inr ⟨l, hrun, fun x hx => ?_⟩
    obtain ⟨r, hr, hlabel⟩ := hlabels x hx
    exact ⟨r.runRef, hlabel, hlabel ▸ .recoverStop hr⟩
  by_cases hconfirm : ∃ n runRef q captured, e = .commit n runRef ∧
      s.calls n = some (.confirmLocked q captured)
  · obtain ⟨n, runRef, q, captured, rfl, hn⟩ := hconfirm
    cases hc : confirmRecoveryIn s.clock q captured runRef s.store.db with
    | error err =>
      apply hsame
      simp only [act, hn, commitConfirm, hc, workflow_endCall]
    | ok x =>
      have hw : (s.act (.commit n runRef)).workflow = x.2.toWorkflow := by
        simp only [act, hn, commitConfirm, hc, workflow_endCall, workflow_setDb]
      obtain ⟨rfl, hx | ⟨hfresh, hidle, hjob, heffect⟩⟩ := confirmRecoveryIn_effect hc
      · apply hsame
        rw [hw, hx]
      · have haccepted : ConfirmAccepted s n q := ⟨hn, hfresh, hjob, hidle⟩
        rw [hw]
        rcases heffect with ⟨hd, heffect⟩ | ⟨hd, heffect⟩
        · exact .inl ⟨_, .restart haccepted hd, heffect⟩
        · exact .inl ⟨_, .abandon haccepted hd, heffect⟩
  · apply hsame
    push Not at hcall hclaim hrecover hconfirm
    exact act_workflow s e hcall hclaim hrecover hconfirm

/-- The clock does not go back. -/
theorem clock_le_act (s : System) (e : Event) : s.clock ≤ (s.act e).clock := by
  cases e with
  | tick ms => exact Nat.le_add_right _ _
  | call c =>
    simp only [act]
    split <;> exact le_refl _
  | observeClear n q | observeConfirm n q =>
    simp only [act]
    split <;> exact le_refl _
  | record n newRef =>
    simp only [act, recordClear]
    repeat' split
    all_goals exact le_refl _
  | enter n =>
    simp only [act, enterClearance]
    repeat' split
    all_goals exact le_refl _
  | commit n runRef =>
    simp only [act, commitClear, commitConfirm]
    repeat' split
    all_goals exact le_refl _
  | remove n =>
    simp only [act, removeMarker]
    repeat' split
    all_goals exact le_refl _
  | writerEnter token =>
    simp only [act, writerEnter]
    split <;> exact le_refl _
  | writerLeave =>
    simp only [act, writerLeave]
    split <;> exact le_refl _
  | writerDie =>
    simp only [act, writerDie]
    split <;> exact le_refl _
  | claim | recover | changeReleases | crash | createMarker => exact le_refl _

theorem Step.effect {s t : System} {e : Event} (h : s.Step e t) : StepEffect s e t.workflow := by
  obtain ⟨rfl, -⟩ := h
  exact act_effect s e

/-- What each effect keeps under a condition on its change is kept by a step, when the changes
that its event makes meet the condition. -/
theorem Step.keeps {inv : Workflow → Prop} {ok : Workflow → Change → Prop} {s t : System}
    {e : Event} (h : s.Step e t) (hs : inv s.workflow)
    (hstop : ∀ w runRef, ok w (.stop (interruption runRef)))
    (hok : ∀ a, e.Makes s a → ok s.workflow a)
    (hkeep : ∀ now w a w', inv w → ok w a → Effect now w a w' → inv w') : inv t.workflow := by
  rcases h.effect with ⟨a, hmakes, heffect⟩ | ⟨l, hrun, hlabels⟩
  · exact hkeep _ _ _ _ hs (hok a hmakes) heffect
  · have hstopped : ∀ x ∈ l, ok x.pre x.label := by
      intro x hx
      obtain ⟨runRef, hlabel, -⟩ := hlabels x hx
      rw [hlabel]
      exact hstop _ _
    exact (hrun.invariant hs hstopped fun x hinv hx hstep => hkeep _ _ _ _ hinv hx hstep).1

end System

/-- The run rule: what each effect keeps under a condition on its change holds in every state
of a run whose events make changes that meet the condition. -/
theorem SystemRun.keeps {inv : Workflow → Prop} {ok : Workflow → Change → Prop} {s : System}
    {l : List (Transition System Event)} (h : SystemRun l s)
    (hinitial : inv Database.initial.toWorkflow)
    (hstop : ∀ w runRef, ok w (.stop (interruption runRef)))
    (hok : ∀ x ∈ l, ∀ a, x.label.Makes x.pre a → ok x.pre.workflow a)
    (hkeep : ∀ now w a w', inv w → ok w a → Effect now w a w' → inv w') :
    inv s.workflow ∧ ∀ x ∈ l, inv x.pre.workflow ∧ inv x.post.workflow := by
  have hstep : ∀ x : Transition System Event, inv x.pre.workflow →
      (∀ a, x.label.Makes x.pre a → ok x.pre.workflow a) → System.Step x.pre x.label x.post →
        inv x.post.workflow :=
    fun _ hinv hx hs => hs.keeps hinv hstop hx hkeep
  have hall := @Run.invariant _ _ _ _ _ _ (fun s : System => inv s.workflow) _ h hinitial hok hstep
  exact hall

end DataJuicer.Annotation
